import RuleFilter.Text.CharSet
import RuleFilter.Unicode.Additions

set_option autoImplicit false

/-! # Quoted text

Text as a description shows it: between quotes, with everything that would not be seen as a
character of its own given by its code. That is what has no glyph, what a display may leave out and
what attaches to the character before. -/

namespace RuleFilter.Text

/-- Code points without a glyph: controls, formats, unassigned and private ones, separators, and
fillers that a display may leave out. -/
def invisible : CharSet :=
  (CharSet.ofRanges (Unicode.ofCategories ["Cc", "Cf", "Cs", "Co", "Cn", "Zl", "Zp", "Zs"])).diff
      (.ofRanges (Unicode.additions.map (·.range)))
    |>.union (.ofRanges (Unicode.ranges Unicode.defaultIgnorableCodePointRuns))

/-- Code points that attach to the character before them. The letters among them, the sound marks of
narrow kana, take a place of their own. -/
def attaching : CharSet :=
  (CharSet.ofRanges (Unicode.ranges Unicode.graphemeExtendRuns)).diff
      (.ofRanges (Unicode.ofCategories ["Lm"]))
    |>.union (.ofRanges (Unicode.additionsOf ["Mn"]))

/-- The character is shown as it is. -/
def isVisible (c : Char) : Bool :=
  if c.toNat < 0x7F then 0x20 ≤ c.toNat else !invisible.contains c && !attaching.contains c

/-- A character as it stands between quotes. -/
def quotedChar (c : Char) : List Char :=
  if c = '"' then ['\\', '"']
  else if c = '\\' then ['\\', '\\']
  else if c = '\x00' then ['\\', '0']
  else if c = '\t' then ['\\', 't']
  else if c = '\n' then ['\\', 'n']
  else if c = '\r' then ['\\', 'r']
  else if isVisible c then [c]
  else ['\\', 'u', '\x7b'] ++ Nat.toDigits 16 c.toNat ++ ['\x7d']

/-- A text between quotes. -/
def quoted (s : String) : String := String.ofList ('"' :: s.toList.flatMap quotedChar ++ ['"'])

end RuleFilter.Text
