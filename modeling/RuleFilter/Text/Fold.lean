import RuleFilter.Unicode.Case

set_option autoImplicit false

/-! # Comparing text without regard to case

Every character is taken to one representative of those that differ from it in case only, through
its uppercase form. The other case of a character may be several characters; such a form is not
taken, so folding never changes how many characters a text has. The dotted and dotless letters `İ`
and `ı` stay apart from `i`. -/

namespace RuleFilter.Text

/-- What a character becomes under an expansion or, where it has none, under a map. A character that
neither of them knows stays. -/
def mapped (expansions : List (Nat × List Nat)) (m : Unicode.CodeMap) (c : Char) : List Char :=
  match expansions.lookup c.toNat with
  | some points => points.map Char.ofNat
  | none => [(m.image? c.toNat).elim c Char.ofNat]

/-- The uppercase form of a character. -/
def uppercase (c : Char) : List Char :=
  if c.toNat < 0x80 then [c.toUpper]
  else mapped Unicode.uppercaseExpansions Unicode.uppercaseMap c

/-- The lowercase form of a character. -/
def lowercase (c : Char) : List Char :=
  if c.toNat < 0x80 then [c.toLower]
  else mapped Unicode.lowercaseExpansions Unicode.lowercaseMap c

/-- The character that is alone. -/
def single : List Char → Option Char
  | [c] => some c
  | _ => none

/-- The representative of the characters that differ in case only. -/
def foldChar (c : Char) : Char :=
  if c = 'ı' ∨ c = 'İ' then c
  else
    let upper := (single (uppercase c)).getD c
    (single (lowercase upper)).getD upper

/-- Folds every character of a text. -/
def fold (s : String) : String := String.ofList (s.toList.map foldChar)

end RuleFilter.Text
