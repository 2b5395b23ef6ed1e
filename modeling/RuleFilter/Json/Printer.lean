import RuleFilter.Json.Basic
import RuleFilter.Double.Decimal

set_option autoImplicit false

/-! # Writing JSON

Compact text: no blanks, members in the order they are held, strings with the short escapes and
`\u00xx` for the other control characters, and numbers in the fewest digits. A double that is not
finite has no JSON form and is written `null`. -/

namespace RuleFilter.Json

/-- Doubles show a fraction from `10⁻⁵` up to `10¹⁶`, and a signed power of ten beyond; a tie
between two shortest forms goes to the even digit. -/
def numeralLayout : NumeralLayout := ⟨-5, 16, true, .even⟩

def numberText : Number → List Char
  | .signed n => if n.toInt < 0 then '-' :: Numeral.digitsOf n.toInt.natAbs
      else Numeral.digitsOf n.toInt.natAbs
  | .unsigned n => Numeral.digitsOf n.toNat
  | .double (.finite negative m) => (numeralLayout.text negative m).toList
  | .double _ => ['n', 'u', 'l', 'l']

/-- A lowercase hexadecimal digit. -/
def hexDigit (n : Nat) : Char := Nat.digitChar n

/-- A character as it stands between quotes. -/
def escape (c : Char) : List Char :=
  if c = '"' then ['\\', '"']
  else if c = '\\' then ['\\', '\\']
  else if c = '\x08' then ['\\', 'b']
  else if c = '\x0c' then ['\\', 'f']
  else if c = '\n' then ['\\', 'n']
  else if c = '\r' then ['\\', 'r']
  else if c = '\t' then ['\\', 't']
  else if c.toNat < 0x20 then
    ['\\', 'u', '0', '0', hexDigit (c.toNat / 16), hexDigit (c.toNat % 16)]
  else [c]

def stringText (s : String) : List Char := '"' :: s.toList.flatMap escape ++ ['"']

mutual

/-- The text of a document. -/
def render : Json → List Char
  | null => ['n', 'u', 'l', 'l']
  | bool true => ['t', 'r', 'u', 'e']
  | bool false => ['f', 'a', 'l', 's', 'e']
  | number n => numberText n
  | string s => stringText s
  | array [] => ['[', ']']
  | array (item :: items) => '[' :: (render item ++ renderItems items)
  | object [] => ['\x7b', '\x7d']
  | object ((key, value) :: members) =>
    '\x7b' :: (stringText key ++ ':' :: (render value ++ renderMembers members))

/-- The items after the first, with the closing bracket. -/
def renderItems : List Json → List Char
  | [] => [']']
  | item :: items => ',' :: (render item ++ renderItems items)

/-- The members after the first, with the closing brace. -/
def renderMembers : List (String × Json) → List Char
  | [] => ['\x7d']
  | (key, value) :: members =>
    ',' :: (stringText key ++ ':' :: (render value ++ renderMembers members))

end

/-- The text of a document. -/
def text (j : Json) : String := String.ofList j.render

end RuleFilter.Json
