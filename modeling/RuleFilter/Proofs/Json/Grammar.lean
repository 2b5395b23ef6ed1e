import Mathlib.Data.Nat.Digits.Defs
import RuleFilter.Double.Decimal
import RuleFilter.Json.Basic

set_option autoImplicit false

/-! # The grammar of JSON texts

What the texts of a document look like, rule by rule and without a look at any reader. A document as
it is written (`Written`) has numerals for its numbers, digit by digit. A rule relates a document to
the characters in front of which its text stands and to those that are left behind it; blanks may
stand between the marks (`Gap`), and a character of a string may be written as an escape
(`WritesChar`).

The numbers of the document are a matter of their own: it becomes a document of numbers by a choice
of one for each numeral (`Written.json`), of which the nearest double is one
(`WrittenNumber.nearest`). -/

namespace RuleFilter.Json

/-! ## Blanks -/

/-- Spaces, tabs and line ends up to what is left. -/
inductive Gap : List Char → List Char → Prop
  | none {rest : List Char} : Gap rest rest
  | blank {c : Char} {cs rest : List Char} (hc : c ∈ [' ', '\t', '\n', '\r']) (h : Gap cs rest) :
      Gap (c :: cs) rest

/-! ## Numerals -/

/-- The characters of a row of digits. -/
def digitChars (digits : List (Fin 10)) : List Char :=
  digits.map fun (d : Fin 10) => Nat.digitChar d

/-- The number that a row of digits writes. -/
def digitsValue (digits : List (Fin 10)) : Nat := Nat.ofDigits 10 (digits.reverse.map Fin.val)

/-- A power of ten, behind its mark and perhaps a sign. -/
structure WrittenPower where
  mark : Char
  sign : Option Char
  digits : List (Fin 10)
  mark_mem : mark ∈ ['e', 'E']
  sign_mem : ∀ c ∈ sign, c ∈ ['+', '-']
  digits_ne_nil : digits ≠ []

namespace WrittenPower

def chars (p : WrittenPower) : List Char := p.mark :: (p.sign.toList ++ digitChars p.digits)

def value (p : WrittenPower) : Int :=
  if p.sign = some '-' then -(digitsValue p.digits : Int) else digitsValue p.digits

end WrittenPower

/-- A numeral: a sign, digits, of which only a lone zero starts with a zero, perhaps a point with
digits behind it, and perhaps a power of ten. -/
structure WrittenNumber where
  negative : Bool
  whole : List (Fin 10)
  /-- The digits behind the point; without any there is no point. -/
  fraction : List (Fin 10)
  power : Option WrittenPower
  whole_ne_nil : whole ≠ []
  zero_alone : whole.head? = some 0 → whole = [0]

namespace WrittenNumber

def chars (n : WrittenNumber) : List Char :=
  (if n.negative then ['-'] else []) ++ (digitChars n.whole
    ++ ((if n.fraction = [] then [] else '.' :: digitChars n.fraction)
      ++ n.power.elim [] WrittenPower.chars))

/-- The decimal that the numeral writes. -/
def decimal (n : WrittenNumber) : Decimal :=
  ⟨n.negative, digitsValue (n.whole ++ n.fraction),
    n.power.elim 0 WrittenPower.value - n.fraction.length⟩

/-- The double nearest to the numeral. -/
def nearest (n : WrittenNumber) : Double := n.decimal.toDouble

end WrittenNumber

/-! ## Strings -/

/-- The value of a hexadecimal digit, in small or capital letters. -/
def WritesHexDigit (value : Nat) (c : Char) : Prop :=
  "0123456789abcdef".toList[value]? = some c ∨ "0123456789ABCDEF".toList[value]? = some c

/-- Four hexadecimal digits, of which the first counts most. -/
inductive WritesUnit : Nat → List Char → List Char → Prop
  | digits {d₃ d₂ d₁ d₀ : Nat} {c₃ c₂ c₁ c₀ : Char} {rest : List Char}
      (h₃ : WritesHexDigit d₃ c₃) (h₂ : WritesHexDigit d₂ c₂) (h₁ : WritesHexDigit d₁ c₁)
      (h₀ : WritesHexDigit d₀ c₀) :
      WritesUnit (0x1000 * d₃ + 0x100 * d₂ + 0x10 * d₁ + d₀) (c₃ :: c₂ :: c₁ :: c₀ :: rest) rest

/-- The letters of the short escapes, and what they stand for. -/
def shortEscapes : List (Char × Char) :=
  [('"', '"'), ('\\', '\\'), ('/', '/'), ('b', '\x08'), ('f', '\x0c'), ('n', '\n'), ('r', '\r'),
    ('t', '\t')]

/-- A character of a string: as itself, by a short escape, by its number, or by the numbers of a
pair of surrogates. -/
inductive WritesChar : Char → List Char → List Char → Prop
  | plain {c : Char} {rest : List Char} (hcontrol : 0x20 ≤ c.toNat) (hquote : c ≠ '"')
      (hbackslash : c ≠ '\\') : WritesChar c (c :: rest) rest
  | short {letter c : Char} {rest : List Char} (h : (letter, c) ∈ shortEscapes) :
      WritesChar c ('\\' :: letter :: rest) rest
  | unit {c : Char} {cs rest : List Char} (h : WritesUnit c.toNat cs rest) :
      WritesChar c ('\\' :: 'u' :: cs) rest
  | pair {c : Char} {high low : Nat} {cs after rest : List Char}
      (hhigh : WritesUnit (0xD800 + high) cs ('\\' :: 'u' :: after)) (hsmall : high < 0x400)
      (hlow : WritesUnit (0xDC00 + low) after rest) (hsmall' : low < 0x400)
      (hc : c.toNat = 0x10000 + 0x400 * high + low) : WritesChar c ('\\' :: 'u' :: cs) rest

/-- Characters of a string, up to and with the closing quote. -/
inductive WritesChars : List Char → List Char → List Char → Prop
  | close {rest : List Char} : WritesChars [] ('"' :: rest) rest
  | more {c : Char} {s cs after rest : List Char} (hc : WritesChar c cs after)
      (hs : WritesChars s after rest) : WritesChars (c :: s) cs rest

/-! ## Documents -/

/-- A document as it is written. -/
inductive Written where
  | null
  | bool (b : Bool)
  | number (n : WrittenNumber)
  | string (s : String)
  | array (items : List Written)
  | object (members : List (String × Written))

mutual

/-- The document, from its first character to its last. -/
inductive Writes : Written → List Char → List Char → Prop
  | null {rest : List Char} : Writes .null ('n' :: 'u' :: 'l' :: 'l' :: rest) rest
  | true {rest : List Char} : Writes (.bool true) ('t' :: 'r' :: 'u' :: 'e' :: rest) rest
  | false {rest : List Char} : Writes (.bool false) ('f' :: 'a' :: 'l' :: 's' :: 'e' :: rest) rest
  | number {n : WrittenNumber} {rest : List Char} : Writes (.number n) (n.chars ++ rest) rest
  | string {s : String} {cs rest : List Char} (h : WritesChars s.toList cs rest) :
      Writes (.string s) ('"' :: cs) rest
  | emptyArray {cs rest : List Char} (h : Gap cs (']' :: rest)) :
      Writes (.array []) ('[' :: cs) rest
  | array {item : Written} {items : List Written} {cs start after rest : List Char}
      (hgap : Gap cs start) (hitem : Writes item start after)
      (hitems : WritesItems items after rest) :
      Writes (.array (item :: items)) ('[' :: cs) rest
  | emptyObject {cs rest : List Char} (h : Gap cs ('\x7d' :: rest)) :
      Writes (.object []) ('\x7b' :: cs) rest
  | object {key : String} {value : Written} {members : List (String × Written)}
      {cs start after rest : List Char} (hgap : Gap cs start)
      (hmember : WritesMember key value start after) (hmembers : WritesMembers members after rest) :
      Writes (.object ((key, value) :: members)) ('\x7b' :: cs) rest

/-- Items behind one that is written, each behind a comma, and the closing bracket. -/
inductive WritesItems : List Written → List Char → List Char → Prop
  | close {cs rest : List Char} (h : Gap cs (']' :: rest)) : WritesItems [] cs rest
  | comma {item : Written} {items : List Written} {cs behind start after rest : List Char}
      (hcomma : Gap cs (',' :: behind)) (hgap : Gap behind start) (hitem : Writes item start after)
      (hitems : WritesItems items after rest) : WritesItems (item :: items) cs rest

/-- A key, a colon and the value. -/
inductive WritesMember : String → Written → List Char → List Char → Prop
  | colon {key : String} {value : Written} {cs behind after start rest : List Char}
      (hkey : WritesChars key.toList cs behind) (hcolon : Gap behind (':' :: after))
      (hgap : Gap after start) (hvalue : Writes value start rest) :
      WritesMember key value ('"' :: cs) rest

/-- Members behind one that is written, each behind a comma, and the closing brace. -/
inductive WritesMembers : List (String × Written) → List Char → List Char → Prop
  | close {cs rest : List Char} (h : Gap cs ('\x7d' :: rest)) : WritesMembers [] cs rest
  | comma {key : String} {value : Written} {members : List (String × Written)}
      {cs behind start after rest : List Char} (hcomma : Gap cs (',' :: behind))
      (hgap : Gap behind start) (hmember : WritesMember key value start after)
      (hmembers : WritesMembers members after rest) :
      WritesMembers ((key, value) :: members) cs rest

end

namespace Written

/-- The text is one of the document, with blanks around it. -/
def IsText (d : Written) (text : String) : Prop :=
  ∃ start rest, Gap text.toList start ∧ Writes d start rest ∧ Gap rest []

/-! ## The numbers of a document -/

mutual

/-- The numerals in the document, in its order. -/
def numerals : Written → List WrittenNumber
  | number n => [n]
  | array items => numeralsItems items
  | object members => numeralsMembers members
  | _ => []

def numeralsItems : List Written → List WrittenNumber
  | [] => []
  | item :: items => numerals item ++ numeralsItems items

def numeralsMembers : List (String × Written) → List WrittenNumber
  | [] => []
  | (_, value) :: members => numerals value ++ numeralsMembers members

end

mutual

/-- The document with a number for each numeral. -/
def json (f : WrittenNumber → Number) : Written → Json
  | null => .null
  | bool b => .bool b
  | number n => .number (f n)
  | string s => .string s
  | array items => .array (jsonItems f items)
  | object members => .object (jsonMembers f members)

def jsonItems (f : WrittenNumber → Number) : List Written → List Json
  | [] => []
  | item :: items => json f item :: jsonItems f items

def jsonMembers (f : WrittenNumber → Number) : List (String × Written) → List (String × Json)
  | [] => []
  | (key, value) :: members => (key, json f value) :: jsonMembers f members

end

/-- The document of the nearest doubles. -/
def nearest (d : Written) : Json := d.json fun n => .double n.nearest

end Written

/-! ## Every document has a text -/

/-- A string without control characters, quotes and backslashes may be written as it is. -/
theorem writesChars_self {s : List Char}
    (hs : (s.all fun c => 0x20 ≤ c.toNat ∧ c ≠ '"' ∧ c ≠ '\\') = true) (rest : List Char) :
    WritesChars s (s ++ '"' :: rest) rest := by
  induction s with
  | nil => exact .close
  | cons c s ih =>
      rw [List.all_cons, Bool.and_eq_true, decide_eq_true_iff] at hs
      obtain ⟨⟨hcontrol, hquote, hbackslash⟩, hs⟩ := hs
      exact .more (.plain hcontrol hquote hbackslash) (ih hs)

theorem exists_writesUnit {n : Nat} (hn : n < 0x10000) (rest : List Char) :
    ∃ cs, WritesUnit n cs rest := by
  have hdigit : ∀ d < 16, ∃ c, WritesHexDigit d c := fun d hd =>
    ⟨"0123456789abcdef".toList.get ⟨d, hd⟩, .inl (List.getElem?_eq_getElem hd)⟩
  obtain ⟨c₃, h₃⟩ := hdigit (n / 0x1000) (by omega)
  obtain ⟨c₂, h₂⟩ := hdigit (n / 0x100 % 0x10) (by omega)
  obtain ⟨c₁, h₁⟩ := hdigit (n / 0x10 % 0x10) (by omega)
  obtain ⟨c₀, h₀⟩ := hdigit (n % 0x10) (by omega)
  have hvalue : 0x1000 * (n / 0x1000) + 0x100 * (n / 0x100 % 0x10) + 0x10 * (n / 0x10 % 0x10)
      + n % 0x10 = n := by omega
  have hunit : WritesUnit _ _ rest := .digits h₃ h₂ h₁ h₀
  rw [hvalue] at hunit
  exact ⟨_, hunit⟩

theorem exists_writesChar (c : Char) (rest : List Char) : ∃ cs, WritesChar c cs rest := by
  by_cases hplain : 0x20 ≤ c.toNat ∧ c ≠ '"' ∧ c ≠ '\\'
  · exact ⟨_, .plain hplain.1 hplain.2.1 hplain.2.2⟩
  · have hsmall : c.toNat < 0x10000 := by
      by_contra hlarge
      refine hplain ⟨by omega, ?_, ?_⟩ <;> (rintro rfl; exact hlarge (by decide))
    obtain ⟨cs, hcs⟩ := exists_writesUnit hsmall rest
    exact ⟨_, .unit hcs⟩

theorem exists_writesChars (s rest : List Char) : ∃ cs, WritesChars s cs rest := by
  induction s with
  | nil => exact ⟨_, .close⟩
  | cons c s ih =>
      obtain ⟨after, hs⟩ := ih
      obtain ⟨cs, hc⟩ := exists_writesChar c after
      exact ⟨cs, .more hc hs⟩

mutual

theorem exists_writes (d : Written) (rest : List Char) : ∃ cs, Writes d cs rest := by
  match d with
  | .null => exact ⟨_, .null⟩
  | .bool true => exact ⟨_, .true⟩
  | .bool false => exact ⟨_, .false⟩
  | .number n => exact ⟨_, .number⟩
  | .string s =>
      obtain ⟨cs, hs⟩ := exists_writesChars s.toList rest
      exact ⟨_, .string hs⟩
  | .array [] => exact ⟨_, .emptyArray .none⟩
  | .array (item :: items) =>
      obtain ⟨after, hitems⟩ := exists_writesItems items rest
      obtain ⟨start, hitem⟩ := exists_writes item after
      exact ⟨_, .array .none hitem hitems⟩
  | .object [] => exact ⟨_, .emptyObject .none⟩
  | .object ((key, value) :: members) =>
      obtain ⟨after, hmembers⟩ := exists_writesMembers members rest
      obtain ⟨start, hvalue⟩ := exists_writes value after
      obtain ⟨cs, hkey⟩ := exists_writesChars key.toList (':' :: start)
      exact ⟨_, .object .none (.colon hkey .none .none hvalue) hmembers⟩

theorem exists_writesItems (items : List Written) (rest : List Char) :
    ∃ cs, WritesItems items cs rest := by
  match items with
  | [] => exact ⟨_, .close .none⟩
  | item :: items =>
      obtain ⟨after, hitems⟩ := exists_writesItems items rest
      obtain ⟨start, hitem⟩ := exists_writes item after
      exact ⟨_, .comma .none .none hitem hitems⟩

theorem exists_writesMembers (members : List (String × Written)) (rest : List Char) :
    ∃ cs, WritesMembers members cs rest := by
  match members with
  | [] => exact ⟨_, .close .none⟩
  | (key, value) :: members =>
      obtain ⟨after, hmembers⟩ := exists_writesMembers members rest
      obtain ⟨start, hvalue⟩ := exists_writes value after
      obtain ⟨cs, hkey⟩ := exists_writesChars key.toList (':' :: start)
      exact ⟨_, .comma .none .none (.colon hkey .none .none hvalue) hmembers⟩

end

theorem Written.exists_isText (d : Written) : ∃ text, d.IsText text := by
  obtain ⟨cs, h⟩ := exists_writes d []
  exact ⟨String.ofList cs, cs, [], by rw [String.toList_ofList]; exact .none, h, .none⟩

end RuleFilter.Json
