import RuleFilter.Number
import RuleFilter.Value.FieldDef

set_option autoImplicit false

/-! # Candidate values

The view of an element that rules are tested against: scalars, lists, maps and records. A map lists
its entries as its owner does, and an owner that lists a key twice is taken at its word. A record
has an identity, which is all that equality of records looks at; a field holds what the record
answers for it. -/

namespace RuleFilter

/-- A candidate value. -/
inductive Value where
  | nil
  | bool (b : Bool)
  | number (n : Number)
  | string (s : String)
  | list (items : List Value)
  | map (entries : List (String × Value))
  | record (identity : Nat) (fields : List (FieldDef × Value))

namespace Value

instance : Inhabited Value := ⟨nil⟩

/-- The kinds of values. -/
inductive Kind where
  | nil
  | bool
  | number
  | string
  | list
  | map
  | record
deriving DecidableEq

/-- The word for a kind. -/
def Kind.name : Kind → String
  | nil => "nil"
  | bool => "bool"
  | number => "number"
  | string => "string"
  | list => "list"
  | map => "map"
  | record => "record"

def kind : Value → Kind
  | nil => .nil
  | bool _ => .bool
  | number _ => .number
  | string _ => .string
  | list _ => .list
  | map _ => .map
  | record _ _ => .record

def isNil : Value → Bool
  | nil => true
  | _ => false

def string? : Value → Option String
  | string s => some s
  | _ => none

def number? : Value → Option Number
  | number n => some n
  | _ => none

def bool? : Value → Option Bool
  | bool b => some b
  | _ => none

/-- The length of a value that has one: bytes of UTF-8, items or entries. -/
def length? : Value → Option Nat
  | string s => some s.utf8ByteSize
  | list items => some items.length
  | map entries => some entries.length
  | _ => none

/-- A path can go on from the value. -/
def isNavigable : Value → Bool
  | map _ => true
  | record _ _ => true
  | _ => false

/-! ## Equality -/

mutual

/-- Equality of values: numbers within one width, lists and maps entry by entry in order, and
records by identity. -/
def beq : Value → Value → Bool
  | nil, nil => true
  | bool a, bool b => a == b
  | number m, number n => m == n
  | string s, string t => s == t
  | list xs, list ys => beqList xs ys
  | map xs, map ys => beqEntries xs ys
  | record i _, record j _ => i == j
  | _, _ => false

def beqList : List Value → List Value → Bool
  | [], [] => true
  | x :: xs, y :: ys => beq x y && beqList xs ys
  | _, _ => false

def beqEntries : List (String × Value) → List (String × Value) → Bool
  | [], [] => true
  | (k, x) :: xs, (l, y) :: ys => k == l && beq x y && beqEntries xs ys
  | _, _ => false

end

instance : BEq Value := ⟨beq⟩

end Value

end RuleFilter
