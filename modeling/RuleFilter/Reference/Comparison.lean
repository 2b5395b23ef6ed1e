import RuleFilter.Reference.Basic
import RuleFilter.Value.Basic

set_option autoImplicit false

/-! # Candidates against references

Equality looks through widths: a number equals a reference when its double does. Lists compare item
by item and maps by key. For order a candidate is a number, or the length of a text, list or map,
and a length is compared with the whole part of the reference. -/

namespace RuleFilter

mutual

/-- Deep equality of a candidate and a reference. Whatever differs in kind is unequal. -/
def Value.equals : Value → Reference → Bool
  | .nil, .null => true
  | .bool a, .bool b => a == b
  | .number n, .number x => n.toDouble.eq x
  | .string s, .string t => s == t
  | .list items, .list refs => Value.equalsList items refs
  | .map entries, .map refs => entries.length == refs.length && Value.equalsEntries entries refs
  | _, _ => false

/-- Item by item equality of lists of one length. -/
def Value.equalsList : List Value → List Reference → Bool
  | [], [] => true
  | v :: vs, r :: rs => v.equals r && Value.equalsList vs rs
  | _, _ => false

/-- Every entry equals the reference of its key. -/
def Value.equalsEntries : List (String × Value) → List (String × Reference) → Bool
  | [], _ => true
  | (k, v) :: rest, refs =>
    (match refs.lookup k with
      | some r => v.equals r
      | none => false) && Value.equalsEntries rest refs

end

/-- The left side of an ordering comparison. -/
inductive Operand where
  | number (x : Double)
  | length (n : Nat)
deriving DecidableEq

/-- What of a value is put in order; nil, truth values and records have no order. -/
def Value.operand? : Value → Option Operand
  | .number n => some (.number n.toDouble)
  | v => v.length?.map .length

/-- The order of an operand and a reference, where there is one. -/
def Operand.compare (reference : Double) : Operand → Option Ordering
  | number x => x.compare reference
  | length n => (Double.ofNat n).compare reference.trunc

end RuleFilter
