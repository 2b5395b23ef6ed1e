import RuleFilter.Json.Basic
import RuleFilter.Value.Basic

set_option autoImplicit false

/-! # Types whose elements can be filtered

An element is tested through its view as a value. Integers of any width are held signed or unsigned
in 64 bits, an absent option is nil, and a document's arrays and objects are lists and maps. A
number of a document is viewed in its narrowest holder. -/

namespace RuleFilter

/-- A type whose elements have a view as values. -/
class Candidate (α : Type) where
  value : α → Value

namespace Candidate

instance : Candidate Value := ⟨id⟩

instance : Candidate Bool := ⟨.bool⟩

instance : Candidate String := ⟨.string⟩

instance : Candidate Number := ⟨.number⟩

instance : Candidate Double := ⟨fun x => .number (.double x)⟩

instance : Candidate Int8 := ⟨fun n => .number (.signed n.toInt64)⟩

instance : Candidate Int16 := ⟨fun n => .number (.signed n.toInt64)⟩

instance : Candidate Int32 := ⟨fun n => .number (.signed n.toInt64)⟩

instance : Candidate Int64 := ⟨fun n => .number (.signed n)⟩

instance : Candidate ISize := ⟨fun n => .number (.signed n.toInt64)⟩

instance : Candidate UInt8 := ⟨fun n => .number (.unsigned n.toUInt64)⟩

instance : Candidate UInt16 := ⟨fun n => .number (.unsigned n.toUInt64)⟩

instance : Candidate UInt32 := ⟨fun n => .number (.unsigned n.toUInt64)⟩

instance : Candidate UInt64 := ⟨fun n => .number (.unsigned n)⟩

instance : Candidate USize := ⟨fun n => .number (.unsigned n.toUInt64)⟩

instance {α : Type} [Candidate α] : Candidate (Option α) := ⟨fun x => x.elim .nil value⟩

instance {α : Type} [Candidate α] : Candidate (List α) := ⟨fun xs => .list (xs.map value)⟩

/-- A map lists its entries in key order. -/
instance {α : Type} [Candidate α] : Candidate (List (String × α)) :=
  ⟨fun entries => .map ((Json.membersOf entries).map fun (k, x) => (k, value x))⟩

end Candidate

mutual

/-- The view of a document. -/
def Json.toValue : Json → Value
  | .null => .nil
  | .bool b => .bool b
  | .number n => .number n.held
  | .string s => .string s
  | .array items => .list (Json.toValueList items)
  | .object members => .map (Json.toValueMembers members)

def Json.toValueList : List Json → List Value
  | [] => []
  | j :: js => j.toValue :: Json.toValueList js

def Json.toValueMembers : List (String × Json) → List (String × Value)
  | [] => []
  | (k, j) :: rest => (k, j.toValue) :: Json.toValueMembers rest

end

instance : Candidate Json := ⟨Json.toValue⟩

end RuleFilter
