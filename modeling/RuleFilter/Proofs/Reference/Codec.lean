import RuleFilter.Proofs.Json.Document
import RuleFilter.Reference.Basic

set_option autoImplicit false

/-! # References are read back from their documents

Numbers are doubles on both sides, and a reference in order has its keys rising already, so putting
the members of its document in order changes nothing: the document stands for the reference
(`OrderedReference.ofJson_toJson`). The document is as deep as the reference and has its numbers. -/

namespace RuleFilter

namespace Reference

/-! ## Depth and numbers -/

mutual

/-- How many lists and maps stand inside each other at the deepest place. -/
def depth : Reference → Nat
  | list items => depthItems items + 1
  | map entries => depthEntries entries + 1
  | _ => 0

def depthItems : List Reference → Nat
  | [] => 0
  | r :: rs => max (depth r) (depthItems rs)

def depthEntries : List (String × Reference) → Nat
  | [] => 0
  | (_, r) :: rest => max (depth r) (depthEntries rest)

end

mutual

/-- Every number in the reference is finite. -/
def IsFinite : Reference → Prop
  | number x => x.isFinite = true
  | list items => IsFiniteItems items
  | map entries => IsFiniteEntries entries
  | _ => True

def IsFiniteItems : List Reference → Prop
  | [] => True
  | r :: rs => IsFinite r ∧ IsFiniteItems rs

def IsFiniteEntries : List (String × Reference) → Prop
  | [] => True
  | (_, r) :: rest => IsFinite r ∧ IsFiniteEntries rest

end

mutual

/-- The numbers in the reference, in its order. -/
def numbers : Reference → List Double
  | number x => [x]
  | list items => numbersItems items
  | map entries => numbersEntries entries
  | _ => []

def numbersItems : List Reference → List Double
  | [] => []
  | r :: rs => numbers r ++ numbersItems rs

def numbersEntries : List (String × Reference) → List Double
  | [] => []
  | (_, r) :: rest => numbers r ++ numbersEntries rest

end

/-! ## The document of a reference -/

mutual

theorem depth_toJson (r : Reference) : r.toJson.depth = r.depth := by
  match r with
  | null | bool _ | number _ | string _ => rfl
  | list items => exact congrArg (· + 1) (depthItems_toJson items)
  | map entries => exact congrArg (· + 1) (depthMembers_toJson entries)

theorem depthItems_toJson (items : List Reference) :
    Json.depthItems (toJsonList items) = depthItems items := by
  match items with
  | [] => rfl
  | r :: rs => rw [toJsonList, Json.depthItems, depthItems, depth_toJson r, depthItems_toJson rs]

theorem depthMembers_toJson (entries : List (String × Reference)) :
    Json.depthMembers (toJsonEntries entries) = depthEntries entries := by
  match entries with
  | [] => rfl
  | (k, r) :: rest =>
      rw [toJsonEntries, Json.depthMembers, depthEntries, depth_toJson r, depthMembers_toJson rest]

end

mutual

theorem isFinite_toJson {r : Reference} (h : r.IsFinite) : r.toJson.IsFinite := by
  match r with
  | null | bool _ | string _ => trivial
  | number x => exact h
  | list items => exact isFiniteItems_toJson h
  | map entries => exact isFiniteMembers_toJson h

theorem isFiniteItems_toJson {items : List Reference} (h : IsFiniteItems items) :
    Json.IsFiniteItems (toJsonList items) := by
  match items with
  | [] => trivial
  | r :: rs => exact ⟨isFinite_toJson h.1, isFiniteItems_toJson h.2⟩

theorem isFiniteMembers_toJson {entries : List (String × Reference)} (h : IsFiniteEntries entries) :
    Json.IsFiniteMembers (toJsonEntries entries) := by
  match entries with
  | [] => trivial
  | (k, r) :: rest => exact ⟨isFinite_toJson h.1, isFiniteMembers_toJson h.2⟩

end

mutual

/-- The numbers of a document of a reference are all doubles. -/
theorem numbers_toJson (r : Reference) : r.toJson.numbers = r.numbers.map .double := by
  match r with
  | null | bool _ | string _ | number _ => rfl
  | list items => exact numbersItems_toJson items
  | map entries => exact numbersMembers_toJson entries

theorem numbersItems_toJson (items : List Reference) :
    Json.numbersItems (toJsonList items) = (numbersItems items).map .double := by
  match items with
  | [] => rfl
  | r :: rs =>
      rw [toJsonList, Json.numbersItems, numbersItems, numbers_toJson r, numbersItems_toJson rs,
        List.map_append]

theorem numbersMembers_toJson (entries : List (String × Reference)) :
    Json.numbersMembers (toJsonEntries entries) = (numbersEntries entries).map .double := by
  match entries with
  | [] => rfl
  | (k, r) :: rest =>
      rw [toJsonEntries, Json.numbersMembers, numbersEntries, numbers_toJson r,
        numbersMembers_toJson rest, List.map_append]

end

mutual

/-- The document of a reference in order stands for the reference. -/
theorem ofJson_toJson {r : Reference} (h : r.Ordered) : ofJson r.toJson = r := by
  match r with
  | null | bool _ | number _ | string _ => rfl
  | list items => exact congrArg list (ofJsonList_toJsonList h)
  | map entries =>
      rw [toJson, ofJson, ofJsonMembers_toJsonEntries h.2, ofEntries,
        Json.membersOf_of_keysRise h.1]

theorem ofJsonList_toJsonList {items : List Reference} (h : OrderedItems items) :
    ofJsonList (toJsonList items) = items := by
  match items with
  | [] => rfl
  | r :: rs => rw [toJsonList, ofJsonList, ofJson_toJson h.1, ofJsonList_toJsonList h.2]

theorem ofJsonMembers_toJsonEntries {entries : List (String × Reference)}
    (h : OrderedEntries entries) : ofJsonMembers (toJsonEntries entries) = entries := by
  match entries with
  | [] => rfl
  | (k, r) :: rest =>
      rw [toJsonEntries, ofJsonMembers, ofJson_toJson h.1, ofJsonMembers_toJsonEntries h.2]

end

end Reference

theorem OrderedReference.ofJson_toJson (r : OrderedReference) : ofJson r.reference.toJson = r :=
  OrderedReference.ext (Reference.ofJson_toJson r.ordered)

end RuleFilter
