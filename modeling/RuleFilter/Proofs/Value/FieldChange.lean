import RuleFilter.Proofs.Value.Indistinct

set_option autoImplicit false

/-! # Changing the fields of records

A change is made in every record of a value, at whatever depth: to the definitions of its fields, to
what some of the fields hold, and to which object it is (`FieldChange`, `Value.changed`). Predicates
never look into records, so none tells the changed value from the value (`test_changed`). -/

namespace RuleFilter

/-- A change to make in records. -/
structure FieldChange where
  /-- Which object becomes of one. -/
  identity : Nat → Nat
  /-- What becomes of a field's definition. -/
  definition : FieldDef → FieldDef
  /-- The field goes on holding what it held; otherwise it holds nil. -/
  keeps : FieldDef → Bool

namespace Value

mutual

/-- The value with the change made in all its records. -/
def changed (c : FieldChange) : Value → Value
  | list items => list (changedItems c items)
  | map entries => map (changedEntries c entries)
  | record i fields => record (c.identity i) (changedFields c fields)
  | v => v

def changedItems (c : FieldChange) : List Value → List Value
  | [] => []
  | v :: vs => v.changed c :: changedItems c vs

def changedEntries (c : FieldChange) : List (String × Value) → List (String × Value)
  | [] => []
  | (k, v) :: rest => (k, v.changed c) :: changedEntries c rest

def changedFields (c : FieldChange) : List (FieldDef × Value) → List (FieldDef × Value)
  | [] => []
  | (d, v) :: rest =>
    (c.definition d, if c.keeps d then v.changed c else nil) :: changedFields c rest

end

variable (c : FieldChange)

/-! ## What a change leaves as it is -/

theorem length_changedItems (items : List Value) :
    (changedItems c items).length = items.length := by
  induction items with
  | nil => rfl
  | cons v vs ih => rw [changedItems, List.length_cons, List.length_cons, ih]

theorem length_changedEntries (entries : List (String × Value)) :
    (changedEntries c entries).length = entries.length := by
  induction entries with
  | nil => rfl
  | cons e rest ih => rw [changedEntries, List.length_cons, List.length_cons, ih]

theorem lookup_changedEntries (k : String) (entries : List (String × Value)) :
    (changedEntries c entries).lookup k = (entries.lookup k).map (changed c) := by
  induction entries with
  | nil => rfl
  | cons e rest ih =>
      rw [changedEntries, List.lookup_cons, List.lookup_cons, ih]
      cases k == e.1 <;> rfl

@[simp] theorem isNil_changed (v : Value) : (v.changed c).isNil = v.isNil := by
  cases v <;> rfl

@[simp] theorem kind_changed (v : Value) : (v.changed c).kind = v.kind := by
  cases v <;> rfl

@[simp] theorem string?_changed (v : Value) : (v.changed c).string? = v.string? := by
  cases v <;> rfl

@[simp] theorem operand?_changed (v : Value) : (v.changed c).operand? = v.operand? := by
  cases v with
  | list items => simp [changed, operand?, length?, length_changedItems]
  | map entries => simp [changed, operand?, length?, length_changedEntries]
  | _ => rfl

/-! ## Equality with a reference -/

mutual

theorem equals_changed (v : Value) (r : Reference) : (v.changed c).equals r = v.equals r := by
  match v with
  | nil | bool _ | number _ | string _ => rfl
  | list items =>
      cases r with
      | list refs => exact equalsList_changed items refs
      | _ => rfl
  | map entries =>
      cases r with
      | map refs =>
          rw [changed, equals, equals, length_changedEntries, equalsEntries_changed entries refs]
      | _ => rfl
  | record i fields => cases r <;> rfl

theorem equalsList_changed (items : List Value) (refs : List Reference) :
    equalsList (changedItems c items) refs = equalsList items refs := by
  match items, refs with
  | [], _ => rfl
  | _ :: _, [] => rfl
  | v :: vs, r :: rs =>
      rw [changedItems, equalsList, equalsList, equals_changed v r, equalsList_changed vs rs]

theorem equalsEntries_changed (entries : List (String × Value))
    (refs : List (String × Reference)) :
    equalsEntries (changedEntries c entries) refs = equalsEntries entries refs := by
  match entries with
  | [] => rfl
  | (k, v) :: rest =>
      rw [changedEntries, equalsEntries, equalsEntries, equalsEntries_changed rest refs]
      cases refs.lookup k with
      | none => rfl
      | some r => simp only [equals_changed v r]

end

theorem indistinct_changed (v : Value) : (v.changed c).Indistinct v where
  kind := kind_changed c v
  string? := string?_changed c v
  order x := by rw [operand?_changed]
  equals := equals_changed c v

end Value

/-- No predicate tells a changed value from the value. -/
theorem Predicate.test_changed (c : FieldChange) (p : Predicate) (v : Value) :
    p.test (v.changed c) = p.test v :=
  p.test_eq_of_indistinct (v.indistinct_changed c)

end RuleFilter
