import RuleFilter.Proofs.Entries
import RuleFilter.Proofs.Value.Indistinct

set_option autoImplicit false

/-! # Values that differ in representation only

The same content can be held in several ways: a number in one width or another, a map with its
entries in whatever order its owner lists them. Values are alike when they differ in nothing else,
at any depth (`Value.Alike`). All that predicates ask of a value, its kind, its text, its length,
its double and what it equals, is the same for values that are alike
(`Predicate.respects_alike`). -/

namespace RuleFilter

namespace Double

/-- The doubles stand at one place: they are equal, as the two zeros are, or both are no number. -/
def SamePlace (x y : Double) : Prop := x = y ∨ x.eq y = true

theorem SamePlace.rank_eq {x y : Double} (h : x.SamePlace y) : x.rank = y.rank := by
  rcases h with rfl | h
  · rfl
  · rw [eq, compare] at h
    cases hx : x.rank <;> cases hy : y.rank <;> simp_all

/-- Comparison looks at the place only. -/
theorem SamePlace.compare_eq {x y : Double} (h : x.SamePlace y) (z : Double) :
    x.compare z = y.compare z := by
  rw [compare, compare, h.rank_eq]

end Double

namespace Value

/-- The entries are the same, and where no key comes twice they may stand in another order. -/
inductive Relisted {α : Type} (entries entries' : List (String × α)) : Prop
  | same (h : entries = entries')
  | reordered (hkeys : KeysDistinct entries) (h : entries.Perm entries')

mutual

/-- The values differ in representation only: in the order in which a map with distinct keys lists
its entries, and in the width of a number whose double is the same. -/
inductive Alike : Value → Value → Prop
  | nil : Alike nil nil
  | bool (b : Bool) : Alike (bool b) (bool b)
  | number {m n : Number} (h : m.toDouble.SamePlace n.toDouble) : Alike (number m) (number n)
  | string (s : String) : Alike (string s) (string s)
  | list {items items' : List Value} (h : AlikeItems items items') :
      Alike (list items) (list items')
  | map {entries listed entries' : List (String × Value)} (h : AlikeEntries entries listed)
      (horder : Relisted listed entries') : Alike (map entries) (map entries')
  | record {i j : Nat} {fields fields' : List (FieldDef × Value)} (h : AlikeFields fields fields') :
      Alike (record i fields) (record j fields')

inductive AlikeItems : List Value → List Value → Prop
  | nil : AlikeItems [] []
  | cons {v v' : Value} {items items' : List Value} (head : Alike v v')
      (tail : AlikeItems items items') : AlikeItems (v :: items) (v' :: items')

inductive AlikeEntries : List (String × Value) → List (String × Value) → Prop
  | nil : AlikeEntries [] []
  | cons {k : String} {v v' : Value} {entries entries' : List (String × Value)} (head : Alike v v')
      (tail : AlikeEntries entries entries') :
      AlikeEntries ((k, v) :: entries) ((k, v') :: entries')

inductive AlikeFields : List (FieldDef × Value) → List (FieldDef × Value) → Prop
  | nil : AlikeFields [] []
  | cons {d : FieldDef} {v v' : Value} {fields fields' : List (FieldDef × Value)}
      (head : Alike v v') (tail : AlikeFields fields fields') :
      AlikeFields ((d, v) :: fields) ((d, v') :: fields')

end

/-! ## Entries in another order -/

theorem Relisted.perm {α : Type} {entries entries' : List (String × α)}
    (h : Relisted entries entries') : entries.Perm entries' := by
  cases h with
  | same h => exact .of_eq h
  | reordered _ h => exact h

theorem Relisted.lookup_eq {α : Type} {entries entries' : List (String × α)}
    (h : Relisted entries entries') (k : String) : entries.lookup k = entries'.lookup k := by
  cases h with
  | same h => rw [h]
  | reordered hkeys h => exact lookup_eq_of_perm hkeys h k

/-- Entries equal references of their keys when each one does, in whatever order. -/
theorem equalsEntries_eq_all (entries : List (String × Value)) (refs : List (String × Reference)) :
    equalsEntries entries refs
      = entries.all fun e => ((refs.lookup e.1).map e.2.equals).getD false := by
  induction entries with
  | nil => rfl
  | cons e rest ih =>
      obtain ⟨k, v⟩ := e
      rw [equalsEntries, ih, List.all_cons]
      cases refs.lookup k <;> rfl

theorem Relisted.equalsEntries_eq {entries entries' : List (String × Value)}
    (h : Relisted entries entries') (refs : List (String × Reference)) :
    equalsEntries entries refs = equalsEntries entries' refs := by
  rw [equalsEntries_eq_all, equalsEntries_eq_all]
  exact h.perm.all_eq

/-! ## What predicates ask of a value -/

variable {v v' : Value}

theorem Alike.isNil_eq (h : Alike v v') : v.isNil = v'.isNil := by
  cases h <;> rfl

theorem Alike.kind_eq (h : Alike v v') : v.kind = v'.kind := by
  cases h <;> rfl

theorem Alike.string?_eq (h : Alike v v') : v.string? = v'.string? := by
  cases h <;> rfl

theorem AlikeItems.length_eq {items items' : List Value} (h : AlikeItems items items') :
    items.length = items'.length := by
  match h with
  | .nil => rfl
  | .cons _ tail => rw [List.length_cons, List.length_cons, tail.length_eq]

theorem AlikeEntries.length_eq {entries entries' : List (String × Value)}
    (h : AlikeEntries entries entries') : entries.length = entries'.length := by
  match h with
  | .nil => rfl
  | .cons _ tail => rw [List.length_cons, List.length_cons, tail.length_eq]

theorem Alike.length?_eq (h : Alike v v') : v.length? = v'.length? := by
  cases h with
  | list h => exact congrArg some h.length_eq
  | map h horder => exact congrArg some (h.length_eq.trans horder.perm.length_eq)
  | _ => rfl

/-- Values that are alike stand at one place in the order of any reference. -/
theorem Alike.compare_operand_eq (h : Alike v v') (reference : Double) :
    v.operand?.bind (·.compare reference) = v'.operand?.bind (·.compare reference) := by
  have hlength := h.length?_eq
  cases h with
  | number h => exact h.compare_eq reference
  | list h => rw [operand?, operand?, hlength] <;> simp
  | map h horder => rw [operand?, operand?, hlength] <;> simp
  | _ => rfl

mutual

theorem Alike.equals_eq {v v' : Value} (h : Alike v v') (r : Reference) :
    v.equals r = v'.equals r := by
  match h with
  | .nil | .bool _ | .string _ => rfl
  | .number h =>
      cases r with
      | number x =>
          rw [equals, equals, Double.eq, Double.eq, h.compare_eq]
      | _ => rfl
  | .list h =>
      cases r with
      | list refs => exact h.equalsList_eq refs
      | _ => rfl
  | .map h horder =>
      cases r with
      | map refs =>
          rw [equals, equals, h.length_eq, horder.perm.length_eq, h.equalsEntries_eq refs,
            horder.equalsEntries_eq refs]
      | _ => rfl
  | .record _ => cases r <;> rfl

theorem AlikeItems.equalsList_eq {items items' : List Value} (h : AlikeItems items items')
    (refs : List Reference) : equalsList items refs = equalsList items' refs := by
  match h, refs with
  | .nil, _ => rfl
  | .cons _ _, [] => rfl
  | .cons head tail, r :: rs =>
      rw [equalsList, equalsList, head.equals_eq r, tail.equalsList_eq rs]

theorem AlikeEntries.equalsEntries_eq {entries entries' : List (String × Value)}
    (h : AlikeEntries entries entries') (refs : List (String × Reference)) :
    equalsEntries entries refs = equalsEntries entries' refs := by
  match h with
  | .nil => rfl
  | .cons (k := k) head tail =>
      rw [equalsEntries, equalsEntries, tail.equalsEntries_eq refs]
      cases refs.lookup k with
      | none => rfl
      | some r => simp only [head.equals_eq r]

end

theorem Alike.indistinct (h : Alike v v') : v.Indistinct v' where
  kind := h.kind_eq
  string? := h.string?_eq
  order := h.compare_operand_eq
  equals := h.equals_eq

end Value

/-- No predicate tells values apart that are alike. -/
theorem Predicate.test_eq_of_alike {v v' : Value} (h : v.Alike v') (p : Predicate) :
    p.test v = p.test v' :=
  p.test_eq_of_indistinct h.indistinct

end RuleFilter
