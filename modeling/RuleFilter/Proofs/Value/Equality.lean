import RuleFilter.Proofs.Number.Widths
import RuleFilter.Proofs.Value.NormalForm

set_option autoImplicit false

/-! # Equality of values

Equality of values takes numbers of one width as these are compared, lists and maps entry by entry
in order, and records as the objects they are. A number that is none equals nothing, itself
included, so equality is symmetric and transitive (`Value.beq_symm`, `Value.beq_trans`) but a value
equals itself only when there is no NaN in it, where what records hold does not count
(`Value.beq_self_iff`). It is finer than what predicates see, for these widen numbers and look maps
up by key (`Value.indistinct_of_beq`).

What a value equals has its outermost form, with equal parts in the same places. This is said once
for each form, and all proofs go by induction on what stands inside lists and maps. -/

namespace RuleFilter

/-- Equal numbers have doubles at one place. -/
theorem Number.samePlace_of_beq {m n : Number} (h : (m == n) = true) :
    m.toDouble.SamePlace n.toDouble :=
  .inr (toDouble_eq_of_beq h)

namespace Value

variable {u v w : Value}

/-! ## Inside lists and maps -/

/-- The values that a list or a map lists. -/
def listed : Value → List Value
  | list items => items
  | map entries => entries.map Prod.snd
  | _ => []

theorem sizeOf_lt_of_mem_listed (h : w ∈ v.listed) : sizeOf w < sizeOf v := by
  cases v with
  | list items =>
      have hitem := List.sizeOf_lt_of_mem (show w ∈ items from h)
      rw [list.sizeOf_spec]
      omega
  | map entries =>
      obtain ⟨e, hmem, rfl⟩ := List.mem_map.1 h
      have hentry := List.sizeOf_lt_of_mem hmem
      rw [Prod.mk.sizeOf_spec e.1 e.2] at hentry
      rw [map.sizeOf_spec]
      omega
  | _ => exact absurd h List.not_mem_nil

/-- What holds of a value whenever it holds of all that the value lists holds of all values. -/
theorem induction {motive : Value → Prop} (step : ∀ v, (∀ w ∈ v.listed, motive w) → motive v)
    (v : Value) : motive v :=
  step v fun w _ => induction step w
termination_by v
decreasing_by exact sizeOf_lt_of_mem_listed ‹_›

/-- The value or one in its lists and maps, at any depth, satisfies the predicate. Those that stand
in records do not count. -/
inductive Lists (p : Value → Prop) : Value → Prop
  | self {v : Value} (h : p v) : Lists p v
  | inside {v w : Value} (hmem : w ∈ v.listed) (h : Lists p w) : Lists p v

theorem lists_iff {p : Value → Prop} : Lists p v ↔ p v ∨ ∃ w ∈ v.listed, Lists p w := by
  constructor
  · rintro (h | ⟨hmem, h⟩)
    · exact .inl h
    · exact .inr ⟨_, hmem, h⟩
  · rintro (h | ⟨w, hmem, h⟩)
    · exact .self h
    · exact .inside hmem h

/-! ## What a value equals -/

theorem beqList_iff_forall₂ {xs ys : List Value} :
    beqList xs ys = true ↔ List.Forall₂ (fun x y => x.beq y = true) xs ys := by
  induction xs generalizing ys with
  | nil => cases ys <;> simp [beqList]
  | cons x xs ih => cases ys with
    | nil => simp [beqList]
    | cons y ys => rw [beqList, Bool.and_eq_true, ih, List.forall₂_cons]

theorem beqEntries_iff_forall₂ {xs ys : List (String × Value)} :
    beqEntries xs ys = true ↔ List.Forall₂ (fun x y => x.1 = y.1 ∧ x.2.beq y.2 = true) xs ys := by
  induction xs generalizing ys with
  | nil => cases ys <;> simp [beqEntries]
  | cons x xs ih => cases ys with
    | nil => simp [beqEntries]
    | cons y ys =>
        rw [beqEntries, Bool.and_eq_true, Bool.and_eq_true, beq_iff_eq, ih, List.forall₂_cons]

theorem nil_beq_iff : nil.beq w = true ↔ nil = w := by
  cases w <;> simp [beq]

theorem bool_beq_iff {b : Bool} : (bool b).beq w = true ↔ bool b = w := by
  cases w <;> simp [beq]

theorem number_beq_iff {m : Number} :
    (number m).beq w = true ↔ ∃ n, number n = w ∧ (m == n) = true := by
  cases w <;> simp [beq]

theorem string_beq_iff {s : String} : (string s).beq w = true ↔ string s = w := by
  cases w <;> simp [beq]

theorem list_beq_iff {xs : List Value} : (list xs).beq w = true
    ↔ ∃ ys, list ys = w ∧ List.Forall₂ (fun x y => x.beq y = true) xs ys := by
  cases w <;> simp [beq, beqList_iff_forall₂]

theorem map_beq_iff {xs : List (String × Value)} : (map xs).beq w = true
    ↔ ∃ ys, map ys = w ∧ List.Forall₂ (fun x y => x.1 = y.1 ∧ x.2.beq y.2 = true) xs ys := by
  cases w <;> simp [beq, beqEntries_iff_forall₂]

/-- A record equals itself as an object, whatever it answers for its fields. -/
theorem record_beq_iff {i : Nat} {fields : List (FieldDef × Value)} :
    (record i fields).beq w = true ↔ ∃ fields', record i fields' = w := by
  cases w <;> simp [beq]

/-! ## Laws of equality -/

theorem beq_symm (h : v.beq w = true) : w.beq v = true := by
  induction v using induction generalizing w with
  | step v ih =>
      cases v with
      | nil =>
          cases nil_beq_iff.1 h
          exact h
      | bool b =>
          cases bool_beq_iff.1 h
          exact h
      | number m =>
          obtain ⟨n, rfl, hmn⟩ := number_beq_iff.1 h
          exact number_beq_iff.2 ⟨m, rfl, Number.beq_symm hmn⟩
      | string s =>
          cases string_beq_iff.1 h
          exact h
      | list xs =>
          obtain ⟨ys, rfl, hxy⟩ := list_beq_iff.1 h
          have hyx := forall₂_imp_of_mem hxy fun x hx y => ih x hx
          exact list_beq_iff.2 ⟨xs, rfl, hyx.flip⟩
      | map xs =>
          obtain ⟨ys, rfl, hxy⟩ := map_beq_iff.1 h
          have hyx := forall₂_imp_of_mem hxy fun x hx y =>
            And.imp Eq.symm (ih x.2 (List.mem_map_of_mem hx))
          exact map_beq_iff.2 ⟨xs, rfl, hyx.flip⟩
      | record i fields =>
          obtain ⟨fields', rfl⟩ := record_beq_iff.1 h
          exact record_beq_iff.2 ⟨fields, rfl⟩

theorem beq_trans (huv : u.beq v = true) (hvw : v.beq w = true) : u.beq w = true := by
  induction u using induction generalizing v w with
  | step u ih =>
      cases u with
      | nil => rwa [← nil_beq_iff.1 huv] at hvw
      | bool b => rwa [← bool_beq_iff.1 huv] at hvw
      | number l =>
          obtain ⟨m, rfl, hlm⟩ := number_beq_iff.1 huv
          obtain ⟨n, rfl, hmn⟩ := number_beq_iff.1 hvw
          exact number_beq_iff.2 ⟨n, rfl, Number.beq_trans hlm hmn⟩
      | string s => rwa [← string_beq_iff.1 huv] at hvw
      | list xs =>
          obtain ⟨ys, rfl, hxy⟩ := list_beq_iff.1 huv
          obtain ⟨zs, rfl, hyz⟩ := list_beq_iff.1 hvw
          exact list_beq_iff.2 ⟨zs, rfl, forall₂_comp_of_mem hxy hyz fun x hx y z => ih x hx⟩
      | map xs =>
          obtain ⟨ys, rfl, hxy⟩ := map_beq_iff.1 huv
          obtain ⟨zs, rfl, hyz⟩ := map_beq_iff.1 hvw
          refine map_beq_iff.2 ⟨zs, rfl, forall₂_comp_of_mem hxy hyz ?_⟩
          rintro x hx y z ⟨hkey, hxy⟩ ⟨hkey', hyz⟩
          exact ⟨hkey.trans hkey', ih x.2 (List.mem_map_of_mem hx) hxy hyz⟩
      | record i fields =>
          obtain ⟨fields', rfl⟩ := record_beq_iff.1 huv
          exact record_beq_iff.2 (record_beq_iff.1 hvw)

/-- A value equals itself when it is no NaN and all that it lists equals itself. -/
theorem beq_self_iff_listed :
    v.beq v = true ↔ ¬ IsNaN v ∧ ∀ w ∈ v.listed, w.beq w = true := by
  cases v with
  | nil => simp [nil_beq_iff, listed, IsNaN]
  | bool b => simp [bool_beq_iff, listed, IsNaN]
  | number n => simp [number_beq_iff, Number.beq_self_iff, listed, IsNaN]
  | string s => simp [string_beq_iff, listed, IsNaN]
  | list xs => simp [list_beq_iff, List.forall₂_same, listed, IsNaN]
  | map xs =>
      simp [map_beq_iff, List.forall₂_same, listed, IsNaN, List.forall_mem_map, -List.mem_map]
  | record i fields => simp [record_beq_iff, listed, IsNaN]

/-- **A value equals itself unless it lists a NaN.** -/
theorem beq_self_iff : v.beq v = true ↔ ¬ v.Lists IsNaN := by
  induction v using induction with
  | step v ih =>
      rw [beq_self_iff_listed, lists_iff]
      simp +contextual [ih]

/-! ## What predicates see -/

theorem equalsList_congr {xs ys : List Value}
    (h : List.Forall₂ (fun x y => ∀ r, x.equals r = y.equals r) xs ys) (refs : List Reference) :
    equalsList xs refs = equalsList ys refs := by
  induction h generalizing refs with
  | nil => rfl
  | cons hxy _ ih => cases refs with
    | nil => rfl
    | cons r rs => rw [equalsList, equalsList, hxy, ih]

theorem equalsEntries_congr {xs ys : List (String × Value)}
    (h : List.Forall₂ (fun x y => x.1 = y.1 ∧ ∀ r, x.2.equals r = y.2.equals r) xs ys)
    (refs : List (String × Reference)) : equalsEntries xs refs = equalsEntries ys refs := by
  induction h with
  | nil => rfl
  | cons hxy _ ih =>
      rw [equalsEntries_eq_all, equalsEntries_eq_all] at ih ⊢
      rw [List.all_cons, List.all_cons, ih, hxy.1, funext hxy.2]

theorem equals_eq_of_beq (h : v.beq w = true) (r : Reference) : v.equals r = w.equals r := by
  induction v using induction generalizing w r with
  | step v ih =>
      cases v with
      | nil => rw [nil_beq_iff.1 h]
      | bool b => rw [bool_beq_iff.1 h]
      | number m =>
          obtain ⟨n, rfl, hmn⟩ := number_beq_iff.1 h
          cases r with
          | number x =>
              rw [equals, equals, Double.eq, Double.eq, (Number.samePlace_of_beq hmn).compare_eq]
          | _ => rfl
      | string s => rw [string_beq_iff.1 h]
      | list xs =>
          obtain ⟨ys, rfl, hxy⟩ := list_beq_iff.1 h
          have hequals := forall₂_imp_of_mem hxy fun x hx y => ih x hx
          cases r with
          | list refs => exact equalsList_congr hequals refs
          | _ => rfl
      | map xs =>
          obtain ⟨ys, rfl, hxy⟩ := map_beq_iff.1 h
          have hequals := forall₂_imp_of_mem hxy fun x hx y =>
            And.imp_right (ih x.2 (List.mem_map_of_mem hx))
          cases r with
          | map refs => rw [equals, equals, hxy.length_eq, equalsEntries_congr hequals refs]
          | _ => rfl
      | record i fields =>
          obtain ⟨fields', rfl⟩ := record_beq_iff.1 h
          cases r <;> rfl

/-- **No predicate tells equal values apart.** -/
theorem indistinct_of_beq (h : v.beq w = true) : v.Indistinct w := by
  have hequals := equals_eq_of_beq h
  cases v with
  | nil => exact nil_beq_iff.1 h ▸ .refl _
  | bool b => exact bool_beq_iff.1 h ▸ .refl _
  | number m =>
      obtain ⟨n, rfl, hmn⟩ := number_beq_iff.1 h
      exact ⟨rfl, rfl, fun x => (Number.samePlace_of_beq hmn).compare_eq x, hequals⟩
  | string s => exact string_beq_iff.1 h ▸ .refl _
  | list xs =>
      obtain ⟨ys, rfl, hxy⟩ := list_beq_iff.1 h
      have hlength : (list xs).length? = (list ys).length? := congrArg some hxy.length_eq
      refine ⟨rfl, rfl, fun x => ?_, hequals⟩
      rw [operand?, operand?, hlength] <;> simp
  | map xs =>
      obtain ⟨ys, rfl, hxy⟩ := map_beq_iff.1 h
      have hlength : (map xs).length? = (map ys).length? := congrArg some hxy.length_eq
      refine ⟨rfl, rfl, fun x => ?_, hequals⟩
      rw [operand?, operand?, hlength] <;> simp
  | record i fields =>
      obtain ⟨fields', rfl⟩ := record_beq_iff.1 h
      exact ⟨rfl, rfl, fun _ => rfl, hequals⟩

/-! ## The whole relation -/

/-- **Equality of values is a partial equivalence that predicates respect.** It is symmetric and
transitive, and a value equals itself exactly when no NaN stands in it outside its records; a record
equals itself as an object, and nothing else. Every predicate answers for equal values alike, with
the same truth value or the same error. -/
theorem equality_is_partial_equivalence :
    (∀ v w : Value, (v == w) = true → (w == v) = true)
    ∧ (∀ u v w : Value, (u == v) = true → (v == w) = true → (u == w) = true)
    ∧ (∀ v : Value, (v == v) = true ↔ ¬ v.Lists IsNaN)
    ∧ (∀ (i : Nat) (fields : List (FieldDef × Value)) (v : Value),
        (record i fields == v) = true ↔ ∃ fields', record i fields' = v)
    ∧ ∀ v w : Value, (v == w) = true → ∀ p : Predicate, p.test v = p.test w := by
  refine ⟨fun v w => beq_symm, fun u v w => beq_trans, fun v => beq_self_iff,
    fun i fields v => record_beq_iff, fun v w h p => ?_⟩
  exact p.test_eq_of_indistinct (indistinct_of_beq h)

/-- The two zeros, beside a record that answers with a NaN, and a NaN that is listed. -/
theorem equality_is_partial_equivalence_of_zeros :
    let account : Value := record 7 [(.ofName "balance", number (.double .nan))]
    let v : Value := list [number (.double (.zero false)), map [("account", account)]]
    let w : Value := list [number (.double (.zero true)), map [("account", account)]]
    let x : Value := list [v, number (.double .nan)]
    (v == w) = true ∧ (w == v) = true ∧ (v == v) = true ∧ ¬ v.Lists IsNaN
      ∧ x.Lists IsNaN ∧ ¬ (x == x) = true ∧ ∀ p : Predicate, p.test v = p.test w := by
  intro account v w x
  obtain ⟨hsymm, htrans, hself, -, htest⟩ := equality_is_partial_equivalence
  have hvw : (v == w) = true := by decide +kernel
  have hwv := hsymm v w hvw
  have hvv := htrans v w v hvw hwv
  have hnan : x.Lists IsNaN := .inside (by simp [x, listed]) (.self rfl)
  exact ⟨hvw, hwv, hvv, (hself v).1 hvv, hnan, fun h => (hself x).1 h hnan, htest v w hvw⟩

end Value

end RuleFilter
