import Mathlib.Data.List.Nodup

set_option autoImplicit false

/-! # Entries under distinct keys

Maps, objects and records of aliases are lists of entries, and a look-up takes the first entry of a
key. Where no key comes twice (`KeysDistinct`) looking up is membership
(`lookup_eq_some_iff_mem`), so the order of the entries makes no difference
(`lookup_eq_of_perm`). -/

namespace RuleFilter

variable {α β : Type}

/-- No key comes twice. -/
def KeysDistinct (entries : List (String × α)) : Prop := (entries.map Prod.fst).Nodup

instance (entries : List (String × α)) : Decidable (KeysDistinct entries) :=
  inferInstanceAs (Decidable (entries.map Prod.fst).Nodup)

theorem keysDistinct_cons {k : String} {v : α} {rest : List (String × α)} :
    KeysDistinct ((k, v) :: rest) ↔ k ∉ rest.map Prod.fst ∧ KeysDistinct rest :=
  List.nodup_cons

/-- Whether the keys are distinct does not depend on their order. -/
theorem KeysDistinct.perm {entries entries' : List (String × α)} (h : KeysDistinct entries)
    (hperm : entries.Perm entries') : KeysDistinct entries' :=
  (hperm.map Prod.fst).nodup h

theorem mem_of_lookup_eq_some {entries : List (String × α)} {k : String} {v : α}
    (h : entries.lookup k = some v) : (k, v) ∈ entries := by
  obtain ⟨before, after, rfl, -⟩ := List.lookup_eq_some_iff.1 h
  exact List.mem_append_right before List.mem_cons_self

theorem lookup_eq_none_iff_not_mem {entries : List (String × α)} {k : String} :
    entries.lookup k = none ↔ k ∉ entries.map Prod.fst := by
  simp only [List.lookup_eq_none_iff, List.mem_map, bne_iff_ne, ne_eq, not_exists, not_and]
  exact ⟨fun h e he hk => h e he hk.symm, fun h e he hk => h e he hk.symm⟩

theorem lookup_cons_eq_ite (key : String) (value : α) (rest : List (String × α)) (k : String) :
    ((key, value) :: rest).lookup k = if k = key then some value else rest.lookup k := by
  rw [List.lookup_cons]
  by_cases h : k = key
  · rw [if_pos h, beq_iff_eq.2 h]
  · rw [if_neg h, beq_false_of_ne h]

/-- Looking up a key is taking the first of its entries. -/
theorem lookup_eq_head?_filter (entries : List (String × α)) (k : String) :
    entries.lookup k = (entries.filter (·.1 = k)).head?.map Prod.snd := by
  induction entries with
  | nil => rfl
  | cons e rest ih =>
      obtain ⟨key, value⟩ := e
      rw [lookup_cons_eq_ite, List.filter_cons]
      by_cases h : key = k
      · simp [h]
      · simp [h, Ne.symm h, ih]

/-- An entry of a new key is found at the end, and the others where they were. -/
theorem lookup_append_singleton {entries : List (String × α)} {key : String} (value : α)
    (h : key ∉ entries.map Prod.fst) (k : String) :
    (entries ++ [(key, value)]).lookup k = if k = key then some value else entries.lookup k := by
  rw [List.lookup_append, lookup_cons_eq_ite]
  split
  · next heq =>
      subst heq
      rw [lookup_eq_none_iff_not_mem.2 h, Option.none_or]
  · rw [List.lookup_nil, Option.or_none]

/-- Under distinct keys an entry is found if it is there. -/
theorem lookup_eq_some_iff_mem {entries : List (String × α)} (h : KeysDistinct entries) {k : String}
    {v : α} : entries.lookup k = some v ↔ (k, v) ∈ entries := by
  refine ⟨mem_of_lookup_eq_some, fun hmem => ?_⟩
  induction entries with
  | nil => exact absurd hmem List.not_mem_nil
  | cons e rest ih =>
      obtain ⟨k', v'⟩ := e
      obtain ⟨hfresh, hrest⟩ := keysDistinct_cons.1 h
      rcases List.mem_cons.1 hmem with heq | hmem
      · cases heq
        exact List.lookup_cons_self
      · -- the key of a later entry is not that of the first
        have hne : k ≠ k' := fun heq => hfresh (heq ▸ List.mem_map_of_mem (f := Prod.fst) hmem)
        rw [List.lookup_cons, beq_false_of_ne hne]
        exact ih hrest hmem

/-- Under distinct keys the order of entries makes no difference to what is found. -/
theorem lookup_eq_of_perm {entries entries' : List (String × α)} (h : KeysDistinct entries)
    (hperm : entries.Perm entries') (k : String) : entries.lookup k = entries'.lookup k := by
  cases hfound : entries.lookup k with
  | some v =>
      have hmem : (k, v) ∈ entries' := hperm.mem_iff.1 (mem_of_lookup_eq_some hfound)
      exact ((lookup_eq_some_iff_mem (h.perm hperm)).2 hmem).symm
  | none =>
      rw [lookup_eq_none_iff_not_mem, (hperm.map Prod.fst).mem_iff] at hfound
      exact (lookup_eq_none_iff_not_mem.2 hfound).symm

end RuleFilter
