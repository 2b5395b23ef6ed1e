import Mathlib.Data.List.Perm.Subperm
import RuleFilter.Predicate
import RuleFilter.Proofs.Reference.Codec
import RuleFilter.Proofs.Value.Alike

set_option autoImplicit false

/-! # Maps that list a key twice

A map of references has one value for each key; the map of a candidate lists whatever its owner
lists. Equality compares the sizes and looks every entry of the candidate up in the reference, so
the keys that are listed are keys of the reference (`keys_subset_of_equals`), as many as it has.
Whether they are all of its keys is a matter of counting: they are if and only if no key is listed
twice (`same_keys_iff_nodup`). A key that comes twice takes the place of another, and the reference
is accepted with a key that the candidate does not have. -/

namespace RuleFilter

/-- Of as many keys as there are distinct ones, all of which are among these, none is left over
exactly when they are distinct as well. -/
theorem same_keys_iff_nodup {xs ys : List String} (hys : ys.Nodup) (hlength : xs.length = ys.length)
    (hsubset : xs ⊆ ys) : (∀ k, k ∈ xs ↔ k ∈ ys) ↔ xs.Nodup := by
  constructor
  · intro hsame
    have hback : ys ⊆ xs := fun k hk => (hsame k).2 hk
    have hperm : ys.Perm xs :=
      (List.subperm_of_subset hys hback).perm_of_length_le (Nat.le_of_eq hlength)
    exact hperm.nodup hys
  · intro hxs k
    have hperm : xs.Perm ys :=
      (List.subperm_of_subset hxs hsubset).perm_of_length_le (Nat.le_of_eq hlength.symm)
    exact hperm.mem_iff

namespace Value

variable {entries : List (String × Value)} {refs : List (String × Reference)}

/-- Every key that is listed by a map is a key of a reference that it equals. -/
theorem keys_subset_of_equals (h : (map entries).equals (.map refs) = true) :
    entries.map Prod.fst ⊆ refs.map Prod.fst := by
  rw [equals, Bool.and_eq_true, equalsEntries_eq_all, List.all_eq_true] at h
  intro k hk
  obtain ⟨e, he, rfl⟩ := List.mem_map.1 hk
  have hentry := h.2 e he
  -- the look-up of a listed key has found something, or there would be nothing to equal
  by_contra hmissing
  rw [lookup_eq_none_iff_not_mem.2 hmissing] at hentry
  cases hentry

theorem length_eq_of_equals (h : (map entries).equals (.map refs) = true) :
    entries.length = refs.length := by
  rw [equals, Bool.and_eq_true, beq_iff_eq] at h
  exact h.1

/-- **Maps that are equal have the same keys exactly when no key is listed twice.** Where `==`
accepts a map, all keys that it lists are keys of the reference. That there is no other key in the
reference is true of the maps without a repeated key, and of no others. -/
theorem equal_maps_share_keys_iff_distinct (hrefs : KeysDistinct refs) :
    ∃ p, Predicate.ofTag "==" (.map refs) = .ok p
      ∧ ∀ entries : List (String × Value), p.test (map entries) = .ok true →
        (∀ k ∈ entries.map Prod.fst, k ∈ refs.map Prod.fst)
        ∧ ((∀ k, k ∈ entries.map Prod.fst ↔ k ∈ refs.map Prod.fst) ↔ KeysDistinct entries) := by
  refine ⟨.equal (.map refs), rfl, fun entries htest => ?_⟩
  have hequals : (map entries).equals (.map refs) = true := by
    rw [Predicate.test] at htest
    exact Except.ok.inj htest
  have hsubset := keys_subset_of_equals hequals
  have hlength : (entries.map Prod.fst).length = (refs.map Prod.fst).length := by
    rw [List.length_map, List.length_map, length_eq_of_equals hequals]
  exact ⟨fun k hk => hsubset hk, same_keys_iff_nodup hrefs hlength hsubset⟩

/-- A map that lists the keys of the reference in another order. -/
theorem equal_maps_share_keys_iff_distinct_of_two :
    let refs : List (String × Reference) := [("a", .number (.ofNat 1)), ("b", .bool true)]
    let entries := [("b", bool true), ("a", number (.signed 1))]
    KeysDistinct refs ∧ KeysDistinct entries
      ∧ ∃ p, Predicate.ofTag "==" (.map refs) = .ok p ∧ p.test (map entries) = .ok true
        ∧ ∀ k, k ∈ entries.map Prod.fst ↔ k ∈ refs.map Prod.fst := by
  intro refs entries
  have hrefs : KeysDistinct refs := by decide
  have hentries : KeysDistinct entries := by decide
  obtain ⟨p, hp, haccepted⟩ := equal_maps_share_keys_iff_distinct hrefs
  have htest : p.test (map entries) = .ok true := by
    cases hp
    exact congrArg Except.ok (by decide +kernel)
  exact ⟨hrefs, hentries, p, hp, htest, (haccepted entries htest).2.2 hentries⟩

/-- A map that lists one key twice equals a reference with another key beside it. -/
theorem equal_to_map_with_key_left_over :
    let refs : List (String × Reference) := [("a", .number (.ofNat 1)), ("b", .number (.ofNat 2))]
    let entries := [("a", number (.signed 1)), ("a", number (.signed 1))]
    (Reference.map refs).Ordered
      ∧ ∃ p, Predicate.ofTag "==" (.map refs) = .ok p ∧ p.test (map entries) = .ok true
        ∧ "b" ∈ refs.map Prod.fst ∧ "b" ∉ entries.map Prod.fst := by
  intro refs entries
  refine ⟨⟨by decide, trivial, trivial, trivial⟩, .equal (.map refs), rfl, ?_, by decide, by decide⟩
  exact congrArg Except.ok (by decide +kernel)

end Value

end RuleFilter
