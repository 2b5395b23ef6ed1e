import Mathlib.Data.List.Perm.Subperm
import RuleFilter.Proofs.Reference.Codec
import RuleFilter.Proofs.Traversal
import RuleFilter.Proofs.Value.Document

set_option autoImplicit false

/-! # When references are equal

Equality of references goes entry by entry through two maps that both have their keys in order. What
it amounts to is equality by key: the maps are equally large, and every entry of the one has its
equal under the same key of the other (`beqEntries_iff`). That no key is left over on the other side
is a matter of counting (`keys_eq_of_subset`). Equal references are equal at every depth
(`Contains.of_beq`), so there is no NaN in a reference that equals anything. -/

namespace RuleFilter

theorem Double.eq_nan (x : Double) : x.eq nan = false := by
  unfold eq compare
  cases x.rank <;> rfl

namespace Reference

open Json (KeysRise)

variable {α β : Type}

/-! ## Entries -/

/-- Rising keys that are all among as many others are the same keys. -/
theorem keys_eq_of_subset {xs : List (String × α)} {ys : List (String × β)} (hxs : KeysRise xs)
    (hys : KeysRise ys) (hlength : xs.length = ys.length)
    (hsubset : xs.map Prod.fst ⊆ ys.map Prod.fst) : xs.map Prod.fst = ys.map Prod.fst := by
  -- distinct keys among others leave none of these out when there are as many
  have hperm : (xs.map Prod.fst).Perm (ys.map Prod.fst) := by
    apply (List.subperm_of_subset hxs.keysDistinct hsubset).perm_of_length_le
    rw [List.length_map, List.length_map, hlength]
  -- and the same keys rise in one order only
  rw [Json.keysRise_iff_keys] at hxs hys
  exact hperm.eq_of_pairwise (fun _ _ _ _ hlt hgt => absurd hgt (String.lt_asymm hlt)) hxs hys

theorem beqEntries_iff_forall₂ {xs ys : List (String × Reference)} :
    beqEntries xs ys = true ↔ List.Forall₂ (fun x y => x.1 = y.1 ∧ x.2.beq y.2 = true) xs ys := by
  induction xs generalizing ys with
  | nil => cases ys <;> simp [beqEntries]
  | cons x xs ih => cases ys with
    | nil => simp [beqEntries]
    | cons y ys =>
        rw [beqEntries, Bool.and_eq_true, Bool.and_eq_true, beq_iff_eq, ih, List.forall₂_cons]

/-- Entries with the same keys are equal in order if each has its equal anywhere. -/
theorem beqEntries_of_keys_eq {xs ys : List (String × Reference)} (hdistinct : KeysDistinct ys)
    (hkeys : xs.map Prod.fst = ys.map Prod.fst)
    (h : ∀ x ∈ xs, ∃ r, (x.1, r) ∈ ys ∧ x.2.beq r = true) : beqEntries xs ys = true := by
  induction xs generalizing ys with
  | nil =>
      rw [List.map_nil, eq_comm, List.map_eq_nil_iff] at hkeys
      rw [hkeys, beqEntries]
  | cons x xs ih => cases ys with
    | nil => cases hkeys
    | cons y ys =>
        obtain ⟨k, n⟩ := x
        obtain ⟨l, m⟩ := y
        obtain ⟨hhead, htail⟩ := List.forall_mem_cons.1 h
        obtain ⟨hkey, hrest⟩ := List.cons.inj hkeys
        obtain ⟨hfresh, hlast⟩ := keysDistinct_cons.1 hdistinct
        change k = l at hkey
        change xs.map Prod.fst = ys.map Prod.fst at hrest
        subst hkey
        -- under the first key stands the first entry only, and it is not under any later key
        have hvalue : n.beq m = true := by
          obtain ⟨r, hr, hbeq⟩ := hhead
          rcases List.mem_cons.1 hr with heq | hr
          · cases heq
            exact hbeq
          · exact absurd (List.mem_map_of_mem (f := Prod.fst) hr) hfresh
        have hlater : ∀ z ∈ xs, ∃ r, (z.1, r) ∈ ys ∧ z.2.beq r = true := by
          intro z hz
          obtain ⟨r, hr, hbeq⟩ := htail z hz
          rcases List.mem_cons.1 hr with heq | hr
          · cases heq
            have hmem := List.mem_map_of_mem (f := Prod.fst) hz
            exact absurd (hrest ▸ hmem) hfresh
          · exact ⟨r, hr, hbeq⟩
        rw [beqEntries, hvalue, ih hlast hrest hlater, beq_self_eq_true]
        rfl

/-- **Maps in key order are equal when they are equally large and every entry of the one has its
equal under its key in the other.** -/
theorem beqEntries_iff {xs ys : List (String × Reference)} (hxs : KeysRise xs) (hys : KeysRise ys) :
    beqEntries xs ys = true
      ↔ xs.length = ys.length ∧ ∀ x ∈ xs, ∃ r, (x.1, r) ∈ ys ∧ x.2.beq r = true := by
  constructor
  · intro h
    have hpairs := beqEntries_iff_forall₂.1 h
    refine ⟨hpairs.length_eq, fun x hx => ?_⟩
    obtain ⟨y, hy, hkey, hbeq⟩ := exists_mem_of_forall₂ hpairs hx
    refine ⟨y.2, ?_, hbeq⟩
    rw [hkey]
    exact hy
  · rintro ⟨hlength, h⟩
    have hsubset : xs.map Prod.fst ⊆ ys.map Prod.fst := by
      intro k hk
      obtain ⟨x, hx, rfl⟩ := List.mem_map.1 hk
      obtain ⟨r, hr, -⟩ := h x hx
      exact List.mem_map.2 ⟨_, hr, rfl⟩
    exact beqEntries_of_keys_eq hys.keysDistinct (keys_eq_of_subset hxs hys hlength hsubset) h

/-! ## What stands inside -/

/-- The reference or one inside its lists and maps, at any depth, satisfies the predicate. -/
inductive Contains (p : Reference → Prop) : Reference → Prop
  | self {r : Reference} (h : p r) : Contains p r
  | item {items : List Reference} {r : Reference} (hmem : r ∈ items) (h : Contains p r) :
      Contains p (list items)
  | entry {entries : List (String × Reference)} {e : String × Reference} (hmem : e ∈ entries)
      (h : Contains p e.2) : Contains p (map entries)

/-- The reference is a number that is none. -/
def IsNaN (r : Reference) : Prop := r = number .nan

theorem beqList_iff_forall₂ {xs ys : List Reference} :
    beqList xs ys = true ↔ List.Forall₂ (fun x y => x.beq y = true) xs ys := by
  induction xs generalizing ys with
  | nil => cases ys <;> simp [beqList]
  | cons x xs ih => cases ys with
    | nil => simp [beqList]
    | cons y ys => rw [beqList, Bool.and_eq_true, ih, List.forall₂_cons]

/-- What stands inside a reference that equals another equals something. -/
theorem Contains.of_beq {p : Reference → Prop} {r : Reference} (hr : r.Contains p) :
    ∀ {n : Reference}, n.beq r = true → ∃ r' n' : Reference, p r' ∧ n'.beq r' = true := by
  induction hr with
  | self h => exact fun {n} hn => ⟨_, n, h, hn⟩
  | item hmem _ ih =>
      intro n hn
      cases n with
      | list items =>
          obtain ⟨x, -, hx⟩ := exists_mem_of_forall₂ (beqList_iff_forall₂.1 hn).flip hmem
          exact ih hx
      | _ => cases hn
  | entry hmem _ ih =>
      intro n hn
      cases n with
      | map entries =>
          obtain ⟨x, -, -, hx⟩ := exists_mem_of_forall₂ (beqEntries_iff_forall₂.1 hn).flip hmem
          exact ih hx
      | _ => cases hn

theorem beq_nan (n : Reference) : n.beq (number .nan) = false := by
  cases n with
  | number x => exact x.eq_nan
  | _ => rfl

end Reference

end RuleFilter
