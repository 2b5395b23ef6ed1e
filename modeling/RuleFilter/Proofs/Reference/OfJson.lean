import RuleFilter.Proofs.Double.Integer
import RuleFilter.Proofs.Json.Settled
import RuleFilter.Proofs.Reference.Codec

set_option autoImplicit false

/-! # References of documents that were read

The reference of a document is no deeper than the document (`depth_ofJson_le`), and its numbers are
finite where those of the document are, since no integer of 64 bits is beyond the doubles: putting
members in order may lose some of them, but adds nothing. So whatever was read can be written again
(`writable_ofJson`). -/

namespace RuleFilter

theorem Number.IsFinite.toDouble {n : Number} (h : n.IsFinite) : n.toDouble.isFinite = true := by
  cases n with
  | signed n =>
      have hleast := n.le_toInt
      have hmost := n.toInt_lt
      have hsize : UInt64.size = 2 ^ 64 := rfl
      exact Double.isFinite_ofInt (by omega)
  | unsigned n =>
      rw [Number.toDouble_unsigned]
      exact Double.isFinite_ofInt n.toNat_lt
  | double x => exact h

namespace Reference

/-! ## Lists and maps -/

theorem ofJsonMembers_eq_map (members : List (String × Json)) :
    ofJsonMembers members = members.map fun e => (e.1, ofJson e.2) := by
  induction members with
  | nil => rfl
  | cons e members ih => rw [ofJsonMembers, ih, List.map_cons]

theorem keysRise_ofJsonMembers {members : List (String × Json)} (h : Json.KeysRise members) :
    Json.KeysRise (ofJsonMembers members) := by
  rw [Json.keysRise_iff_keys] at h ⊢
  rwa [ofJsonMembers_eq_map, List.map_map]

theorem depthEntries_le_iff {entries : List (String × Reference)} {n : Nat} :
    depthEntries entries ≤ n ↔ ∀ e ∈ entries, e.2.depth ≤ n := by
  induction entries with
  | nil => simp [depthEntries]
  | cons e rest ih => rw [depthEntries, Nat.max_le, ih, List.forall_mem_cons]

theorem isFiniteEntries_iff {entries : List (String × Reference)} :
    IsFiniteEntries entries ↔ ∀ e ∈ entries, e.2.IsFinite := by
  induction entries with
  | nil => simp [IsFiniteEntries]
  | cons e rest ih => rw [IsFiniteEntries, ih, List.forall_mem_cons]

/-! ## Depth and finite numbers -/

mutual

theorem depth_ofJson_le (j : Json) : (ofJson j).depth ≤ j.depth := by
  match j with
  | .null | .bool _ | .number _ | .string _ => exact Nat.le_refl 0
  | .array items => exact Nat.succ_le_succ (depthItems_ofJsonList_le items)
  | .object members =>
      have hentries := depthEntries_le_iff.1 (depthEntries_ofJsonMembers_le members)
      exact Nat.succ_le_succ
        (depthEntries_le_iff.2 fun e he => hentries e (Json.mem_of_mem_membersOf he))

theorem depthItems_ofJsonList_le (items : List Json) :
    depthItems (ofJsonList items) ≤ Json.depthItems items := by
  match items with
  | [] => exact Nat.le_refl 0
  | j :: items =>
      have hhead := depth_ofJson_le j
      have htail := depthItems_ofJsonList_le items
      rw [ofJsonList, depthItems, Json.depthItems]
      omega

theorem depthEntries_ofJsonMembers_le (members : List (String × Json)) :
    depthEntries (ofJsonMembers members) ≤ Json.depthMembers members := by
  match members with
  | [] => exact Nat.le_refl 0
  | (k, j) :: members =>
      have hhead := depth_ofJson_le j
      have htail := depthEntries_ofJsonMembers_le members
      rw [ofJsonMembers, depthEntries, Json.depthMembers]
      omega

end

mutual

theorem isFinite_ofJson {j : Json} (h : j.IsFinite) : (ofJson j).IsFinite := by
  match j with
  | .null | .bool _ | .string _ => trivial
  | .number n => exact Number.IsFinite.toDouble h
  | .array items => exact isFiniteItems_ofJsonList h
  | .object members =>
      have hentries := isFiniteEntries_iff.1 (isFiniteEntries_ofJsonMembers h)
      exact isFiniteEntries_iff.2 fun e he => hentries e (Json.mem_of_mem_membersOf he)

theorem isFiniteItems_ofJsonList {items : List Json} (h : Json.IsFiniteItems items) :
    IsFiniteItems (ofJsonList items) := by
  match items with
  | [] => trivial
  | j :: items => exact ⟨isFinite_ofJson h.1, isFiniteItems_ofJsonList h.2⟩

theorem isFiniteEntries_ofJsonMembers {members : List (String × Json)}
    (h : Json.IsFiniteMembers members) : IsFiniteEntries (ofJsonMembers members) := by
  match members with
  | [] => trivial
  | (k, j) :: members => exact ⟨isFinite_ofJson h.1, isFiniteEntries_ofJsonMembers h.2⟩

end

/-! ## What can be written -/

/-- The reference has a text, nested at most so deep. -/
structure Writable (limit : Nat) (r : Reference) : Prop where
  finite : r.IsFinite
  depth_le : r.depth ≤ limit

theorem Writable.null (limit : Nat) : Writable limit null := ⟨trivial, Nat.zero_le _⟩

theorem writable_ofJson {limit : Nat} {j : Json} (h : j.Settled limit) :
    Writable limit (ofJson j) where
  finite := isFinite_ofJson h.finite
  depth_le := Nat.le_trans (depth_ofJson_le j) h.depth_le

end Reference

end RuleFilter
