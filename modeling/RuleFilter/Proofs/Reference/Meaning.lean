import RuleFilter.Proofs.Entries
import RuleFilter.Proofs.Json.Decoding
import RuleFilter.Proofs.Reference.OfJson

set_option autoImplicit false

/-! # What a document means as a reference

Every value of a document means the value of the same kind: a number the double nearest to it, an
array the list of what its items mean in their order, an object the map with the same keys, each
with the meaning of its value (`Json.Means`). Where no key comes twice, this is what a document is
read as (`means_ofJson`).

It makes no difference whether a document is taken as it is written or as it is held
(`ofJson_held`): the narrowest holder of an integer has the same nearest double, and putting members
in order is putting their meanings in order. -/

namespace RuleFilter

/-! ## Members in order -/

namespace Json

variable {α β : Type}

theorem map_insertMember (f : α → β) (key : String) (value : α) (entries : List (String × α)) :
    (insertMember key value entries).map (fun e => (e.1, f e.2))
      = insertMember key (f value) (entries.map fun e => (e.1, f e.2)) := by
  induction entries with
  | nil => rfl
  | cons e rest ih =>
      obtain ⟨k, v⟩ := e
      simp only [insertMember, List.map_cons]
      split
      · rfl
      · split
        · rfl
        · rw [List.map_cons, ih]

/-- Values may be changed before or after the entries are put in order. -/
theorem map_membersOf (f : α → β) (entries : List (String × α)) :
    (membersOf entries).map (fun e => (e.1, f e.2))
      = membersOf (entries.map fun e => (e.1, f e.2)) := by
  have hfold : ∀ acc : List (String × α),
      (entries.foldl (fun acc e => insertMember e.1 e.2 acc) acc).map (fun e => (e.1, f e.2))
        = (entries.map fun e => (e.1, f e.2)).foldl (fun acc e => insertMember e.1 e.2 acc)
          (acc.map fun e => (e.1, f e.2)) := by
    induction entries with
    | nil => exact fun _ => rfl
    | cons e rest ih =>
        intro acc
        rw [List.foldl_cons, ih, map_insertMember, List.map_cons, List.foldl_cons]
  exact hfold []

/-- A key that is not there yet is put among the others. -/
theorem perm_insertMember {key : String} (value : α) {entries : List (String × α)}
    (h : key ∉ entries.map Prod.fst) :
    (insertMember key value entries).Perm ((key, value) :: entries) := by
  induction entries with
  | nil => exact .refl _
  | cons e rest ih =>
      obtain ⟨k, v⟩ := e
      rw [List.map_cons, List.mem_cons, not_or] at h
      rw [insertMember, if_neg h.1]
      split
      · exact .refl _
      · exact ((ih h.2).cons _).trans (.swap ..)

/-- Under distinct keys, putting the entries in order loses none. -/
theorem perm_membersOf {entries : List (String × α)} (h : KeysDistinct entries) :
    (membersOf entries).Perm entries := by
  have hfold : ∀ acc : List (String × α), KeysDistinct (entries ++ acc) →
      (entries.foldl (fun acc e => insertMember e.1 e.2 acc) acc).Perm (entries ++ acc) := by
    clear h
    induction entries with
    | nil => exact fun acc _ => .refl acc
    | cons e rest ih =>
        intro acc hkeys
        obtain ⟨key, value⟩ := e
        rw [List.cons_append] at hkeys ⊢
        have hfresh := (keysDistinct_cons.1 hkeys).1
        rw [List.map_append, List.mem_append, not_or] at hfresh
        -- the entry goes from before the others to among those put in order
        have hmoved : (rest ++ insertMember key value acc).Perm ((key, value) :: (rest ++ acc)) :=
          ((perm_insertMember value hfresh.2).append_left rest).trans List.perm_middle
        exact (ih _ (hkeys.perm hmoved.symm)).trans hmoved
  have hperm := hfold []
  rw [List.append_nil] at hperm
  exact hperm h

/-- Under distinct keys no value is lost to another one. -/
theorem membersOf_map_eq_iff {entries : List (String × α)} (h : KeysDistinct entries)
    {f g : α → β} :
    membersOf (entries.map fun e => (e.1, f e.2)) = membersOf (entries.map fun e => (e.1, g e.2))
      ↔ ∀ e ∈ entries, f e.2 = g e.2 := by
  constructor
  · rintro heq ⟨key, value⟩ hmem
    have hperm : ∀ φ : α → β, (membersOf (entries.map fun e => (e.1, φ e.2))).Perm
        (entries.map fun e => (e.1, φ e.2)) := by
      intro φ
      refine perm_membersOf ?_
      rw [KeysDistinct, List.map_map]
      exact h
    have hfound : (key, f value) ∈ entries.map fun e => (e.1, g e.2) := by
      rw [← (hperm g).mem_iff, ← heq, (hperm f).mem_iff]
      exact List.mem_map_of_mem hmem
    obtain ⟨⟨key', value'⟩, hmem', heq'⟩ := List.mem_map.1 hfound
    obtain ⟨rfl, hvalue⟩ := Prod.mk.inj heq'
    -- the key was given to one value only
    have hvalue' := (lookup_eq_some_iff_mem h).2 hmem'
    have hsame := ((lookup_eq_some_iff_mem h).2 hmem).symm.trans hvalue'
    obtain rfl := Option.some.inj hsame
    exact hvalue.symm
  · intro heq
    rw [List.map_congr_left fun e he => by rw [heq e he]]

end Json

/-! ## Meaning -/

namespace Json

mutual

/-- The reference is what the document means. -/
def Means : Json → Reference → Prop
  | null, r => r = .null
  | bool b, r => r = .bool b
  | number n, r => r = .number n.toDouble
  | string s, r => r = .string s
  | array items, r => ∃ references, r = .list references ∧ MeansItems items references
  | object members, r => ∃ entries, r = .map entries
      ∧ (entries.map Prod.fst).Perm (members.map Prod.fst) ∧ MeansMembers members entries

/-- The references are what the items mean, one by one. -/
def MeansItems : List Json → List Reference → Prop
  | [], references => references = []
  | j :: items, references => ∃ r rest, references = r :: rest ∧ Means j r ∧ MeansItems items rest

/-- What a member means is found under its key. -/
def MeansMembers : List (String × Json) → List (String × Reference) → Prop
  | [], _ => True
  | (key, j) :: members, entries =>
    (∃ r, (key, r) ∈ entries ∧ Means j r) ∧ MeansMembers members entries

end

end Json

namespace Reference

/-- An object of distinct keys means the map with the same keys, each with the meaning of its
value. -/
theorem ofJson_object {members : List (String × Json)} (h : KeysDistinct members) :
    ∃ entries, ofJson (.object members) = map entries ∧ Json.KeysRise entries
      ∧ entries.Perm (members.map fun e => (e.1, ofJson e.2)) := by
  have hkeys : KeysDistinct (ofJsonMembers members) := by
    rw [ofJsonMembers_eq_map, KeysDistinct, List.map_map]
    exact h
  refine ⟨_, rfl, Json.keysRise_membersOf _, ?_⟩
  rw [← ofJsonMembers_eq_map]
  exact Json.perm_membersOf hkeys

mutual

/-- A document of distinct keys is read as what it means. -/
theorem means_ofJson {j : Json} (h : j.DistinctKeys) : j.Means (ofJson j) := by
  match j with
  | .null | .bool _ | .number _ | .string _ => rfl
  | .array items => exact ⟨ofJsonList items, rfl, meansItems_ofJsonList h⟩
  | .object members =>
      obtain ⟨hdistinct, hmembers⟩ := h
      obtain ⟨entries, hentries, -, hperm⟩ := ofJson_object hdistinct
      have hkeys := hperm.map Prod.fst
      rw [List.map_map] at hkeys
      have hfound : ∀ e ∈ members, (e.1, ofJson e.2) ∈ entries :=
        fun e he => hperm.mem_iff.2 (List.mem_map_of_mem he)
      exact ⟨entries, hentries, hkeys, meansMembers_of_mem hmembers hfound⟩

theorem meansItems_ofJsonList {items : List Json} (h : Json.DistinctKeysItems items) :
    Json.MeansItems items (ofJsonList items) := by
  match items with
  | [] => rfl
  | j :: items => exact ⟨ofJson j, _, rfl, means_ofJson h.1, meansItems_ofJsonList h.2⟩

theorem meansMembers_of_mem {members : List (String × Json)} {entries : List (String × Reference)}
    (hkeys : Json.DistinctKeysMembers members) (h : ∀ e ∈ members, (e.1, ofJson e.2) ∈ entries) :
    Json.MeansMembers members entries := by
  match members with
  | [] => trivial
  | (key, j) :: members =>
      rw [List.forall_mem_cons] at h
      exact ⟨⟨ofJson j, h.1, means_ofJson hkeys.1⟩, meansMembers_of_mem hkeys.2 h.2⟩

end

mutual

/-- A document means what it is read as. -/
theorem ofJson_held (j : Json) : ofJson j.held = ofJson j := by
  match j with
  | .null | .bool _ | .string _ => rfl
  | .number n => exact congrArg number n.toDouble_held
  | .array items => exact congrArg list (ofJsonList_heldItems items)
  | .object members =>
      -- the members are in order already when they are put in order once more
      have hkeys := keysRise_ofJsonMembers (Json.keysRise_membersOf (Json.heldMembers members))
      rw [Json.held, ofJson, ofEntries, Json.membersOf_of_keysRise hkeys, ofJsonMembers_eq_map,
        Json.map_membersOf, ← ofJsonMembers_eq_map, ofJsonMembers_heldMembers members]
      rfl

theorem ofJsonList_heldItems (items : List Json) :
    ofJsonList (Json.heldItems items) = ofJsonList items := by
  match items with
  | [] => rfl
  | j :: items =>
      rw [Json.heldItems, ofJsonList, ofJsonList, ofJson_held j, ofJsonList_heldItems items]

theorem ofJsonMembers_heldMembers (members : List (String × Json)) :
    ofJsonMembers (Json.heldMembers members) = ofJsonMembers members := by
  match members with
  | [] => rfl
  | (key, value) :: members =>
      rw [Json.heldMembers, ofJsonMembers, ofJsonMembers, ofJson_held value,
        ofJsonMembers_heldMembers members]

end

end Reference

end RuleFilter
