set_option autoImplicit false

/-! # Members in key order

The members of an object are collected one after the other, each put in its place among the keys and
in the place of an earlier member of its key. `insertMember` keeps the keys of a list rising, so
whatever is collected by it has them so (`keysRise_membersOf`), and collecting what has its keys
rising gives it back (`membersOf_of_keysRise`). -/

namespace RuleFilter.Json

variable {α : Type}

/-- Gives a key its value in a list kept in key order, replacing an earlier value. -/
def insertMember (key : String) (value : α) : List (String × α) → List (String × α)
  | [] => [(key, value)]
  | (k, v) :: rest =>
    if key < k then (key, value) :: (k, v) :: rest
    else if key = k then (key, value) :: rest
    else (k, v) :: insertMember key value rest

/-- Entries in key order, the last of several values for one key. -/
def membersOf (entries : List (String × α)) : List (String × α) :=
  entries.foldl (fun acc e => insertMember e.1 e.2 acc) []

/-- The keys rise from entry to entry: they are in order and none comes twice. -/
def KeysRise (entries : List (String × α)) : Prop := entries.Pairwise (·.1 < ·.1)

instance (entries : List (String × α)) : Decidable (KeysRise entries) :=
  inferInstanceAs (Decidable (entries.Pairwise (·.1 < ·.1)))

theorem keysRise_nil : KeysRise ([] : List (String × α)) := List.Pairwise.nil

/-- Whether the keys rise does not depend on the values. -/
theorem keysRise_iff_keys {entries : List (String × α)} :
    KeysRise entries ↔ (entries.map Prod.fst).Pairwise (· < ·) := List.pairwise_map.symm

theorem mem_insertMember {key : String} {value : α} {entries : List (String × α)} {e : String × α}
    (h : e ∈ insertMember key value entries) : e = (key, value) ∨ e ∈ entries := by
  induction entries with
  | nil => simpa [insertMember] using h
  | cons head rest ih =>
      obtain ⟨k, v⟩ := head
      rw [insertMember] at h
      split at h
      · simpa using h
      · split at h
        · rcases List.mem_cons.1 h with h | h
          · exact Or.inl h
          · exact Or.inr (List.mem_cons_of_mem _ h)
        · rcases List.mem_cons.1 h with h | h
          · exact Or.inr (h ▸ List.mem_cons_self)
          · exact (ih h).imp_right (List.mem_cons_of_mem _)

theorem keysRise_insertMember (key : String) (value : α) {entries : List (String × α)}
    (h : KeysRise entries) : KeysRise (insertMember key value entries) := by
  induction entries with
  | nil => exact List.pairwise_singleton _ _
  | cons head rest ih =>
      obtain ⟨k, v⟩ := head
      obtain ⟨hhead, hrest⟩ := List.pairwise_cons.1 h
      rw [insertMember]
      split
      · next hlt =>
          refine List.pairwise_cons.2 ⟨fun e he => ?_, h⟩
          rcases List.mem_cons.1 he with rfl | he
          · exact hlt
          · exact String.lt_trans hlt (hhead e he)
      · next hnot =>
          split
          · next heq =>
              subst heq
              exact List.pairwise_cons.2 ⟨hhead, hrest⟩
          · next hne =>
              refine List.pairwise_cons.2 ⟨fun e he => ?_, ih hrest⟩
              rcases mem_insertMember he with rfl | he
              · exact String.not_le.1 fun hle => hne (String.le_antisymm hle (String.not_lt.1 hnot))
              · exact hhead e he

/-- What is collected has its keys rising. -/
theorem keysRise_membersOf (entries : List (String × α)) : KeysRise (membersOf entries) := by
  have hfold : ∀ acc : List (String × α), KeysRise acc →
      KeysRise (entries.foldl (fun acc e => insertMember e.1 e.2 acc) acc) := by
    induction entries with
    | nil => exact fun _ h => h
    | cons e entries ih => exact fun acc h => ih _ (keysRise_insertMember _ _ h)
  exact hfold [] keysRise_nil

/-- What is collected was among the entries. -/
theorem mem_of_mem_membersOf {entries : List (String × α)} {e : String × α}
    (h : e ∈ membersOf entries) : e ∈ entries := by
  have hfold : ∀ acc : List (String × α),
      e ∈ entries.foldl (fun acc e => insertMember e.1 e.2 acc) acc → e ∈ acc ∨ e ∈ entries := by
    clear h
    induction entries with
    | nil => exact fun _ h => Or.inl h
    | cons head entries ih =>
        intro acc h
        rcases ih _ h with h | h
        · rcases mem_insertMember h with rfl | h
          · exact Or.inr List.mem_cons_self
          · exact Or.inl h
        · exact Or.inr (List.mem_cons_of_mem _ h)
  simpa using hfold [] h

/-- A key beyond all others goes to the end. -/
theorem insertMember_of_forall_lt {key : String} (value : α) {entries : List (String × α)}
    (h : ∀ e ∈ entries, e.1 < key) :
    insertMember key value entries = entries ++ [(key, value)] := by
  induction entries with
  | nil => rfl
  | cons head rest ih =>
      obtain ⟨k, v⟩ := head
      have hk : k < key := h (k, v) List.mem_cons_self
      have hne : key ≠ k := by
        rintro rfl
        exact String.lt_irrefl _ hk
      rw [insertMember, if_neg (String.lt_asymm hk), if_neg hne,
        ih fun e he => h e (List.mem_cons_of_mem _ he), List.cons_append]

/-- Entries with rising keys are collected as they are. -/
theorem membersOf_of_keysRise {entries : List (String × α)} (h : KeysRise entries) :
    membersOf entries = entries := by
  have hfold : ∀ acc : List (String × α), KeysRise (acc ++ entries) →
      entries.foldl (fun acc e => insertMember e.1 e.2 acc) acc = acc ++ entries := by
    clear h
    induction entries with
    | nil => simp
    | cons e entries ih =>
        intro acc hacc
        have hlt : ∀ e' ∈ acc, e'.1 < e.1 := fun e' he' =>
          (List.pairwise_append.1 hacc).2.2 e' he' e List.mem_cons_self
        rw [List.foldl_cons, insertMember_of_forall_lt _ hlt, ih, List.append_assoc,
          List.singleton_append]
        rwa [List.append_assoc, List.singleton_append]
  exact hfold [] h

end RuleFilter.Json
