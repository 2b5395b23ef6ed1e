import RuleFilter.Proofs.Path.Search
import RuleFilter.Proofs.Traversal

set_option autoImplicit false

/-! # The names a record answers to

A record answers to the names of its own fields and to those that its flattened fields promote to
it, and these can be written down in one list, in the order in which they count (`Value.offers`).
The two rounds of a look-up, at every level of flattening, come to one search of this list: its
first entry of the name decides (`Walk.field_eq_firstOffer`). So a private field ends the look-up
wherever it stands, in front of what later members offer under the same name, and so does a field
that is nil.

The list says nothing of the path that is walked; a walk brings it in when it fails. -/

namespace RuleFilter

/-- What a name of a record stands for. -/
inductive Offer where
  /-- A field that queries may not read. -/
  | withheld
  | value (v : Value)

namespace Value

/-- The fields that are not hidden, by their query names in declaration order. -/
def ownOffers (source : Option String) (fields : List (FieldDef × Value)) : List (String × Offer) :=
  fields.filterMap fun (d, v) =>
    (d.queryName? source).map fun name => (name, if d.exported then .value v else .withheld)

mutual

/-- What a value has to offer under names: a record its own fields and then what is promoted to it,
and a map its entries. -/
def offers (source : Option String) : Value → List (String × Offer)
  | record _ fields => ownOffers source fields ++ promotedOffers source fields
  | map entries => entries.map fun (k, v) => (k, .value v)
  | _ => []

/-- What the flattened fields promote, one after the other, whether they are hidden, private or
not. -/
def promotedOffers (source : Option String) : List (FieldDef × Value) → List (String × Offer)
  | [] => []
  | (d, v) :: rest =>
    if d.flatten then v.offers source ++ promotedOffers source rest
    else promotedOffers source rest

end

end Value

namespace FieldPath.Walk

open Value (ownOffers promotedOffers)

variable (w : Walk) (segment : String)

/-- What the first offer under the segment's name comes to. -/
def firstOffer (offers : List (String × Offer)) : Search :=
  match offers.lookup segment with
  | none => .ok none
  | some .withheld => .error (.privateField w.path segment)
  | some (.value v) => .ok (some v)

/-! ## Looking up is taking the first offer -/

@[simp] theorem firstOffer_nil : w.firstOffer segment [] = .ok none := rfl

theorem firstOffer_append (xs ys : List (String × Offer)) :
    w.firstOffer segment (xs ++ ys)
      = (w.firstOffer segment xs).orNext (w.firstOffer segment ys) := by
  unfold firstOffer
  rw [List.lookup_append]
  rcases xs.lookup segment with _ | _ | v <;> rfl

theorem firstOffer_entries (entries : List (String × Value)) :
    w.firstOffer segment (entries.map fun (k, v) => (k, .value v))
      = .ok (entries.lookup segment) := by
  induction entries with
  | nil => rfl
  | cons e rest ih =>
      obtain ⟨k, v⟩ := e
      unfold firstOffer at ih ⊢
      rw [List.map_cons, List.lookup_cons, List.lookup_cons]
      cases segment == k with
      | true => rfl
      | false => exact ih

theorem own_eq_firstOffer (fields : List (FieldDef × Value)) :
    w.own segment fields = w.firstOffer segment (ownOffers w.source fields) := by
  induction fields with
  | nil => rfl
  | cons f rest ih =>
      obtain ⟨d, v⟩ := f
      rw [own_cons, ih]
      unfold ownOffers firstOffer
      cases hname : d.queryName? w.source with
      | none => simp [hname]
      | some name =>
          by_cases hsegment : name = segment
          · cases hexported : d.exported <;> simp [hname, hsegment, hexported]
          · have hne : segment ≠ name := fun h => hsegment h.symm
            simp [hname, hsegment, List.lookup_cons, beq_false_of_ne hne]

-- A flattened record promotes its own list, of which a part is promoted to it in turn: the
-- recursion is that of the list, on the value for the one and on its fields for the other.
mutual

theorem offered_eq_firstOffer (v : Value) :
    w.offered segment v = w.firstOffer segment (v.offers w.source) := by
  match v with
  | .nil | .bool _ | .number _ | .string _ | .list _ => rfl
  | .map entries => exact (w.firstOffer_entries segment entries).symm
  | .record i fields =>
      rw [offered, Value.offers, field_eq_orNext, firstOffer_append, own_eq_firstOffer,
        promoted_eq_firstOffer fields]

theorem promoted_eq_firstOffer (fields : List (FieldDef × Value)) :
    w.promoted segment fields = w.firstOffer segment (promotedOffers w.source fields) := by
  match fields with
  | [] => rw [promoted_nil, promotedOffers, firstOffer_nil]
  | (d, v) :: rest =>
      rw [promoted_cons, promotedOffers]
      split
      · rw [firstOffer_append, offered_eq_firstOffer v, promoted_eq_firstOffer rest]
      · exact promoted_eq_firstOffer rest

end

theorem field_eq_firstOffer (identity : Nat) (fields : List (FieldDef × Value)) :
    w.field segment fields
      = w.firstOffer segment ((Value.record identity fields).offers w.source) :=
  w.offered_eq_firstOffer segment (.record identity fields)

/-! ## The first offer, in the list -/

/-- The list is gone through past other names to the offer that is found. -/
theorem reaches_iff_lookup {offers : List (String × Offer)} {o : Offer} :
    Reaches (fun offer => offer.1 ≠ segment) offers (segment, o)
      ↔ offers.lookup segment = some o := by
  unfold Reaches
  simp only [List.lookup_eq_some_iff, bne_iff_ne, ne_comm]

/-- **Looking up a field is taking the first offer of its name.** All that a record answers to is in
one list, its own fields before what its flattened members promote. The look-up is refused exactly
where the first entry of the name is a private field, finds a value exactly where it is that value,
nil or not, and finds nothing exactly where no entry has the name. -/
theorem field_decided_by_first_offer (identity : Nat) (fields : List (FieldDef × Value)) :
    let offers := (Value.record identity fields).offers w.source
    let first := Reaches (fun offer : String × Offer => offer.1 ≠ segment) offers
    (∀ e, w.field segment fields = .error e
        ↔ first (segment, .withheld) ∧ e = .privateField w.path segment)
      ∧ (∀ v, w.field segment fields = .ok (some v) ↔ first (segment, .value v))
      ∧ (w.field segment fields = .ok none ↔ ∀ offer ∈ offers, offer.1 ≠ segment) := by
  intro offers first
  have hfield : w.field segment fields = w.firstOffer segment offers :=
    w.field_eq_firstOffer segment identity fields
  rw [hfield]
  unfold firstOffer
  have hnames : (∀ offer ∈ offers, offer.1 ≠ segment) ↔ offers.lookup segment = none := by
    simp only [List.lookup_eq_none_iff, bne_iff_ne, ne_comm]
  simp only [first, reaches_iff_lookup, hnames]
  -- nothing, a private field or a value: one of the three look-ups is the one that is named
  rcases offers.lookup segment with _ | _ | v <;> simp [eq_comm]

/-- A private field of an earlier member counts before the key of a later one. -/
example :
    let base : Value := .record 2 [(⟨"id", [], false, false⟩, .nil)]
    let account : Value :=
      .record 1 [(⟨"base", [("json", "-")], false, true⟩, base),
        (⟨"extra", [], true, true⟩, .map [("id", .bool true)])]
    account.offers (some "json")
      = [("extra", .value (.map [("id", .bool true)])), ("id", .withheld),
        ("id", .value (.bool true))] := by
  rfl

end FieldPath.Walk

end RuleFilter
