import RuleFilter.Proofs.Entries
import RuleFilter.Proofs.Reference.OfJson
import RuleFilter.Reference.Comparison
import RuleFilter.Value.Candidate

set_option autoImplicit false

/-! # A document equals its reference

The two views of one document, as a candidate and as a reference, keep its shape and differ in the
width of numbers, through which equality looks. So the views are equal (`equals_ofJson`) wherever
equality is reflexive: no number is a NaN, and no key of an object comes twice, which would put the
first entry of the key in the place of all others. -/

namespace RuleFilter

theorem Double.eq_self {x : Double} (h : x.isFinite = true) : x.eq x = true := by
  cases x with
  | nan => cases h
  | infinity negative => cases h
  | finite negative m => cases negative <;> simp [Double.eq, Double.compare, Double.rank]

theorem Json.KeysRise.keysDistinct {α : Type} {entries : List (String × α)}
    (h : Json.KeysRise entries) : KeysDistinct entries := by
  have hne : ∀ k l : String, k < l → k ≠ l := by
    rintro k l hlt rfl
    exact String.lt_irrefl k hlt
  exact (Json.keysRise_iff_keys.1 h).imp fun hlt => hne _ _ hlt

namespace Value

theorem length_toValueMembers (members : List (String × Json)) :
    (Json.toValueMembers members).length = (Reference.ofJsonMembers members).length := by
  induction members with
  | nil => rfl
  | cons e members ih => exact congrArg (· + 1) ih

mutual

/-- **The two views of a document are equal.** -/
theorem equals_ofJson {j : Json} (hfinite : j.IsFinite) (hordered : j.Ordered) :
    j.toValue.equals (Reference.ofJson j) = true := by
  match j with
  | .null => rfl
  | .bool b => exact beq_self_eq_true b
  | .number n =>
      have hsame : n.held.toDouble.eq n.toDouble = n.toDouble.eq n.toDouble := by
        rw [n.toDouble_held]
      exact hsame.trans (Double.eq_self (Number.IsFinite.toDouble hfinite))
  | .string s => exact beq_self_eq_true s
  | .array items => exact equalsList_ofJsonList hfinite hordered
  | .object members =>
      have hkeys := Reference.keysRise_ofJsonMembers hordered.1
      have hentries := equalsEntries_ofJsonMembers hkeys.keysDistinct hfinite hordered.2
        (List.Subset.refl _)
      rw [Json.toValue, Reference.ofJson, Reference.ofEntries, Json.membersOf_of_keysRise hkeys,
        equals, hentries, length_toValueMembers]
      exact Bool.and_eq_true_iff.2 ⟨beq_self_eq_true _, rfl⟩

theorem equalsList_ofJsonList {items : List Json} (hfinite : Json.IsFiniteItems items)
    (hordered : Json.OrderedItems items) :
    equalsList (Json.toValueList items) (Reference.ofJsonList items) = true := by
  match items with
  | [] => rfl
  | j :: items =>
      rw [Json.toValueList, Reference.ofJsonList, equalsList,
        equals_ofJson hfinite.1 hordered.1, equalsList_ofJsonList hfinite.2 hordered.2]
      rfl

/-- Entries equal those of a map that holds the references of all of them. -/
theorem equalsEntries_ofJsonMembers {members : List (String × Json)}
    {refs : List (String × Reference)} (hkeys : KeysDistinct refs)
    (hfinite : Json.IsFiniteMembers members) (hordered : Json.OrderedMembers members)
    (hrefs : Reference.ofJsonMembers members ⊆ refs) :
    equalsEntries (Json.toValueMembers members) refs = true := by
  match members with
  | [] => rfl
  | (k, j) :: members =>
      obtain ⟨hhead, htail⟩ := List.cons_subset.1 hrefs
      have hlookup : refs.lookup k = some (Reference.ofJson j) :=
        (lookup_eq_some_iff_mem hkeys).2 hhead
      rw [Json.toValueMembers, equalsEntries, hlookup,
        equalsEntries_ofJsonMembers hkeys hfinite.2 hordered.2 htail]
      exact Bool.and_eq_true_iff.2 ⟨equals_ofJson hfinite.1 hordered.1, rfl⟩

end

end Value

end RuleFilter
