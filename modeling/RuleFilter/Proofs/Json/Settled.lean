import RuleFilter.Proofs.Double.Decimal
import RuleFilter.Proofs.Json.Document
import RuleFilter.Json.Members
import RuleFilter.Proofs.Json.Step

set_option autoImplicit false

/-! # What reading gives

Whatever the text, a document that is read is settled (`settled_of_readValue`): its numbers are
finite, its objects have their keys rising, and it is nested less deep than the budget. Behind it
stands, for each loop of the readers, that what each turn keeps is so in the end
(`forall_of_readItems`, `invariant_of_readMembers`), which serves readers of a form of their own as
well. -/

namespace RuleFilter.Json

/-! ## Loops -/

/-- Every item that is read is one that the reader of items can give. -/
theorem forall_of_readItems {α : Type} {item : List Char → Except Fault (WithRest α)}
    {P : α → Prop} (hitem : ∀ cs x rest, item cs = .ok (x, rest) → P x) {fuel : Nat} {first : Bool}
    {cs rest : List Char} {xs : List α} (h : readItems item fuel first cs = .ok (xs, rest)) :
    ∀ x ∈ xs, P x := by
  induction fuel generalizing first cs xs with
  | zero => cases h
  | succ fuel ih =>
      cases readItems_eq_ok_iff.1 h with
      | done => exact fun _ hx => absurd hx List.not_mem_nil
      | more _ hhead htail => exact List.forall_mem_cons.2 ⟨hitem _ _ _ hhead, ih htail⟩

/-- What every member keeps is kept by all of them. -/
theorem invariant_of_readMembers {σ : Type}
    {member : σ → String → List Char → Except Fault (WithRest σ)} {P : σ → Prop}
    (hmember : ∀ state key cs next rest, P state → member state key cs = .ok (next, rest) → P next)
    {fuel : Nat} {first : Bool} {state last : σ} {cs rest : List Char} (hstate : P state)
    (h : readMembers member fuel first state cs = .ok (last, rest)) : P last := by
  induction fuel generalizing first state cs with
  | zero => cases h
  | succ fuel ih =>
      cases readMembers_eq_ok_iff.1 h with
      | done => exact hstate
      | more _ _ hhead htail => exact ih (hmember _ _ _ _ _ hstate hhead) htail

/-! ## Documents as they are read -/

mutual

/-- Every object in the document has its keys rising. -/
def Ordered : Json → Prop
  | array items => OrderedItems items
  | object members => KeysRise members ∧ OrderedMembers members
  | _ => True

def OrderedItems : List Json → Prop
  | [] => True
  | item :: items => Ordered item ∧ OrderedItems items

def OrderedMembers : List (String × Json) → Prop
  | [] => True
  | (_, value) :: members => Ordered value ∧ OrderedMembers members

end

theorem orderedItems_iff {items : List Json} : OrderedItems items ↔ ∀ j ∈ items, Ordered j := by
  induction items with
  | nil => simp [OrderedItems]
  | cons j items ih => rw [OrderedItems, ih, List.forall_mem_cons]

theorem orderedMembers_iff {members : List (String × Json)} :
    OrderedMembers members ↔ ∀ e ∈ members, Ordered e.2 := by
  induction members with
  | nil => simp [OrderedMembers]
  | cons e members ih => rw [OrderedMembers, ih, List.forall_mem_cons]

/-- The document is as reading leaves it, nested at most so deep. -/
structure Settled (limit : Nat) (j : Json) : Prop where
  finite : j.IsFinite
  ordered : j.Ordered
  depth_le : j.depth ≤ limit

theorem settled_array {limit : Nat} {items : List Json} (h : ∀ j ∈ items, Settled limit j) :
    Settled (limit + 1) (array items) where
  finite := isFiniteItems_iff.2 fun j hj => (h j hj).finite
  ordered := orderedItems_iff.2 fun j hj => (h j hj).ordered
  depth_le := Nat.succ_le_succ (depthItems_le_iff.2 fun j hj => (h j hj).depth_le)

theorem settled_object {limit : Nat} {members : List (String × Json)} (hkeys : KeysRise members)
    (h : ∀ e ∈ members, Settled limit e.2) : Settled (limit + 1) (object members) where
  finite := isFiniteMembers_iff.2 fun e he => (h e he).finite
  ordered := ⟨hkeys, orderedMembers_iff.2 fun e he => (h e he).ordered⟩
  depth_le := Nat.succ_le_succ (depthMembers_le_iff.2 fun e he => (h e he).depth_le)

/-! ## Values -/

theorem settled_of_mem_words {letter : Char} {letters : List Char} {j : Json}
    (h : (letter, letters, j) ∈ words) (limit : Nat) : Settled limit j := by
  simp only [words, List.mem_cons, Prod.mk.injEq, List.not_mem_nil, or_false] at h
  rcases h with ⟨-, -, rfl⟩ | ⟨-, -, rfl⟩ | ⟨-, -, rfl⟩ <;>
    exact ⟨trivial, trivial, Nat.zero_le _⟩

/-- Members that have been read are in order and settled. -/
def SettledMembers (limit : Nat) (members : List (String × Json)) : Prop :=
  KeysRise members ∧ ∀ e ∈ members, Settled limit e.2

theorem settledMembers_insertMember {limit : Nat} {members : List (String × Json)} {key : String}
    {value : Json} (hmembers : SettledMembers limit members) (hvalue : Settled limit value) :
    SettledMembers limit (insertMember key value members) := by
  refine ⟨keysRise_insertMember key value hmembers.1, fun e he => ?_⟩
  rcases mem_insertMember he with rfl | he
  · exact hvalue
  · exact hmembers.2 e he

/-- **What is read is settled**, whatever the text: it is finite, in order, and nested less deep
than the budget. -/
theorem settled_of_readValue {fuel budget : Nat} {cs rest : List Char} {j : Json}
    (h : readValue fuel budget cs = .ok (j, rest)) : Settled (budget - 1) j := by
  induction fuel generalizing budget cs rest j with
  | zero => cases h
  | succ fuel ih =>
      cases readValue_eq_ok_iff.1 h with
      | word hword => exact settled_of_mem_words hword _
      | string => exact ⟨trivial, trivial, Nat.zero_le _⟩
      | number _ _ hrest =>
          obtain ⟨parts, -, hn⟩ := readNumber_eq_ok_iff.1 hrest
          exact ⟨(NumeralParts.finite_of_toNumber? hn).1, trivial, Nat.zero_le _⟩
      | array hbudget _ hrest =>
          obtain ⟨budget, rfl⟩ : ∃ k, budget = k + 1 + 1 := ⟨budget - 2, by omega⟩
          exact settled_array (forall_of_readItems (fun _ _ _ hitem => ih hitem) hrest)
      | object hbudget _ hrest =>
          obtain ⟨budget, rfl⟩ : ∃ k, budget = k + 1 + 1 := ⟨budget - 2, by omega⟩
          have hmembers : SettledMembers budget _ :=
            invariant_of_readMembers (fun _ _ _ _ _ hmembers hmember => by
              obtain ⟨after, value, -, hvalue, rfl⟩ := readMember_eq_ok_iff.1 hmember
              exact settledMembers_insertMember hmembers (ih hvalue)) ⟨keysRise_nil, nofun⟩ hrest
          exact settled_object hmembers.1 hmembers.2

end RuleFilter.Json
