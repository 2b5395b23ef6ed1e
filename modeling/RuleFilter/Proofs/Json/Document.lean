import RuleFilter.Proofs.Entries
import RuleFilter.Proofs.Json.Number

set_option autoImplicit false

/-! # Measures of documents and the form they are held in

How deep a document is nested and whether its numbers are finite decide whether its texts can be
read, and whether its keys are distinct, whether anything is lost then. What is read is the document
as it is held (`held`): integers in the narrowest holder, and the members of an object in key order,
the last of several for one key. A number that is not finite stands for a numeral that no number is
read for, so a document with one is not held at all (`held?`). -/

namespace RuleFilter.Json

/-! ## Depth, finite numbers and the form held -/

mutual

/-- How many arrays and objects stand inside each other at the deepest place. -/
def depth : Json → Nat
  | array items => depthItems items + 1
  | object members => depthMembers members + 1
  | _ => 0

def depthItems : List Json → Nat
  | [] => 0
  | item :: items => max (depth item) (depthItems items)

def depthMembers : List (String × Json) → Nat
  | [] => 0
  | (_, value) :: members => max (depth value) (depthMembers members)

end

mutual

/-- Every number in the document is finite. -/
def IsFinite : Json → Prop
  | number n => n.IsFinite
  | array items => IsFiniteItems items
  | object members => IsFiniteMembers members
  | _ => True

def IsFiniteItems : List Json → Prop
  | [] => True
  | item :: items => IsFinite item ∧ IsFiniteItems items

def IsFiniteMembers : List (String × Json) → Prop
  | [] => True
  | (_, value) :: members => IsFinite value ∧ IsFiniteMembers members

end

mutual

/-- The numbers in the document, in its order. -/
def numbers : Json → List Number
  | number n => [n]
  | array items => numbersItems items
  | object members => numbersMembers members
  | _ => []

def numbersItems : List Json → List Number
  | [] => []
  | item :: items => numbers item ++ numbersItems items

def numbersMembers : List (String × Json) → List Number
  | [] => []
  | (_, value) :: members => numbers value ++ numbersMembers members

end

mutual

instance decidableIsFinite : (j : Json) → Decidable j.IsFinite
  | number n => inferInstanceAs (Decidable n.IsFinite)
  | array items => decidableIsFiniteItems items
  | object members => decidableIsFiniteMembers members
  | null | bool _ | string _ => .isTrue trivial

instance decidableIsFiniteItems : (items : List Json) → Decidable (IsFiniteItems items)
  | [] => .isTrue trivial
  | item :: items =>
    have := decidableIsFinite item
    have := decidableIsFiniteItems items
    inferInstanceAs (Decidable (_ ∧ _))

instance decidableIsFiniteMembers :
    (members : List (String × Json)) → Decidable (IsFiniteMembers members)
  | [] => .isTrue trivial
  | (_, value) :: members =>
    have := decidableIsFinite value
    have := decidableIsFiniteMembers members
    inferInstanceAs (Decidable (_ ∧ _))

end

mutual

/-- No object in the document has a key twice. -/
def DistinctKeys : Json → Prop
  | array items => DistinctKeysItems items
  | object members => KeysDistinct members ∧ DistinctKeysMembers members
  | _ => True

def DistinctKeysItems : List Json → Prop
  | [] => True
  | item :: items => DistinctKeys item ∧ DistinctKeysItems items

def DistinctKeysMembers : List (String × Json) → Prop
  | [] => True
  | (_, value) :: members => DistinctKeys value ∧ DistinctKeysMembers members

end

/-! ### The same, item by item -/

theorem isFiniteItems_iff {items : List Json} : IsFiniteItems items ↔ ∀ j ∈ items, IsFinite j := by
  induction items with
  | nil => simp [IsFiniteItems]
  | cons j items ih => rw [IsFiniteItems, ih, List.forall_mem_cons]

theorem isFiniteMembers_iff {members : List (String × Json)} :
    IsFiniteMembers members ↔ ∀ e ∈ members, IsFinite e.2 := by
  induction members with
  | nil => simp [IsFiniteMembers]
  | cons e members ih => rw [IsFiniteMembers, ih, List.forall_mem_cons]

theorem forall_mem_numbersItems_iff {items : List Json} {p : Number → Prop} :
    (∀ n ∈ numbersItems items, p n) ↔ ∀ j ∈ items, ∀ n ∈ j.numbers, p n := by
  induction items with
  | nil => simp [numbersItems]
  | cons j items ih => rw [numbersItems, List.forall_mem_append, ih, List.forall_mem_cons]

theorem distinctKeysItems_iff {items : List Json} :
    DistinctKeysItems items ↔ ∀ j ∈ items, DistinctKeys j := by
  induction items with
  | nil => simp [DistinctKeysItems]
  | cons j items ih => rw [DistinctKeysItems, ih, List.forall_mem_cons]

theorem distinctKeysMembers_iff {members : List (String × Json)} :
    DistinctKeysMembers members ↔ ∀ e ∈ members, DistinctKeys e.2 := by
  induction members with
  | nil => simp [DistinctKeysMembers]
  | cons e members ih => rw [DistinctKeysMembers, ih, List.forall_mem_cons]

theorem depthItems_le_iff {items : List Json} {n : Nat} :
    depthItems items ≤ n ↔ ∀ j ∈ items, depth j ≤ n := by
  induction items with
  | nil => simp [depthItems]
  | cons j items ih => rw [depthItems, Nat.max_le, ih, List.forall_mem_cons]

theorem depthMembers_le_iff {members : List (String × Json)} {n : Nat} :
    depthMembers members ≤ n ↔ ∀ e ∈ members, depth e.2 ≤ n := by
  induction members with
  | nil => simp [depthMembers]
  | cons e members ih => rw [depthMembers, Nat.max_le, ih, List.forall_mem_cons]

mutual

/-- The document as it is held once it was written and read. -/
def held : Json → Json
  | null => null
  | bool b => bool b
  | number n => number n.held
  | string s => string s
  | array items => array (heldItems items)
  | object members => object (membersOf (heldMembers members))

def heldItems : List Json → List Json
  | [] => []
  | item :: items => held item :: heldItems items

def heldMembers : List (String × Json) → List (String × Json)
  | [] => []
  | (key, value) :: members => (key, held value) :: heldMembers members

end

theorem heldItems_eq_map (items : List Json) : heldItems items = items.map held := by
  induction items with
  | nil => rfl
  | cons j items ih => rw [heldItems, ih, List.map_cons]

theorem heldMembers_eq_map (members : List (String × Json)) :
    heldMembers members = members.map fun e => (e.1, e.2.held) := by
  induction members with
  | nil => rfl
  | cons e members ih => rw [heldMembers, ih, List.map_cons]

/-- The document as it is held, if each of its numbers is read. -/
def held? (j : Json) : Option Json := if j.IsFinite then some j.held else none

theorem givesWhen_held? (j : Json) : GivesWhen j.held? j.IsFinite j.held :=
  ⟨fun h => if_pos h, fun h => if_neg h⟩

theorem held?_number (n : Number) : (number n).held? = n.held?.map number :=
  (givesWhen_held? (number n)).unique (n.givesWhen_held?.map number)

theorem held?_array (items : List Json) : (array items).held? = (items.mapM held?).map array := by
  have hitems : GivesWhen (items.mapM held?) (∀ j ∈ items, j.IsFinite) (items.map held) :=
    .mapM fun j _ => givesWhen_held? j
  rw [← heldItems_eq_map] at hitems
  exact (givesWhen_held? (array items)).unique
    ((hitems.map array).congr isFiniteItems_iff.symm)

/-- A member is kept among those that were kept before it. -/
def keep? (members : List (String × Json)) (e : String × Json) : Option (List (String × Json)) :=
  e.2.held?.map (insertMember e.1 · members)

theorem held?_object (members : List (String × Json)) :
    (object members).held? = (members.foldlM keep? []).map object := by
  have hmembers : GivesWhen (members.foldlM keep? []) (∀ e ∈ members, e.2.IsFinite)
      (members.foldl (fun acc e => insertMember e.1 e.2.held acc) []) :=
    .foldlM (fun e _ acc => (givesWhen_held? e.2).map (insertMember e.1 · acc)) []
  have hheld : membersOf (heldMembers members)
      = members.foldl (fun acc e => insertMember e.1 e.2.held acc) [] := by
    rw [membersOf, heldMembers_eq_map, List.foldl_map]
  rw [← hheld] at hmembers
  exact (givesWhen_held? (object members)).unique
    ((hmembers.map object).congr isFiniteMembers_iff.symm)

end RuleFilter.Json
