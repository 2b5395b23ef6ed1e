import RuleFilter.Proofs.Matcher.Scan
import RuleFilter.Proofs.Processor.Compile

set_option autoImplicit false

/-! # Which places are kept

What applying rules leaves of a collection can be said without its elements, by their places in it.
The places are found by filtering elements that carry them (`placed`, `keptPlaces`): a rule sees
nothing of a place, so what is left are the elements at the places that are kept
(`left_eq_keptPlaces`).

Runs on two collections go alike (`RunsAlike`) when they answer the same and keep the same places,
and they do when their elements have, one by one, the same answers. -/

namespace RuleFilter

variable {α β : Type}

/-- An element with its place in a collection. -/
structure Placed (α : Type) where
  place : Nat
  element : α

/-- A rule sees the element. -/
instance [Candidate α] : Candidate (Placed α) := ⟨fun x => Candidate.value x.element⟩

/-- The elements with their places. -/
def placed (items : List α) : List (Placed α) := items.zipIdx.map fun (x, i) => ⟨i, x⟩

theorem map_element_placed (items : List α) : (placed items).map Placed.element = items := by
  rw [placed, List.map_map]
  exact List.zipIdx_map_fst 0 items

theorem map_place_placed (items : List α) :
    (placed items).map Placed.place = List.range items.length := by
  rw [placed, List.map_map, List.range_eq_range']
  exact List.zipIdx_map_snd 0 items

theorem getElem?_of_mem_placed {items : List α} {x : Placed α} (h : x ∈ placed items) :
    items[x.place]? = some x.element := by
  obtain ⟨⟨y, i⟩, hmem, rfl⟩ := List.mem_map.1 h
  exact List.mem_zipIdx_iff_getElem?.1 hmem

theorem mem_placed_of_getElem? {items : List α} {i : Nat} {x : α} (h : items[i]? = some x) :
    ⟨i, x⟩ ∈ placed items :=
  List.mem_map.2 ⟨(x, i), List.mem_zipIdx_iff_getElem?.2 h, rfl⟩

theorem map_value_placed [Candidate α] (items : List α) :
    (placed items).map Candidate.value = items.map Candidate.value := by
  conv_rhs => rw [← map_element_placed items]
  rw [List.map_map]
  rfl

namespace Processor

theorem retain_map (f : α → β) (start stop : Nat) (mask : List Bool) (xs : List α) (ordinal : Nat) :
    retain start stop ordinal mask (xs.map f) = (retain start stop ordinal mask xs).map f := by
  induction xs generalizing mask ordinal with
  | nil => cases mask <;> simp [retain]
  | cons x xs ih =>
      cases mask with
      | nil => rfl
      | cons b mask =>
          cases b with
          | false => exact ih mask ordinal
          | true =>
              rw [List.map_cons, retain, retain, ih]
              split <;> rfl

theorem retain_subset (start stop : Nat) (mask : List Bool) (xs : List α) (ordinal : Nat) :
    retain start stop ordinal mask xs ⊆ xs := by
  induction xs generalizing mask ordinal with
  | nil => cases mask <;> simp [retain]
  | cons x xs ih =>
      cases mask with
      | nil => exact List.nil_subset _
      | cons b mask =>
          cases b with
          | false => exact List.subset_cons_of_subset x (ih mask ordinal)
          | true =>
              rw [retain]
              split
              · exact List.cons_subset_cons x (ih mask (ordinal + 1))
              · exact List.subset_cons_of_subset x (ih mask (ordinal + 1))

section

variable [Candidate α] [Candidate β] {p q : Processor} {rules : RuleSet}

/-- Filtering what is seen through a map is filtering and mapping what is left. -/
theorem left_keep_map {f : α → β} (hf : ∀ x, Candidate.value (f x) = Candidate.value x)
    (w : Window) (items : List α) :
    (p.keep rules w (items.map f)).left = (p.keep rules w items).left.map f := by
  have hvalues : (items.map f).map Candidate.value = items.map Candidate.value := by
    rw [List.map_map]
    exact List.map_congr_left fun x _ => hf x
  rw [keep, keep, hvalues]
  split
  · rfl
  · exact retain_map f _ _ _ items 0

theorem left_keep_subset (w : Window) (items : List α) : (p.keep rules w items).left ⊆ items := by
  rw [keep]
  split
  · exact List.Subset.refl items
  · exact retain_subset _ _ _ items 0

/-- The places of the elements that applying rules keeps. -/
def keptPlaces (p : Processor) (rules : RuleSet) (items : List α) : List Nat :=
  (p.apply rules (placed items)).left.map Placed.place

/-- What is left are the elements at the places that are kept. -/
theorem left_eq_keptPlaces (items : List α) :
    (p.apply rules items).left = (p.keptPlaces rules items).filterMap (items[·]?) := by
  have hleft : (p.apply rules items).left
      = (p.apply rules (placed items)).left.map Placed.element := by
    conv_lhs => rw [← map_element_placed items]
    exact left_keep_map (f := Placed.element) (fun _ => rfl) _ (placed items)
  rw [hleft, keptPlaces, List.filterMap_map, ← List.filterMap_eq_map]
  refine List.filterMap_congr fun x hx => ?_
  exact (getElem?_of_mem_placed (left_keep_subset _ (placed items) hx)).symm

end

/-! ## Runs that go alike -/

section

variable [Candidate α] [Candidate β]

/-- Applying rules in two ways to two collections has the same error or the same selection, and
keeps the same places. -/
structure RunsAlike (p : Processor) (rules : RuleSet) (items : List α) (q : Processor)
    (rules' : RuleSet) (items' : List β) : Prop where
  answer : (p.apply rules items).answer = (q.apply rules' items').answer
  places : p.keptPlaces rules items = q.keptPlaces rules' items'

variable {p q : Processor} {rules rules' : RuleSet} {items : List α} {items' : List β}

/-- Runs go alike that mark the same places, with the same limit. -/
theorem RunsAlike.of_scan (hmax : p.settings.maxResults = q.settings.maxResults)
    (hlength : items.length = items'.length)
    (hscan : (do (← p.compile rules).scan (items.map Candidate.value))
      = (do (← q.compile rules').scan (items'.map Candidate.value))) :
    RunsAlike p rules items q rules' items' := by
  have hkept (mask : List Bool) (start stop : Nat) :
      (retain start stop 0 mask (placed items)).map Placed.place
        = (retain start stop 0 mask (placed items')).map Placed.place := by
    rw [← retain_map, ← retain_map, map_place_placed, map_place_placed, hlength]
  have hcount (mask : List Bool) (start stop : Nat) :
      (retain start stop 0 mask items).length = (retain start stop 0 mask items').length := by
    have hplaces := congrArg List.length (hkept mask start stop)
    rw [List.length_map, List.length_map] at hplaces
    rw [← map_element_placed items, ← map_element_placed items', retain_map, retain_map,
      List.length_map, List.length_map, hplaces]
  constructor
  · rw [apply, apply, keep, keep, hscan, hmax]
    split
    · rfl
    · next mask _ => simp only [hcount]
  · rw [keptPlaces, keptPlaces, apply, apply, keep, keep, map_value_placed, map_value_placed, hscan,
      hmax]
    split
    · rw [map_place_placed, map_place_placed, hlength]
    · exact hkept _ _ _

/-- Runs of processors that differ in the alias source only go alike when every matcher's groups
have the same answers for the elements, one by one. -/
theorem RunsAlike.of_accepts (hrules : q.settings.maxRules = p.settings.maxRules)
    (hresults : q.settings.maxResults = p.settings.maxResults)
    (h : List.Forall₂ (fun x y => ∀ groups : List (List Condition),
      Matcher.accepts ⟨groups, p.settings.fieldNameTag⟩ (Candidate.value x)
        = Matcher.accepts ⟨groups, q.settings.fieldNameTag⟩ (Candidate.value y)) items items') :
    RunsAlike p rules items q rules items' := by
  refine .of_scan hresults.symm h.length_eq ?_
  rw [compile_eq_map_source hrules]
  cases hm : p.compile rules with
  | error e => rfl
  | ok m =>
      have hsource : m.source = p.settings.fieldNameTag := (compile_eq_ok_iff.1 hm).2.source
      refine Matcher.scan_congr (List.forall₂_map_left_iff.2 (List.forall₂_map_right_iff.2 ?_))
      refine h.imp fun x y hxy => ?_
      rw [← hxy m.groups, ← hsource]

end

end Processor

end RuleFilter
