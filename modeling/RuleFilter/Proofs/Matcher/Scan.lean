import RuleFilter.Processor.Basic
import RuleFilter.Proofs.Traversal

set_option autoImplicit false

/-! # Scanning a collection

A scan asks the matcher about one element after the other and ends at the first error. Where every
element has an answer (`Matcher.Decides`) it marks the elements that match (`Matcher.matching`), and
counting is counting the marks. -/

namespace RuleFilter.Matcher

variable {α : Type} [Candidate α]

/-- Every element has an answer. -/
def Decides (m : Matcher) (items : List α) : Prop :=
  ∀ x ∈ items, ∃ b, m.accepts (Candidate.value x) = .ok b

/-- The answer for the element is that it matches. -/
def isMatch (m : Matcher) (x : α) : Bool :=
  match m.accepts (Candidate.value x) with
  | .ok b => b
  | .error _ => false

/-- The elements that match, in order. -/
def matching (m : Matcher) (items : List α) : List α := items.filter m.isMatch

theorem isMatch_eq {m : Matcher} {x : α} {b : Bool} (h : m.accepts (Candidate.value x) = .ok b) :
    m.isMatch x = b := by
  rw [isMatch, h]

theorem isMatch_eq_true_iff {m : Matcher} {x : α} :
    m.isMatch x = true ↔ m.accepts (Candidate.value x) = .ok true := by
  rw [isMatch]
  cases m.accepts (Candidate.value x) <;> simp

theorem length_matching_le (m : Matcher) (items : List α) :
    (m.matching items).length ≤ items.length :=
  List.length_filter_le _ _

/-- Scanning is asking about each element in turn. -/
theorem scan_eq_mapM (m : Matcher) (values : List Value) :
    m.scan values = values.mapM m.accepts := by
  induction values with
  | nil => rfl
  | cons v vs ih => rw [scan, ih, List.mapM_cons]

/-- Matchers that answer alike, element by element, mark the same places. -/
theorem scan_congr {m n : Matcher} {values values' : List Value}
    (h : List.Forall₂ (fun v v' => m.accepts v = n.accepts v') values values') :
    m.scan values = n.scan values' := by
  induction h with
  | nil => rfl
  | cons hv _ ih => rw [scan, scan, hv, ih]

/-- Counting is counting the marks of a scan. -/
theorem count_eq_map_scan (m : Matcher) (values : List Value) :
    m.count values = (m.scan values).map (List.count true) := by
  induction values with
  | nil => rfl
  | cons v vs ih =>
      rw [scan, count, ih]
      cases m.accepts v with
      | error e => rfl
      | ok matched =>
          cases m.scan vs with
          | error e => rfl
          | ok mask => cases matched <;> simp [bind, Except.bind, Except.map, pure, Except.pure]

/-- A scan marks the elements that match. -/
theorem scan_eq_of_decides {m : Matcher} {items : List α} (h : m.Decides items) :
    m.scan (items.map Candidate.value) = .ok (items.map m.isMatch) := by
  rw [scan_eq_mapM, mapM_eq_ok_iff, List.forall₂_map_left_iff, List.forall₂_map_right_iff,
    List.forall₂_same]
  intro x hx
  obtain ⟨b, hb⟩ := h x hx
  rw [hb, isMatch_eq hb]

/-- A scan that ends without an error has met an answer for every element. -/
theorem decides_of_scan {m : Matcher} {items : List α} {mask : List Bool}
    (h : m.scan (items.map Candidate.value) = .ok mask) : m.Decides items := by
  rw [scan_eq_mapM, mapM_eq_ok_iff, List.forall₂_map_left_iff] at h
  intro x hx
  induction h with
  | nil => exact absurd hx List.not_mem_nil
  | cons hy _ ih =>
      rcases List.mem_cons.1 hx with rfl | hx
      · exact ⟨_, hy⟩
      · exact ih hx

theorem count_true_map_isMatch (m : Matcher) (items : List α) :
    (items.map m.isMatch).count true = (m.matching items).length := by
  rw [matching, List.count, List.countP_map, ← List.countP_eq_length_filter]
  exact List.countP_congr (by simp)

/-- Counting counts the elements that match. -/
theorem count_eq_of_decides {m : Matcher} {items : List α} (h : m.Decides items) :
    m.count (items.map Candidate.value) = .ok (m.matching items).length := by
  rw [count_eq_map_scan, scan_eq_of_decides h, ← count_true_map_isMatch]
  rfl

end RuleFilter.Matcher
