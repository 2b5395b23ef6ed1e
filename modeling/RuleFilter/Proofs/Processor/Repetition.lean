import RuleFilter.Proofs.Processor.Selection

set_option autoImplicit false

/-! # Filtering again

A call that succeeds leaves matches only, and no more of them than its window is long
(`Processor.exists_acceptsAll_of_keep`), whatever part of the matches the window shows. No window
may be longer than the settings allow, and the first matches are a window of just that length. So of
a collection that a call has left the same rules meet no element without an answer, refuse none and
cut none off (`Processor.apply_of_acceptsAll`). -/

namespace RuleFilter

variable {α : Type} [Candidate α]

namespace Matcher

/-- Every element matches. -/
def AcceptsAll (m : Matcher) (items : List α) : Prop :=
  ∀ x ∈ items, m.accepts (Candidate.value x) = .ok true

variable {m : Matcher} {items : List α}

theorem acceptsAll_of_subset_matching {xs : List α} (h : xs ⊆ m.matching items) :
    m.AcceptsAll xs := by
  intro x hx
  exact isMatch_eq_true_iff.1 (List.mem_filter.1 (h hx)).2

theorem AcceptsAll.decides (h : m.AcceptsAll items) : m.Decides items := by
  intro x hx
  exact ⟨true, h x hx⟩

theorem AcceptsAll.matching_eq (h : m.AcceptsAll items) : m.matching items = items :=
  List.filter_eq_self.2 fun x hx => isMatch_eq_true_iff.2 (h x hx)

end Matcher

namespace Processor

variable {p : Processor} {rules : RuleSet} {m : Matcher} {items : List α} {w : Window}
  {selection : Selection}

/-- Where every element matches and there is room for all of them, all of them are kept. -/
theorem apply_of_acceptsAll (hm : p.compile rules = .ok m) (h : m.AcceptsAll items)
    (hroom : items.length ≤ p.settings.maxResults.toNat) :
    p.apply rules items = .keeping items items.length := by
  have hmatching := h.matching_eq
  have hfits : (m.matching items).length ≤ p.settings.maxResults.toNat := by rwa [hmatching]
  rw [apply_of_fits hm h.decides hfits, hmatching]

/-- A window that is kept holds matches, and no more than it is long. -/
theorem exists_acceptsAll_of_keep (h : (p.keep rules w items).answer = .ok selection) :
    ∃ m, p.compile rules = .ok m ∧ m.AcceptsAll (p.keep rules w items).left
      ∧ (p.keep rules w items).left.length ≤ w.length.toNat := by
  obtain ⟨m, hm, hdecides, -⟩ := exists_decides_of_keep h
  have hmatches := left_keep_subset_matching hm hdecides w
  exact ⟨m, hm, Matcher.acceptsAll_of_subset_matching hmatches,
    length_left_keep_le hm hdecides w⟩

/-- What a window of a length that is allowed leaves is left as it is. -/
theorem apply_left_keep (h : (p.keep rules w items).answer = .ok selection)
    (hmax : w.length ≤ p.settings.maxResults) :
    p.apply rules (p.keep rules w items).left
      = .keeping (p.keep rules w items).left (p.keep rules w items).left.length := by
  obtain ⟨m, hm, haccepts, hlength⟩ := exists_acceptsAll_of_keep h
  exact apply_of_acceptsAll hm haccepts (Nat.le_trans hlength (UInt64.le_iff_toNat_le.1 hmax))

/-- A call for a window that succeeds has found its length allowed. -/
theorem length_le_of_applyWindow (h : (p.applyWindow rules w items).answer = .ok selection) :
    w.length ≤ p.settings.maxResults ∧ p.applyWindow rules w items = p.keep rules w items := by
  by_cases hbad : w.length = 0 ∨ p.settings.maxResults < w.length
  · rw [applyWindow, if_pos hbad] at h
    cases h
  · refine ⟨?_, if_neg hbad⟩
    rw [not_or, UInt64.not_lt] at hbad
    exact hbad.2

theorem apply_left_applyWindow (h : (p.applyWindow rules w items).answer = .ok selection) :
    p.apply rules (p.applyWindow rules w items).left
      = .keeping (p.applyWindow rules w items).left (p.applyWindow rules w items).left.length := by
  obtain ⟨hmax, hkeep⟩ := length_le_of_applyWindow h
  rw [hkeep] at h ⊢
  exact apply_left_keep h hmax

/-- Work on a document that succeeds has worked on the items of an array. -/
theorem exists_array_of_onItems {work : List Json → Outcome (List Json)} {document : Json}
    (h : (onItems work document).answer = .ok selection) :
    ∃ items, (work items).answer = .ok selection
      ∧ (onItems work document).left = .array (work items).left := by
  cases document with
  | array items => exact ⟨items, h, rfl⟩
  | _ => cases h

/-- **Filtering again changes nothing.** When a call has succeeded, for the first matches or for any
window of them, the same rules keep all that it has left, each element in its place, and report as
many of them kept and as many matches. For a document this is said of its items. -/
theorem filtering_again_changes_nothing (p : Processor) (rules : RuleSet) :
    (∀ {α : Type} [Candidate α] (items : List α) (selection : Selection),
      ((p.apply rules items).answer = .ok selection →
        let left := (p.apply rules items).left
        p.apply rules left = .keeping left left.length)
      ∧ ∀ w : Window, (p.applyWindow rules w items).answer = .ok selection →
        let left := (p.applyWindow rules w items).left
        p.apply rules left = .keeping left left.length)
    ∧ ∀ (document : Json) (selection : Selection),
      ((p.applyJson rules document).answer = .ok selection →
        ∃ left, (p.applyJson rules document).left = .array left
          ∧ p.applyJson rules (.array left) = (Outcome.keeping left left.length).document)
      ∧ ∀ w : Window, (p.applyWindowJson rules w document).answer = .ok selection →
        ∃ left, (p.applyWindowJson rules w document).left = .array left
          ∧ p.applyJson rules (.array left) = (Outcome.keeping left left.length).document := by
  have hdocument {items : List Json} (h : p.apply rules items = .keeping items items.length) :
      p.applyJson rules (.array items) = (Outcome.keeping items items.length).document := by
    rw [applyJson, onItems, h]
    rfl
  constructor
  · intro α _ items selection
    constructor
    · intro h
      exact apply_left_keep h (UInt64.le_refl _)
    · intro w h
      exact apply_left_applyWindow h
  · intro document selection
    constructor
    · intro h
      obtain ⟨items, hitems, hleft⟩ := exists_array_of_onItems h
      exact ⟨_, hleft, hdocument (apply_left_keep hitems (UInt64.le_refl _))⟩
    · intro w h
      obtain ⟨items, hitems, hleft⟩ := exists_array_of_onItems h
      exact ⟨_, hleft, hdocument (apply_left_applyWindow hitems)⟩

/-- Three of the records match and two may be kept; one fails on the name alone, which is not asked
for. -/
theorem filtering_again_changes_nothing_in_register :
    let p : Processor := ⟨⟨none, "filter", 2, 2⟩, by decide⟩
    let rules : RuleSet := [[⟨"open", "==", .bool true⟩], [⟨"name", "^=", .string "a"⟩]]
    let record (isOpen : Bool) (name : Json) : Json :=
      .object [("name", name), ("open", .bool isOpen)]
    let items := [record true (.string "a1"), record false (.bool true),
      record true (.string "a2"), record true (.string "a3")]
    let first := [record true (.string "a1"), record true (.string "a2")]
    let last := [record true (.string "a2"), record true (.string "a3")]
    p.apply rules items = .keeping first 3 ∧ p.apply rules first = .keeping first 2
      ∧ p.applyWindow rules ⟨1, 2⟩ items = .keeping last 3
      ∧ p.apply rules last = .keeping last 2
      ∧ ∃ left, (p.applyWindowJson rules ⟨3, 1⟩ (.array items)).left = .array left
        ∧ p.applyJson rules (.array left) = (Outcome.keeping left left.length).document := by
  intro p rules record items first last
  obtain ⟨hcollection, hdocument⟩ := filtering_again_changes_nothing p rules
  have hfirst : p.apply rules items = .keeping first 3 := by rfl
  have hlast : p.applyWindow rules ⟨1, 2⟩ items = .keeping last 3 := by rfl
  have hnone : (p.applyWindowJson rules ⟨3, 1⟩ (.array items)).answer = .ok ⟨0, 3⟩ := by rfl
  have hagain := (hcollection items ⟨2, 3⟩).1 (congrArg Outcome.answer hfirst)
  have hagain' := (hcollection items ⟨2, 3⟩).2 ⟨1, 2⟩ (congrArg Outcome.answer hlast)
  rw [hfirst] at hagain
  rw [hlast] at hagain'
  exact ⟨hfirst, hagain, hlast, hagain', (hdocument (.array items) ⟨0, 3⟩).2 ⟨3, 1⟩ hnone⟩

end Processor

end RuleFilter
