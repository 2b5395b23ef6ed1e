import RuleFilter.Proofs.Matcher.Scan

set_option autoImplicit false

/-! # What a window leaves

Where every element has an answer, what is left of a collection is said by the list of its
matches: a window drops as many as it passes over and takes as many as it is long (`retain_eq`).
The end of a window stops at the largest offset, which no match of a collection that fits in
memory reaches. -/

namespace RuleFilter

variable {α : Type}

/-- The outcome of keeping some elements where `total` match. -/
def Outcome.keeping (kept : List α) (total : Nat) : Outcome (List α) :=
  ⟨kept, .ok ⟨kept.length, total⟩⟩

/-- The outcome for the document that holds a collection. -/
def Outcome.document (o : Outcome (List Json)) : Outcome Json := ⟨.array o.left, o.answer⟩

namespace Processor

/-- Keeping by ordinals among the marked elements is taking and dropping among them. -/
theorem retain_eq (start stop : Nat) (mark : α → Bool) (xs : List α) (ordinal : Nat) :
    retain start stop ordinal (xs.map mark) xs
      = ((xs.filter mark).take (stop - ordinal)).drop (start - ordinal) := by
  induction xs generalizing ordinal with
  | nil => simp [retain]
  | cons x xs ih =>
      rw [List.map_cons]
      cases hx : mark x with
      | false =>
          rw [retain, ih, List.filter_cons_of_neg (by simp [hx])]
      | true =>
          rw [retain, ih, List.filter_cons_of_pos hx]
          -- the element is inside the window, or past its end, or before its start
          split
          · next hin =>
              have hstop : stop - ordinal = stop - (ordinal + 1) + 1 := by omega
              have hstart : start - ordinal = 0 ∧ start - (ordinal + 1) = 0 := by omega
              rw [hstop, hstart.1, hstart.2, List.take_succ_cons]
              rfl
          · next hout =>
              rcases Nat.lt_or_ge ordinal stop with hlt | hge
              · have hstop : stop - ordinal = stop - (ordinal + 1) + 1 := by omega
                have hstart : start - ordinal = start - (ordinal + 1) + 1 := by omega
                rw [hstop, hstart, List.take_succ_cons, List.drop_succ_cons]
              · have hstop : stop - ordinal = 0 ∧ stop - (ordinal + 1) = 0 := by omega
                rw [hstop.1, hstop.2, List.take_zero, List.take_zero, List.drop_nil, List.drop_nil]

/-- The end of a window cuts nothing off a list that is not beyond all offsets. -/
theorem drop_take_windowEnd (w : Window) (xs : List α) (h : xs.length ≤ lastOffset) :
    (xs.take (windowEnd w)).drop w.offset.toNat
      = (xs.drop w.offset.toNat).take w.length.toNat := by
  have hend : xs.take (windowEnd w) = xs.take (w.offset.toNat + w.length.toNat) := by
    rw [windowEnd, Nat.min_def]
    split
    · rfl
    · rw [List.take_of_length_le h, List.take_of_length_le (by omega)]
  rw [hend, List.drop_take, Nat.add_sub_cancel_left]

section

variable [Candidate α] {p : Processor} {rules : RuleSet} {m : Matcher}

/-- What is kept are the matches up to the end of the window, from its offset on. -/
theorem keep_of_decides (hm : p.compile rules = .ok m) {items : List α}
    (hdecides : m.Decides items) (w : Window) :
    p.keep rules w items
      = .keeping (((m.matching items).take (windowEnd w)).drop w.offset.toNat)
          (m.matching items).length := by
  have hscan : (do (← p.compile rules).scan (items.map Candidate.value))
      = .ok (items.map m.isMatch) := by
    rw [hm]
    exact Matcher.scan_eq_of_decides hdecides
  rw [keep, hscan]
  simp only [retain_eq, Matcher.count_true_map_isMatch, Nat.sub_zero]
  rfl

/-- Nothing but matches is left. -/
theorem left_keep_subset_matching (hm : p.compile rules = .ok m) {items : List α}
    (hdecides : m.Decides items) (w : Window) : (p.keep rules w items).left ⊆ m.matching items := by
  rw [keep_of_decides hm hdecides]
  exact List.Subset.trans (List.drop_subset _ _) (List.take_subset _ _)

/-- No more is left than the window is long. -/
theorem length_left_keep_le (hm : p.compile rules = .ok m) {items : List α}
    (hdecides : m.Decides items) (w : Window) :
    (p.keep rules w items).left.length ≤ w.length.toNat := by
  have hend : windowEnd w ≤ w.offset.toNat + w.length.toNat := Nat.min_le_left _ _
  rw [keep_of_decides hm hdecides, Outcome.keeping, List.length_drop, List.length_take]
  omega

/-- A window keeps its part of the matches. -/
theorem keep_eq_of_decides (hm : p.compile rules = .ok m) {items : List α}
    (hsize : items.length < Nat.pow 2 63) (hdecides : m.Decides items) (w : Window) :
    p.keep rules w items
      = .keeping (((m.matching items).drop w.offset.toNat).take w.length.toNat)
          (m.matching items).length := by
  have hlast : (m.matching items).length ≤ lastOffset := by
    have := m.length_matching_le items
    have : Nat.pow 2 63 ≤ lastOffset := by decide
    omega
  rw [keep_of_decides hm hdecides, drop_take_windowEnd w (m.matching items) hlast]

/-- Where there are no more matches than may be kept, all of them are. -/
theorem apply_of_fits (hm : p.compile rules = .ok m) {items : List α} (hdecides : m.Decides items)
    (hfits : (m.matching items).length ≤ p.settings.maxResults.toNat) :
    p.apply rules items = .keeping (m.matching items) (m.matching items).length := by
  have hend : (m.matching items).length ≤ windowEnd ⟨0, p.settings.maxResults⟩ := by
    have hword := p.settings.maxResults.toNat_lt
    have hlast : lastOffset = 2 ^ 64 - 1 := rfl
    show (m.matching items).length ≤ min (0 + p.settings.maxResults.toNat) lastOffset
    omega
  rw [apply, keep_of_decides hm hdecides, List.take_of_length_le hend]
  rfl

theorem keep_of_compile_error {e : Error} (h : p.compile rules = .error e) (w : Window)
    (items : List α) : p.keep rules w items = ⟨items, .error e⟩ := by
  rw [keep, h]
  rfl

theorem keep_of_scan_error (hm : p.compile rules = .ok m) {items : List α} {e : Error}
    (h : m.scan (items.map Candidate.value) = .error e) (w : Window) :
    p.keep rules w items = ⟨items, .error e⟩ := by
  have hscan : (do (← p.compile rules).scan (items.map Candidate.value)) = .error e := by
    rw [hm]
    exact h
  rw [keep, hscan]

/-- A call that succeeds has compiled its rules and met an answer for every element. -/
theorem exists_decides_of_keep {w : Window} {items : List α} {selection : Selection}
    (h : (p.keep rules w items).answer = .ok selection) :
    ∃ m, p.compile rules = .ok m ∧ m.Decides items
      ∧ selection.total = (m.matching items).length := by
  cases hm : p.compile rules with
  | error e =>
      rw [keep_of_compile_error hm] at h
      cases h
  | ok m =>
      cases hscan : m.scan (items.map Candidate.value) with
      | error e =>
          rw [keep_of_scan_error hm hscan] at h
          cases h
      | ok mask =>
          have hdecides := Matcher.decides_of_scan hscan
          rw [keep_of_decides hm hdecides] at h
          cases h
          exact ⟨m, rfl, hdecides, rfl⟩

theorem applyWindow_of_valid {w : Window} (hpos : 1 ≤ w.length)
    (hmax : w.length ≤ p.settings.maxResults) (items : List α) :
    p.applyWindow rules w items = p.keep rules w items := by
  rw [applyWindow, if_neg]
  rintro (h | h)
  · rw [h] at hpos
    exact absurd hpos (by decide)
  · exact absurd hmax (UInt64.not_le.2 h)

/-- The first matches are a window at the start, as long as the settings allow. -/
theorem apply_eq_of_decides (hm : p.compile rules = .ok m) {items : List α}
    (hsize : items.length < Nat.pow 2 63) (hdecides : m.Decides items) :
    p.apply rules items
      = .keeping ((m.matching items).take p.settings.maxResults.toNat)
          (m.matching items).length := by
  rw [apply, keep_eq_of_decides hm hsize hdecides]
  rfl

end

/-- **What filtering leaves.** Where the rules compile and every element has an answer, the first
matches are kept, as many as the settings allow, and a window keeps the matches behind its offset,
as many as it is long. What is kept and how many match is reported, and it is what counting finds.
For a document this is said of its items. -/
theorem keeps_window_of_matches {p : Processor} {rules : RuleSet} {m : Matcher}
    (hm : p.compile rules = .ok m) :
    (∀ {α : Type} [Candidate α] (items : List α), items.length < Nat.pow 2 63 → m.Decides items →
      let matching := m.matching items
      m.count (items.map Candidate.value) = .ok matching.length
      ∧ p.apply rules items
          = .keeping (matching.take p.settings.maxResults.toNat) matching.length
      ∧ ∀ w : Window, 1 ≤ w.length → w.length ≤ p.settings.maxResults →
          p.applyWindow rules w items
            = .keeping ((matching.drop w.offset.toNat).take w.length.toNat) matching.length)
    ∧ ∀ items : List Json, items.length < Nat.pow 2 63 → m.Decides items →
      let matching := m.matching items
      m.count (items.map Candidate.value) = .ok matching.length
      ∧ p.applyJson rules (.array items)
          = (Outcome.keeping (matching.take p.settings.maxResults.toNat) matching.length).document
      ∧ ∀ w : Window, 1 ≤ w.length → w.length ≤ p.settings.maxResults →
          p.applyWindowJson rules w (.array items)
            = (Outcome.keeping ((matching.drop w.offset.toNat).take w.length.toNat)
                matching.length).document := by
  constructor
  · intro α _ items hsize hdecides
    refine ⟨Matcher.count_eq_of_decides hdecides, apply_eq_of_decides hm hsize hdecides, ?_⟩
    intro w hpos hmax
    rw [applyWindow_of_valid hpos hmax, keep_eq_of_decides hm hsize hdecides]
  · intro items hsize hdecides
    refine ⟨Matcher.count_eq_of_decides hdecides, ?_, ?_⟩
    · rw [applyJson, onItems, apply_eq_of_decides hm hsize hdecides]
      rfl
    · intro w hpos hmax
      rw [applyWindowJson, onItems, applyWindow_of_valid hpos hmax,
        keep_eq_of_decides hm hsize hdecides]
      rfl

/-- Three of four texts match and two may be kept; the last window ends beyond all offsets. -/
theorem keeps_window_of_three_matches :
    let p : Processor := ⟨⟨none, "filter", 3, 2⟩, by decide⟩
    let rules : RuleSet := [[⟨"", "^=", .string "a"⟩]]
    let items := ["a1", "b", "a2", "a3"]
    p.apply rules items = .keeping ["a1", "a2"] 3
      ∧ p.applyWindow rules ⟨1, 2⟩ items = .keeping ["a2", "a3"] 3
      ∧ p.applyWindow rules ⟨.ofNat lastOffset, 2⟩ items = .keeping [] 3 := by
  intro p rules items
  have hm : p.compile rules = .ok ⟨[[⟨⟨""⟩, .text .startsWith "a"⟩]], none⟩ := by rfl
  have hdecides : Matcher.Decides ⟨[[⟨⟨""⟩, .text .startsWith "a"⟩]], none⟩ items := by
    intro x hx
    simp only [items, List.mem_cons, List.not_mem_nil, or_false] at hx
    rcases hx with rfl | rfl | rfl | rfl <;> exact ⟨_, rfl⟩
  obtain ⟨_, happly, hwindow⟩ := (keeps_window_of_matches hm).1 items (by decide) hdecides
  exact ⟨happly, hwindow ⟨1, 2⟩ (by decide) (by decide),
    hwindow ⟨.ofNat lastOffset, 2⟩ (by decide) (by decide)⟩

end Processor

end RuleFilter
