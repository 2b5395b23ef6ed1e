import RuleFilter.Proofs.Processor.Places
import RuleFilter.Proofs.Processor.Selection
import RuleFilter.Proofs.Settings.Bounds

set_option autoImplicit false

/-! # Going through the matches page by page

A client that wants to see all matches asks for windows of one length, each behind the one before,
until it has come to the total that the pages report (`Processor.Paged`). One page shows the matches
from its offset on, as many as fit, and the next offset is where they end (`Shows.cons`); so all
pages of a run together show what there is from its first offset on (`Paged.shows`). -/

namespace RuleFilter

variable {α : Type}

namespace Processor

/-! ## Pages that show a list -/

/-- Pages of a given length show a list from an offset on. -/
structure Shows (pages : List (Outcome (List α))) (xs : List α) (offset length : Nat) : Prop where
  /-- One after the other they hold the rest of the list. -/
  joined : (pages.map Outcome.left).flatten = xs.drop offset
  /-- Each has its own part and reports the length of the whole list. -/
  part : ∀ k page, pages[k]? = some page →
    page = Outcome.keeping ((xs.drop (offset + k * length)).take length) xs.length
  /-- There are enough to come to the end. -/
  reaches_end : xs.length ≤ offset + pages.length * length

namespace Shows

variable {xs : List α} {offset length : Nat}

/-- A page that comes to the end of the list is enough. -/
theorem singleton (hend : xs.length ≤ offset + length) :
    Shows [.keeping ((xs.drop offset).take length) xs.length] xs offset length := by
  refine ⟨?_, ?_, ?_⟩
  · have htake : (xs.drop offset).take length = xs.drop offset := by
      refine List.take_of_length_le ?_
      rw [List.length_drop]
      omega
    simp [Outcome.keeping, htake]
  · intro k page hk
    cases k with
    | zero =>
        cases hk
        rw [Nat.zero_mul, Nat.add_zero]
    | succ k => cases hk
  · rw [List.length_singleton, Nat.one_mul]
    exact hend

/-- A page is put in front of pages that go on where it ends. -/
theorem cons {pages : List (Outcome (List α))} (h : Shows pages xs (offset + length) length) :
    Shows (.keeping ((xs.drop offset).take length) xs.length :: pages) xs offset length := by
  refine ⟨?_, ?_, ?_⟩
  · rw [List.map_cons, List.flatten_cons, h.joined, ← List.drop_drop]
    exact List.take_append_drop length (xs.drop offset)
  · intro k page hk
    cases k with
    | zero =>
        cases hk
        rw [Nat.zero_mul, Nat.add_zero]
    | succ k =>
        have hoffset : offset + (k + 1) * length = offset + length + k * length := by
          rw [Nat.succ_mul]
          omega
        rw [hoffset]
        exact h.part k page hk
  · have hend := h.reaches_end
    rw [List.length_cons, Nat.succ_mul]
    omega

end Shows

/-! ## A client's run -/

section

variable [Candidate α]

/-- The pages that a client is given who starts at an offset: it asks for a page, moves on by its
length, and stops when that brings it to the total that the page reports. -/
inductive Paged (p : Processor) (rules : RuleSet) (length : UInt64) (items : List α) :
    UInt64 → List (Outcome (List α)) → Prop
  | last {offset : UInt64} {selection : Selection}
      (hanswer : (p.applyWindow rules ⟨offset, length⟩ items).answer = .ok selection)
      (hend : selection.total ≤ (offset + length).toNat) :
      Paged p rules length items offset [p.applyWindow rules ⟨offset, length⟩ items]
  | next {offset : UInt64} {selection : Selection} {pages : List (Outcome (List α))}
      (hanswer : (p.applyWindow rules ⟨offset, length⟩ items).answer = .ok selection)
      (hmore : (offset + length).toNat < selection.total)
      (hrest : Paged p rules length items (offset + length) pages) :
      Paged p rules length items offset (p.applyWindow rules ⟨offset, length⟩ items :: pages)

variable {p : Processor} {rules : RuleSet} {m : Matcher} {items : List α} {length : UInt64}

/-- Where the rules compile and every element has an answer, a page shows its part of the
matches. -/
theorem applyWindow_eq_of_decides (hm : p.compile rules = .ok m)
    (hsize : items.length < Nat.pow 2 63) (hdecides : m.Decides items) (hpos : 1 ≤ length)
    (hmax : length ≤ p.settings.maxResults) (offset : UInt64) :
    p.applyWindow rules ⟨offset, length⟩ items
      = .keeping (((m.matching items).drop offset.toNat).take length.toNat)
          (m.matching items).length := by
  rw [applyWindow_of_valid hpos hmax, keep_eq_of_decides hm hsize hdecides]

/-- No page is so long that the offset behind it is none. -/
theorem toNat_add_length (hsize : items.length < Nat.pow 2 63)
    (hmax : length ≤ p.settings.maxResults) {offset : UInt64}
    (hoffset : offset.toNat ≤ (m.matching items).length) :
    (offset + length).toNat = offset.toNat + length.toNat := by
  have hlimit : p.settings.maxResults.toNat ≤ 2147483647 :=
    UInt64.le_iff_toNat_le.1 (Settings.maxResults_le_of_fault? p.valid)
  have hlength := UInt64.le_iff_toNat_le.1 hmax
  have hmatching := m.length_matching_le items
  have hword : Nat.pow 2 63 = 2 ^ 63 := rfl
  rw [UInt64.toNat_add, Nat.mod_eq_of_lt]
  omega

/-- **What a run shows.** From an offset that is not behind the matches on, all of them. -/
theorem Paged.shows (hm : p.compile rules = .ok m) (hsize : items.length < Nat.pow 2 63)
    (hdecides : m.Decides items) (hpos : 1 ≤ length) (hmax : length ≤ p.settings.maxResults)
    {offset : UInt64} {pages : List (Outcome (List α))}
    (h : Paged p rules length items offset pages)
    (hoffset : offset.toNat ≤ (m.matching items).length) :
    Shows pages (m.matching items) offset.toNat length.toNat := by
  have hpage := applyWindow_eq_of_decides hm hsize hdecides hpos hmax
  -- induction on the run: a page shows its part, and the pages behind it the rest
  induction h with
  | @last offset selection hanswer hend =>
      rw [hpage] at hanswer ⊢
      cases hanswer
      rw [toNat_add_length hsize hmax hoffset] at hend
      exact .singleton hend
  | @next offset selection pages hanswer hmore _ ih =>
      rw [hpage] at hanswer ⊢
      cases hanswer
      have hrest := ih (Nat.le_of_lt hmore)
      rw [toNat_add_length hsize hmax hoffset] at hrest
      exact hrest.cons

/-- A client that starts at an offset that is not behind the matches comes to the end. -/
theorem exists_paged (hm : p.compile rules = .ok m) (hsize : items.length < Nat.pow 2 63)
    (hdecides : m.Decides items) (hpos : 1 ≤ length) (hmax : length ≤ p.settings.maxResults)
    (offset : UInt64) (hoffset : offset.toNat ≤ (m.matching items).length) :
    ∃ pages, Paged p rules length items offset pages := by
  have hadvance := UInt64.le_iff_toNat_le.1 hpos
  have hbehind := toNat_add_length hsize hmax hoffset
  have hanswer := congrArg Outcome.answer
    (applyWindow_eq_of_decides hm hsize hdecides hpos hmax offset)
  by_cases hmore : (offset + length).toNat < (m.matching items).length
  · -- the next offset is not behind the matches, and there are fewer left from it on
    obtain ⟨pages, hpages⟩ :=
      exists_paged hm hsize hdecides hpos hmax (offset + length) (Nat.le_of_lt hmore)
    exact ⟨_, .next hanswer hmore hpages⟩
  · exact ⟨_, .last hanswer (Nat.le_of_not_lt hmore)⟩
termination_by (m.matching items).length - offset.toNat
decreasing_by
  rw [UInt64.toNat_one] at hadvance
  omega

/-! ## Places -/

theorem decides_placed (hdecides : m.Decides items) : m.Decides (placed items) := by
  intro x hx
  exact hdecides x.element (List.mem_of_getElem? (getElem?_of_mem_placed hx))

/-- The places of the matches, each once and in order. -/
theorem places_of_matching (m : Matcher) (items : List α) :
    ((m.matching (placed items)).map Placed.place).Pairwise (· < ·)
      ∧ ∀ i, i ∈ (m.matching (placed items)).map Placed.place
          ↔ ∃ x, items[i]? = some x ∧ m.accepts (Candidate.value x) = .ok true := by
  constructor
  · have hsub : ((m.matching (placed items)).map Placed.place).Sublist
        ((placed items).map Placed.place) := List.filter_sublist.map _
    rw [map_place_placed] at hsub
    exact List.pairwise_lt_range.sublist hsub
  · intro i
    simp only [Matcher.matching, List.mem_map, List.mem_filter]
    constructor
    · rintro ⟨x, ⟨hx, hmatch⟩, rfl⟩
      exact ⟨x.element, getElem?_of_mem_placed hx, m.isMatch_eq_true_iff.1 hmatch⟩
    · rintro ⟨x, hx, hmatch⟩
      exact ⟨⟨i, x⟩, ⟨mem_placed_of_getElem? hx, m.isMatch_eq_true_iff.2 hmatch⟩, rfl⟩

/-- **Paging loses and repeats nothing.** Where the rules compile and every element has an answer, a
client that asks for pages of a length that is allowed comes to an end. All its pages report the
same total, each holds as many matches as are left for it, up to its length, and together they are
the matches in order, so that the place of each match turns up once. What comes behind is empty,
and the longest first page is what applying the rules leaves. -/
theorem paging_shows_every_match_once {items : List α} (hm : p.compile rules = .ok m)
    (hsize : items.length < Nat.pow 2 63) (hdecides : m.Decides items) (hpos : 1 ≤ length)
    (hmax : length ≤ p.settings.maxResults) :
    let total := (m.matching items).length
    (∃ pages, Paged p rules length items 0 pages)
    ∧ (∀ pages, Paged p rules length items 0 pages →
        (pages.map Outcome.left).flatten = m.matching items
        ∧ total ≤ pages.length * length.toNat
        ∧ ∀ k page, pages[k]? = some page →
            page.left.length = min length.toNat (total - k * length.toNat)
            ∧ page.answer = .ok ⟨page.left.length, total⟩)
    ∧ (∀ pages, Paged p rules length (placed items) 0 pages →
        let places := (pages.map Outcome.left).flatten.map Placed.place
        places.Pairwise (· < ·)
        ∧ ∀ i, i ∈ places ↔ ∃ x, items[i]? = some x ∧ m.accepts (Candidate.value x) = .ok true)
    ∧ (∀ offset : UInt64, total ≤ offset.toNat →
        p.applyWindow rules ⟨offset, length⟩ items = .keeping [] total)
    ∧ p.applyWindow rules ⟨0, p.settings.maxResults⟩ items = p.apply rules items := by
  intro total
  have hfirst (xs : List α) : (0 : UInt64).toNat ≤ xs.length := Nat.zero_le _
  refine ⟨exists_paged hm hsize hdecides hpos hmax 0 (hfirst _), fun pages hpages => ?_,
    fun pages hpages => ?_, fun offset hoffset => ?_, ?_⟩
  · have hshows := hpages.shows hm hsize hdecides hpos hmax (hfirst _)
    rw [UInt64.toNat_zero] at hshows
    refine ⟨hshows.joined, ?_, fun k page hk => ?_⟩
    · have hend := hshows.reaches_end
      rwa [Nat.zero_add] at hend
    · rw [hshows.part k page hk, Nat.zero_add]
      refine ⟨?_, rfl⟩
      rw [Outcome.keeping, List.length_take, List.length_drop]
  · have hsize' : (placed items).length < Nat.pow 2 63 := by
      rwa [placed, List.length_map, List.length_zipIdx]
    have hshows := hpages.shows hm hsize' (decides_placed hdecides) hpos hmax (Nat.zero_le _)
    have hjoined : (pages.map Outcome.left).flatten = m.matching (placed items) := hshows.joined
    rw [hjoined]
    exact places_of_matching m items
  · rw [applyWindow_eq_of_decides hm hsize hdecides hpos hmax, List.drop_of_length_le hoffset,
      List.take_nil]
  · have hallowed : 1 ≤ p.settings.maxResults :=
      UInt64.le_iff_toNat_le.2 (Nat.le_trans (UInt64.le_iff_toNat_le.1 hpos)
        (UInt64.le_iff_toNat_le.1 hmax))
    rw [applyWindow_of_valid hallowed (UInt64.le_refl _), apply]

end

/-- Three of four texts match, one of them twice, and a page has room for two. -/
theorem paging_shows_every_match_once_of_texts :
    let p : Processor := ⟨⟨none, "filter", 3, 9⟩, by decide⟩
    let rules : RuleSet := [[⟨"", "^=", .string "a"⟩]]
    let items := ["a1", "b", "a2", "a1"]
    let pages := [Outcome.keeping ["a1", "a2"] 3, .keeping ["a1"] 3]
    Paged p rules 2 items 0 pages
      ∧ (pages.map Outcome.left).flatten = ["a1", "a2", "a1"]
      ∧ p.applyWindow rules ⟨4, 2⟩ items = .keeping [] 3
      ∧ p.applyWindow rules ⟨0, 9⟩ items = p.apply rules items := by
  intro p rules items pages
  have hm : p.compile rules = .ok ⟨[[⟨⟨""⟩, .text .startsWith "a"⟩]], none⟩ := by rfl
  have hdecides : Matcher.Decides ⟨[[⟨⟨""⟩, .text .startsWith "a"⟩]], none⟩ items := by
    intro x hx
    simp only [items, List.mem_cons, List.not_mem_nil, or_false] at hx
    rcases hx with rfl | rfl | rfl | rfl <;> exact ⟨_, rfl⟩
  have hlength : (1 : UInt64) ≤ 2 := by decide
  obtain ⟨-, hjoined, -, hbehind, hwhole⟩ := paging_shows_every_match_once hm (by decide) hdecides
    hlength (by decide)
  have hfirst : (p.applyWindow rules ⟨0, 2⟩ items).answer = .ok ⟨2, 3⟩ := by rfl
  have hlast : (p.applyWindow rules ⟨0 + 2, 2⟩ items).answer = .ok ⟨1, 3⟩ := by rfl
  have hpaged : Paged p rules 2 items 0 pages :=
    .next hfirst (by decide) (.last hlast (by decide))
  exact ⟨hpaged, (hjoined pages hpaged).1, hbehind 4 (by decide), hwhole⟩

end Processor

end RuleFilter
