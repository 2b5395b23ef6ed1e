import RuleFilter.Proofs.Path.Segments

set_option autoImplicit false

/-! # Joining segments

Cutting a path at its dots loses nothing: joining the segments with dots gives the path back
(`FieldPath.ofSegments_segments`). The other way round every list of texts without dots is the
segments of the path it is joined to, with one exception. The empty text alone would be the one
segment of the empty path, which selects the element itself and has none
(`FieldPath.segments_ofSegments_iff`). A path has an empty segment where there is nothing in front
of a dot, behind one or between two (`FieldPath.empty_mem_segments_iff`). -/

namespace RuleFilter

/-! ## Cutting texts -/

namespace Text

variable {separator : Char} {pieces : List String}

theorem map_toList_split (separator : Char) (s : String) :
    (split separator s).map String.toList = s.toList.splitOn separator := by
  simp [split, splitAt_eq_splitOn]

/-- Joining the pieces gives the text back. -/
theorem intercalate_split (separator : Char) (s : String) :
    (String.singleton separator).intercalate (split separator s) = s := by
  rw [← String.toList_inj, String.toList_intercalate, map_toList_split, String.toList_singleton,
    List.intercalate_splitOn]

/-- Pieces without the separator are found again in the text that they are joined to. -/
theorem split_intercalate (hne : pieces ≠ []) (h : ∀ piece ∈ pieces, separator ∉ piece.toList) :
    split separator ((String.singleton separator).intercalate pieces) = pieces := by
  have hpieces : ∀ cs ∈ pieces.map String.toList, separator ∉ cs := by simpa using h
  rw [← List.map_inj_right fun s t => String.toList_inj.1, map_toList_split,
    String.toList_intercalate, String.toList_singleton,
    List.splitOn_intercalate separator hpieces (by simpa using hne)]

/-- There is one more piece than separators. -/
theorem length_split (separator : Char) (s : String) :
    (split separator s).length = s.toList.count separator + 1 := by
  rw [split, splitAt_eq_splitOn, List.length_map]
  induction s.toList with
  | nil => rfl
  | cons c cs ih =>
      rw [List.splitOn_cons_eq_if_modifyHead]
      by_cases hc : c = separator <;> simp [hc, ih]

end Text

/-! ## Paths of segments -/

namespace FieldPath

variable {p : FieldPath} {segments : List String}

/-- The path that has dots between the segments. -/
def ofSegments (segments : List String) : FieldPath := ⟨".".intercalate segments⟩

theorem segments_eq_nil_iff : p.segments = [] ↔ p.text = "" := by
  constructor
  · intro h
    by_cases htext : p.text = ""
    · exact htext
    · exact absurd h (segments_ne_nil htext)
  · intro h
    rw [FieldPath.segments, if_pos h]

/-- Joining the segments gives the path back, the empty one as well. -/
theorem ofSegments_segments (p : FieldPath) : ofSegments p.segments = p := by
  by_cases htext : p.text = ""
  · rw [segments_eq_nil_iff.2 htext, ofSegments, String.intercalate_nil, ← htext]
  · rw [segments_of_ne_empty htext, ofSegments]
    exact congrArg FieldPath.mk (Text.intercalate_split '.' p.text)

theorem segments_injective : Function.Injective FieldPath.segments :=
  Function.LeftInverse.injective ofSegments_segments

/-- Only the empty text is joined from nothing or from the empty text. -/
theorem intercalate_eq_empty_iff :
    ".".intercalate segments = "" ↔ segments = [] ∨ segments = [""] := by
  constructor
  · intro h
    match segments with
    | [] => exact .inl rfl
    | [segment] =>
        rw [String.intercalate_singleton] at h
        exact .inr (congrArg (· :: []) h)
    | first :: second :: rest =>
        rw [String.intercalate_cons_cons] at h
        simp at h
  · rintro (rfl | rfl) <;> simp

/-- **All texts without dots are segments of a path, unless there is one and it is empty.** -/
theorem segments_ofSegments_iff :
    (ofSegments segments).segments = segments
      ↔ segments ≠ [""] ∧ ∀ segment ∈ segments, '.' ∉ segment.toList := by
  constructor
  · intro h
    refine ⟨?_, ?_⟩
    · rintro rfl
      cases h
    · rw [← h]
      exact fun segment => not_dot_mem_of_mem_segments
  · rintro ⟨hempty, hdots⟩
    by_cases hnil : segments = []
    · rw [hnil]
      rfl
    · have htext : (ofSegments segments).text ≠ "" := by
        rw [ofSegments, Ne, intercalate_eq_empty_iff]
        simp [hnil, hempty]
      rw [segments_of_ne_empty htext]
      exact Text.split_intercalate hnil hdots

theorem length_segments (h : p.text ≠ "") :
    p.segments.length = p.text.toList.count '.' + 1 := by
  rw [segments_of_ne_empty h, Text.length_split]

/-! ## Empty segments -/

/-- There is nothing in front of a dot, behind one, or between two. -/
def HasGap (p : FieldPath) : Prop :=
  (∃ rest, p.text = "." ++ rest) ∨ (∃ rest, p.text = rest ++ ".")
    ∨ ∃ before behind, p.text = before ++ ".." ++ behind

/-- **An empty segment is a gap between dots, or at an end.** -/
theorem empty_mem_segments_iff (h : p.text ≠ "") : "" ∈ p.segments ↔ p.HasGap := by
  constructor
  · intro hmem
    obtain ⟨before, behind, hsegments⟩ := List.append_of_mem hmem
    have htext : p.text = ".".intercalate (before ++ "" :: behind) := by
      rw [← hsegments]
      exact congrArg FieldPath.text (ofSegments_segments p).symm
    cases before with
    | nil =>
        cases behind with
        | nil => exact absurd htext (by simpa using h)
        | cons segment behind =>
            rw [List.nil_append, String.intercalate_cons_cons, String.empty_append] at htext
            exact .inl ⟨_, htext⟩
    | cons first before =>
        rw [String.intercalate_append_of_ne_nil (by simp) (by simp)] at htext
        cases behind with
        | nil =>
            rw [String.intercalate_singleton, String.append_empty] at htext
            exact .inr (.inl ⟨_, htext⟩)
        | cons segment behind =>
            rw [String.intercalate_cons_cons, String.empty_append] at htext
            refine .inr (.inr ⟨".".intercalate (first :: before),
              ".".intercalate (segment :: behind), ?_⟩)
            rw [htext, ← String.toList_inj]
            simp
  · intro hgap
    rw [segments_of_ne_empty h]
    rcases hgap with ⟨rest, htext⟩ | ⟨rest, htext⟩ | ⟨before, behind, htext⟩
    · rw [htext]
      simp [Text.split, Text.splitAt]
    · rw [htext]
      simp [Text.split, Text.splitAt, Text.splitAt_append_cons]
    · rw [htext]
      simp [Text.split, Text.splitAt, Text.splitAt_append_cons]

/-! ## The whole path -/

/-- **A path is its segments with dots between them.** The empty path alone has no segments. Those
of any path have no dots in them and give the path back when they are joined with dots; there is one
more than dots, and one is empty where there is a gap. So different paths have different segments,
all texts without dots are segments of the path they are joined to, a single empty one excepted, and
a dot between two paths puts their segments one after the other. -/
theorem path_is_its_segments_joined :
    (∀ p : FieldPath,
      (p.segments = [] ↔ p.text = "") ∧ (p.isRoot = true ↔ p.text = "")
      ∧ ".".intercalate p.segments = p.text
      ∧ (∀ segment ∈ p.segments, '.' ∉ segment.toList)
      ∧ (p.text ≠ "" → p.segments.length = p.text.toList.count '.' + 1
        ∧ ("" ∈ p.segments ↔ p.HasGap)))
    ∧ (∀ p q : FieldPath, p.segments = q.segments → p.text = q.text)
    ∧ (∀ segments : List String, (ofSegments segments).segments = segments
        ↔ segments ≠ [""] ∧ ∀ segment ∈ segments, '.' ∉ segment.toList)
    ∧ ∀ p q : FieldPath, p.text ≠ "" → q.text ≠ "" →
        (p.append q).segments = p.segments ++ q.segments := by
  refine ⟨fun p => ⟨segments_eq_nil_iff, ?_, ?_, fun _ => not_dot_mem_of_mem_segments,
    fun h => ⟨length_segments h, empty_mem_segments_iff h⟩⟩, ?_,
    fun _ => segments_ofSegments_iff, fun p q => segments_append⟩
  · rw [isRoot, List.isEmpty_iff, segments_eq_nil_iff]
  · exact congrArg FieldPath.text (ofSegments_segments p)
  · intro p q h
    exact congrArg FieldPath.text (segments_injective h)

/-- Two dots side by side, one at the end, and a lone dot. -/
theorem path_is_its_segments_joined_around_gaps :
    let p : FieldPath := ⟨"a..b."⟩
    let q : FieldPath := ⟨"."⟩
    p.text ≠ "" ∧ q.text ≠ "" ∧ p.HasGap ∧ "" ∈ p.segments
      ∧ p.segments.length = 4 ∧ q.segments = ["", ""] ∧ p.segments ≠ q.segments
      ∧ (p.append q).segments = p.segments ++ q.segments := by
  intro p q
  obtain ⟨hpath, hinjective, hjoined, happend⟩ := path_is_its_segments_joined
  have hp : p.text ≠ "" := by decide
  have hq : q.text ≠ "" := by decide
  obtain ⟨-, -, -, -, hcut⟩ := hpath p
  obtain ⟨hlength, hempty⟩ := hcut hp
  have hgap : p.HasGap := .inr (.inr ⟨"a", "b.", by decide⟩)
  refine ⟨hp, hq, hgap, hempty.2 hgap, hlength.trans (by decide), ?_, fun heq => ?_,
    happend p q hp hq⟩
  · exact (hjoined ["", ""]).2 ⟨by decide, by decide⟩
  · exact absurd (hinjective p q heq) (by decide)

end FieldPath

end RuleFilter
