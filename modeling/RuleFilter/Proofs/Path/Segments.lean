import RuleFilter.Path

set_option autoImplicit false

/-! # The segments of a path

A path is cut at every dot, so no segment has a dot in it, and two paths with a dot between them
have the segments of the one and then those of the other. -/

namespace RuleFilter

/-- Texts are cut as the library cuts rows of anything. -/
theorem Text.splitAt_eq_splitOn (separator : Char) (cs : List Char) :
    Text.splitAt separator cs = cs.splitOn separator := by
  induction cs with
  | nil => rfl
  | cons c cs ih =>
      rw [splitAt, ih, List.splitOn_cons_eq_if_modifyHead]
      by_cases hc : c = separator
      · simp [hc]
      · cases hsplit : cs.splitOn separator with
        | nil => exact absurd hsplit (List.splitOn_ne_nil separator cs)
        | cons piece pieces => simp [hc]

/-- No piece has the separator in it. -/
theorem Text.not_mem_of_mem_splitAt {separator : Char} {cs piece : List Char}
    (h : piece ∈ Text.splitAt separator cs) : separator ∉ piece := by
  induction cs generalizing piece with
  | nil =>
      rw [splitAt, List.mem_singleton] at h
      simp [h]
  | cons c cs ih =>
      rw [splitAt] at h
      split at h
      · rcases List.mem_cons.1 h with rfl | h
        · exact List.not_mem_nil
        · exact ih h
      · next hc =>
          have hcons : ∀ tail : List Char, separator ∉ tail → separator ∉ c :: tail := by
            intro tail htail
            rw [List.mem_cons, not_or]
            exact ⟨fun heq => hc heq.symm, htail⟩
          split at h
          · next first pieces hsplit =>
              rw [hsplit] at ih
              rcases List.mem_cons.1 h with rfl | h
              · exact hcons first (ih List.mem_cons_self)
              · exact ih (List.mem_cons_of_mem _ h)
          · rw [List.mem_singleton] at h
            rw [h]
            exact hcons [] List.not_mem_nil

theorem Text.splitAt_ne_nil (separator : Char) (cs : List Char) :
    Text.splitAt separator cs ≠ [] := by
  rw [splitAt_eq_splitOn]
  exact List.splitOn_ne_nil separator cs

/-- A separator ends one piece and begins another, whatever stands before and after it. -/
theorem Text.splitAt_append_cons (separator : Char) (cs ds : List Char) :
    Text.splitAt separator (cs ++ separator :: ds)
      = Text.splitAt separator cs ++ Text.splitAt separator ds := by
  simp only [splitAt_eq_splitOn, List.splitOn_append_cons_self]

/-- No segment of a path has a dot in it. -/
theorem FieldPath.not_dot_mem_of_mem_segments {p : FieldPath} {segment : String}
    (h : segment ∈ p.segments) : '.' ∉ segment.toList := by
  rw [segments] at h
  split at h
  · exact absurd h List.not_mem_nil
  · rw [Text.split, List.mem_map] at h
    obtain ⟨piece, hpiece, rfl⟩ := h
    rw [String.toList_ofList]
    exact Text.not_mem_of_mem_splitAt hpiece

/-! ## Paths one after the other -/

namespace FieldPath

/-- A path that goes on with another. -/
def append (p q : FieldPath) : FieldPath := ⟨p.text ++ "." ++ q.text⟩

variable {p q : FieldPath}

theorem segments_of_ne_empty (h : p.text ≠ "") : p.segments = Text.split '.' p.text := by
  rw [segments, if_neg h]

theorem segments_ne_nil (h : p.text ≠ "") : p.segments ≠ [] := by
  rw [segments_of_ne_empty h, Text.split]
  simp [Text.splitAt_ne_nil]

/-- The segments of the one path and then those of the other, empty ones included. -/
theorem segments_append (hp : p.text ≠ "") (hq : q.text ≠ "") :
    (p.append q).segments = p.segments ++ q.segments := by
  have htext : (p.append q).text.toList = p.text.toList ++ '.' :: q.text.toList := by
    simp [append]
  have hne : (p.append q).text ≠ "" := by
    intro hempty
    rw [hempty] at htext
    simp at htext
  rw [segments_of_ne_empty hp, segments_of_ne_empty hq, segments_of_ne_empty hne]
  unfold Text.split
  rw [htext, Text.splitAt_append_cons, List.map_append]

end FieldPath

end RuleFilter
