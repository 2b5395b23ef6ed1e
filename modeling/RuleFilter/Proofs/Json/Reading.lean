import RuleFilter.Proofs.Json.Decoding
import RuleFilter.Proofs.Json.WrittenNumber

set_option autoImplicit false

/-! # Texts of the grammar are spelled

The grammar says of each rule which characters it leaves, and the readers are led along by the same
characters: blanks are skipped, an item or a key is found where the grammar puts it, and a numeral
is stopped by whatever may stand behind it. So a text that the grammar has for a document is one
that the readers take for it (`Written.IsText.spells`), as soon as the numbers of the document are
those that are read for its numerals. What readers make of such a text is known from there. -/

namespace RuleFilter.Json

/-! ## Blanks -/

theorem isBlank_iff {c : Char} : isBlank c = true ↔ c ∈ [' ', '\t', '\n', '\r'] := by
  simp only [isBlank, Bool.or_eq_true, decide_eq_true_eq, List.mem_cons, List.not_mem_nil, or_false]
  tauto

theorem skipBlanks_of_gap {cs rest : List Char} (h : Gap cs rest) :
    skipBlanks cs = skipBlanks rest := by
  induction h with
  | none => rfl
  | @blank c cs rest hc _ ih =>
      rw [← ih, skipBlanks, List.dropWhile_cons_of_pos (isBlank_iff.2 hc)]
      rfl

theorem skipBlanks_of_gap_cons {cs rest : List Char} {c : Char} (h : Gap cs (c :: rest))
    (hc : isBlank c = false) : skipBlanks cs = c :: rest :=
  (skipBlanks_of_gap h).trans (skipBlanks_cons hc rest)

theorem stops_of_gap_nil {cs : List Char} (h : Gap cs []) : Stops cs := by
  cases h with
  | none => exact fun _ h => nomatch h
  | blank hc =>
      rintro _ ⟨⟩
      simp only [List.mem_cons, List.not_mem_nil, or_false] at hc
      rcases hc with rfl | rfl | rfl | rfl <;> decide

theorem readColon_of_gap {cs after : List Char} (h : Gap cs (':' :: after)) :
    readColon cs = .ok after := by
  rw [readColon, skipBlanks_of_gap_cons h rfl]
  rfl

/-! ## What starts a value and what stops it -/

theorem WrittenNumber.startsValue_chars (n : WrittenNumber) (rest : List Char) :
    StartsValue (n.chars ++ rest) := by
  have hread : readParts (n.chars ++ []) = .ok (n.parts, []) :=
    n.readParts_chars fun _ h => nomatch h
  rw [List.append_nil] at hread
  obtain ⟨c, after, hcs, hc⟩ := exists_cons_of_readParts hread
  rw [hcs]
  exact startsValue_of_numeral hc _

theorem startsValue_of_writes {d : Written} {cs rest : List Char} (h : Writes d cs rest) :
    StartsValue cs := by
  cases h with
  | number => exact WrittenNumber.startsValue_chars _ _
  | _ => exact ⟨_, _, rfl, rfl, by decide⟩

theorem stops_of_writesItems {items : List Written} {cs rest : List Char}
    (h : WritesItems items cs rest) : Stops cs := by
  cases h with
  | close h => exact stops_of_skipBlanks (skipBlanks_of_gap_cons h rfl) (.inr (.inl rfl))
  | comma h => exact stops_of_skipBlanks (skipBlanks_of_gap_cons h rfl) (.inl rfl)

theorem stops_of_writesMembers {members : List (String × Written)} {cs rest : List Char}
    (h : WritesMembers members cs rest) : Stops cs := by
  cases h with
  | close h => exact stops_of_skipBlanks (skipBlanks_of_gap_cons h rfl) (.inr (.inr rfl))
  | comma h => exact stops_of_skipBlanks (skipBlanks_of_gap_cons h rfl) (.inl rfl)

theorem nextItem_of_gap {item : Written} {cs start after : List Char} (hgap : Gap cs start)
    (hitem : Writes item start after) : nextItem true cs = .ok (some start) := by
  obtain ⟨c, behind, rfl, hblank, hbracket⟩ := startsValue_of_writes hitem
  exact nextItem_eq_ok_iff.2 (.first (skipBlanks_of_gap_cons hgap hblank) hbracket)

theorem nextItem_of_comma {item : Written} {cs behind start after : List Char}
    (hcomma : Gap cs (',' :: behind)) (hgap : Gap behind start) (hitem : Writes item start after) :
    nextItem false cs = .ok (some start) := by
  obtain ⟨c, behind, rfl, hblank, hbracket⟩ := startsValue_of_writes hitem
  exact nextItem_eq_ok_iff.2
    (.later (skipBlanks_of_gap_cons hcomma rfl) (skipBlanks_of_gap_cons hgap hblank) hbracket)

theorem spelledItems_nil_of_gap {cs rest : List Char} (h : Gap cs (']' :: rest)) (first : Bool) :
    SpelledItems [] first cs rest := by
  have hclose := skipBlanks_of_gap_cons h rfl
  refine ⟨nextItem_eq_ok_iff.2 (.closed hclose), ?_⟩
  rw [closeArray, hclose]
  rfl

/-! ## Documents -/

/-- The document of what is read for its numerals. -/
def Written.read (d : Written) : Json := d.json WrittenNumber.read

mutual

theorem spelled_of_writes {d : Written} {cs start rest : List Char} (hgap : Gap cs start)
    (h : Writes d start rest) (hrest : Stops rest) : Spelled d.read cs rest := by
  obtain ⟨c, after, hstart, hblank, -⟩ := startsValue_of_writes h
  have hskip : skipBlanks cs = start := hstart ▸ skipBlanks_of_gap_cons (hstart ▸ hgap) hblank
  match d, h with
  | .null, .null | .bool true, .true | .bool false, .false => exact hskip
  | .number n, .number => exact ⟨n.parts, hskip ▸ n.readParts_chars hrest, n.held?_read.symm⟩
  | .string s, .string h => exact ⟨_, hskip, readString_eq_ok_iff.2 h⟩
  | .array [], .emptyArray h => exact ⟨_, hskip, spelledItems_nil_of_gap h true⟩
  | .array (item :: items), .array hgap hitem hitems =>
      exact ⟨_, hskip, _, _, nextItem_of_gap hgap hitem,
        spelled_of_writes .none hitem (stops_of_writesItems hitems),
        spelledItems_of_writesItems hitems⟩
  | .object [], .emptyObject h =>
      exact ⟨_, hskip, nextKey_eq_ok_iff.2 (.closed (skipBlanks_of_gap_cons h rfl))⟩
  | .object ((key, value) :: members), .object hgap hmember hmembers =>
      obtain ⟨hkey, hcolon, hgap', hvalue⟩ := hmember
      exact ⟨_, hskip, _, _, _, _, _,
        nextKey_eq_ok_iff.2 (.first (skipBlanks_of_gap_cons hgap rfl)), readString_eq_ok_iff.2 hkey,
        readColon_of_gap hcolon,
        spelled_of_writes hgap' hvalue (stops_of_writesMembers hmembers),
        spelledMembers_of_writesMembers hmembers⟩

theorem spelledItems_of_writesItems {items : List Written} {cs rest : List Char}
    (h : WritesItems items cs rest) :
    SpelledItems (Written.jsonItems WrittenNumber.read items) false cs rest := by
  match items, h with
  | [], .close h => exact spelledItems_nil_of_gap h false
  | item :: items, .comma hcomma hgap hitem hitems =>
      exact ⟨_, _, nextItem_of_comma hcomma hgap hitem,
        spelled_of_writes .none hitem (stops_of_writesItems hitems),
        spelledItems_of_writesItems hitems⟩

theorem spelledMembers_of_writesMembers {members : List (String × Written)} {cs rest : List Char}
    (h : WritesMembers members cs rest) :
    SpelledMembers (Written.jsonMembers WrittenNumber.read members) false cs rest := by
  match members, h with
  | [], .close h => exact nextKey_eq_ok_iff.2 (.closed (skipBlanks_of_gap_cons h rfl))
  | (key, value) :: members, .comma hcomma hgap hmember hmembers =>
      obtain ⟨hkey, hcolon, hgap', hvalue⟩ := hmember
      exact ⟨_, _, _, _, _, nextKey_eq_ok_iff.2 (.later (skipBlanks_of_gap_cons hcomma rfl)
          (skipBlanks_of_gap_cons hgap rfl)), readString_eq_ok_iff.2 hkey, readColon_of_gap hcolon,
        spelled_of_writes hgap' hvalue (stops_of_writesMembers hmembers),
        spelledMembers_of_writesMembers hmembers⟩

end

/-- **A text of the grammar is spelled**, with the numbers that are read for its numerals. -/
theorem Written.IsText.spells {d : Written} {text : String} (h : d.IsText text) :
    Spells text d.read := by
  obtain ⟨start, rest, hgap, hwrites, hend⟩ := h
  refine ⟨rest, spelled_of_writes hgap hwrites (stops_of_gap_nil hend), ?_⟩
  rw [atEnd, skipBlanks_of_gap hend]
  rfl

end RuleFilter.Json
