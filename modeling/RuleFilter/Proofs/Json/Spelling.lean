import RuleFilter.Proofs.Json.Document
import RuleFilter.Proofs.Json.Locality

set_option autoImplicit false

/-! # How a text leads its readers

The readers of rules and settings go through a text piece by piece, and what they do with it depends
on what each piece answers. `Spelled` follows a document and names these answers, with the members of
an object as they come and every one of several for one key: what a text has to give its readers so
that they find the document in it. The text that is written gives it (`spells_text`), and so does
every text that the grammar has for the document (`Written.IsText.spells`). -/

namespace RuleFilter.Json

/-! ## Spelling -/

mutual

/-- The readers find the document in front, and this is what they leave behind it. -/
def Spelled : Json → List Char → List Char → Prop
  | null, cs, rest => skipBlanks cs = 'n' :: 'u' :: 'l' :: 'l' :: rest
  | bool true, cs, rest => skipBlanks cs = 't' :: 'r' :: 'u' :: 'e' :: rest
  | bool false, cs, rest => skipBlanks cs = 'f' :: 'a' :: 'l' :: 's' :: 'e' :: rest
  | number n, cs, rest =>
    ∃ p, readParts (skipBlanks cs) = .ok (p, rest) ∧ p.toNumber? = n.held?
  | string s, cs, rest => ∃ after, skipBlanks cs = '"' :: after ∧ readString after = .ok (s, rest)
  | array items, cs, rest =>
    ∃ after, skipBlanks cs = '[' :: after ∧ SpelledItems items true after rest
  | object members, cs, rest =>
    ∃ after, skipBlanks cs = '\x7b' :: after ∧ SpelledMembers members true after rest

/-- The items of an array and its closing bracket, with a comma before each item but the first. -/
def SpelledItems : List Json → Bool → List Char → List Char → Prop
  | [], first, cs, rest => nextItem first cs = .ok none ∧ closeArray cs = .ok rest
  | item :: items, first, cs, rest => ∃ start after, nextItem first cs = .ok (some start)
      ∧ Spelled item start after ∧ SpelledItems items false after rest

/-- The members of an object and its closing brace, with a comma before each key but the first. -/
def SpelledMembers : List (String × Json) → Bool → List Char → List Char → Prop
  | [], first, cs, rest => nextKey first cs = .ok (none, rest)
  | (key, value) :: members, first, cs, rest => ∃ start passed behind colon after,
      nextKey first cs = .ok (some start, passed) ∧ readString start = .ok (key, behind)
        ∧ readColon behind = .ok colon ∧ Spelled value colon after
        ∧ SpelledMembers members false after rest

end

/-- The readers find the document in the text, with nothing but blanks around it. -/
def Spells (text : String) (j : Json) : Prop :=
  ∃ rest, Spelled j text.toList rest ∧ atEnd rest = true

/-- A finite number is spelled by what it is read from. -/
theorem spelled_number_iff {n : Number} (hn : n.IsFinite) {cs rest : List Char} :
    Spelled (number n) cs rest ↔ readNumber (skipBlanks cs) = .ok (n.held, rest) := by
  rw [Spelled, readNumber_eq_ok_iff, n.givesWhen_held?.eq_some hn]

/-! ## What a spelling takes -/

theorem length_lt_of_skipBlanks {cs after : List Char} {c : Char} (h : skipBlanks cs = c :: after) :
    after.length < cs.length := by
  obtain ⟨blanks, rfl, -⟩ := exists_of_skipBlanks h
  simp only [List.length_append, List.length_cons]
  omega

theorem length_skipBlanks_le (cs : List Char) : (skipBlanks cs).length ≤ cs.length :=
  List.length_dropWhile_le ..

theorem length_le_of_nextItem {first : Bool} {cs start : List Char}
    (h : nextItem first cs = .ok (some start)) : start.length ≤ cs.length := by
  obtain ⟨before, _, _, rfl, -⟩ := exists_of_nextItem h
  simp

theorem length_lt_of_nextKey {first : Bool} {cs start passed : List Char}
    (h : nextKey first cs = .ok (some start, passed)) : start.length < cs.length := by
  obtain ⟨before, hbefore, rfl, -⟩ := exists_of_nextKey h
  have := List.length_pos_of_ne_nil hbefore
  rw [List.length_append]
  omega

theorem length_le_of_readString {cs rest : List Char} {s : String}
    (h : readString cs = .ok (s, rest)) : rest.length ≤ cs.length := by
  obtain ⟨taken, rfl, -⟩ := exists_taken_of_readStringFrom h
  simp

theorem length_le_of_readColon {cs after : List Char} (h : readColon cs = .ok after) :
    after.length ≤ cs.length := by
  obtain ⟨before, rfl, -⟩ := exists_of_readColon h
  simp

/-- An array is closed by a character. -/
theorem length_lt_of_closeArray {cs rest : List Char} (h : closeArray cs = .ok rest) :
    rest.length < cs.length := by
  rw [closeArray] at h
  split at h
  · cases h
  · next hcs =>
      cases h
      exact length_lt_of_skipBlanks hcs
  · cases h

theorem length_lt_of_nextKey_none {first : Bool} {cs rest : List Char}
    (h : nextKey first cs = .ok (none, rest)) : rest.length < cs.length := by
  cases nextKey_eq_ok_iff.1 h with
  | closed hcs => exact length_lt_of_skipBlanks hcs

mutual

/-- No document is spelled by nothing. -/
theorem Spelled.length_lt {j : Json} {cs rest : List Char} (h : Spelled j cs rest) :
    rest.length < cs.length := by
  match j with
  | null | bool true | bool false =>
      have hlength := length_lt_of_skipBlanks h
      simp only [List.length_cons] at hlength
      omega
  | number n =>
      obtain ⟨p, hparts, -⟩ := h
      obtain ⟨taken, htaken, hcs, -⟩ := exists_taken_of_readParts hparts
      have hpos := List.length_pos_of_ne_nil htaken
      have hlength := length_skipBlanks_le cs
      rw [hcs, List.length_append] at hlength
      omega
  | string s =>
      obtain ⟨after, hcs, hread⟩ := h
      exact Nat.lt_of_le_of_lt (length_le_of_readString hread) (length_lt_of_skipBlanks hcs)
  | array items =>
      obtain ⟨after, hcs, hitems⟩ := h
      exact Nat.lt_trans (SpelledItems.length_lt hitems) (length_lt_of_skipBlanks hcs)
  | object members =>
      obtain ⟨after, hcs, hmembers⟩ := h
      exact Nat.lt_trans (SpelledMembers.length_lt hmembers) (length_lt_of_skipBlanks hcs)

theorem SpelledItems.length_lt {items : List Json} {first : Bool} {cs rest : List Char}
    (h : SpelledItems items first cs rest) : rest.length < cs.length := by
  match items with
  | [] => exact length_lt_of_closeArray h.2
  | item :: items =>
      obtain ⟨start, after, hnext, hitem, hitems⟩ := h
      have hstart := length_le_of_nextItem hnext
      have hafter := Spelled.length_lt hitem
      have hrest := SpelledItems.length_lt hitems
      omega

theorem SpelledMembers.length_lt {members : List (String × Json)} {first : Bool}
    {cs rest : List Char} (h : SpelledMembers members first cs rest) : rest.length < cs.length := by
  match members with
  | [] => exact length_lt_of_nextKey_none h
  | (key, value) :: members =>
      obtain ⟨start, passed, behind, colon, after, hnext, hkey, hcolon, hvalue, hmembers⟩ := h
      have hstart := length_lt_of_nextKey hnext
      have hbehind := length_le_of_readString hkey
      have hcolon' := length_le_of_readColon hcolon
      have hafter := Spelled.length_lt hvalue
      have hrest := SpelledMembers.length_lt hmembers
      omega

end

/-! ## The text that is written -/

mutual

/-- What is written spells the document, whatever ends it, where its numbers are read back. -/
theorem spelled_render (j : Json) (hfinite : j.IsFinite) (hread : ∀ n ∈ j.numbers, n.ReadsBack)
    {rest : List Char} (hrest : EndsValue rest) : Spelled j (render j ++ rest) rest := by
  match j with
  | null | bool true | bool false => exact skipBlanks_cons rfl _
  | number n =>
      obtain ⟨c, cs, htext, hblank, -⟩ := startsValue_numberText n
      have hskip : skipBlanks (numberText n ++ rest) = numberText n ++ rest := by
        rw [htext]
        exact skipBlanks_cons hblank _
      rw [spelled_number_iff hfinite, render, hskip]
      exact readNumber_numberText hfinite (hread n List.mem_cons_self) hrest
  | string s =>
      refine ⟨s.toList.flatMap escape ++ '"' :: rest, ?_, readString_flatMap_escape s rest⟩
      rw [render, stringText, List.append_assoc, List.cons_append]
      exact skipBlanks_cons rfl _
  | array [] => exact ⟨']' :: rest, skipBlanks_cons rfl _, rfl, rfl⟩
  | array (item :: items) =>
      obtain ⟨hitem, hitems⟩ := List.forall_mem_append.1 hread
      have hnext := nextItem_of_startsValue
        ((startsValue_render item).append (renderItems items ++ rest))
      refine ⟨render item ++ (renderItems items ++ rest), ?_, _, _, hnext,
        spelled_render item hfinite.1 hitem (endsValue_renderItems items rest),
        spelledItems_renderItems items hfinite.2 hitems rest⟩
      rw [render, List.cons_append, List.append_assoc]
      exact skipBlanks_cons rfl _
  | object [] => exact ⟨'\x7d' :: rest, skipBlanks_cons rfl _, rfl⟩
  | object ((key, value) :: members) =>
      obtain ⟨hvalue, hmembers⟩ := List.forall_mem_append.1 hread
      refine ⟨stringText key ++ ':' :: (render value ++ (renderMembers members ++ rest)), ?_,
        _, _, _, _, _, nextKey_stringText key _, readString_flatMap_escape key _, readColon_colon _,
        spelled_render value hfinite.1 hvalue (endsValue_renderMembers members rest),
        spelledMembers_renderMembers members hfinite.2 hmembers rest⟩
      rw [render, List.cons_append, List.append_assoc, List.cons_append, List.append_assoc]
      exact skipBlanks_cons rfl _

theorem spelledItems_renderItems (items : List Json) (hfinite : IsFiniteItems items)
    (hread : ∀ n ∈ numbersItems items, n.ReadsBack) (rest : List Char) :
    SpelledItems items false (renderItems items ++ rest) rest := by
  match items with
  | [] => exact ⟨rfl, rfl⟩
  | item :: items =>
      obtain ⟨hitem, hitems⟩ := List.forall_mem_append.1 hread
      rw [renderItems, List.cons_append, List.append_assoc]
      exact ⟨_, _,
        nextItem_comma ((startsValue_render item).append (renderItems items ++ rest)),
        spelled_render item hfinite.1 hitem (endsValue_renderItems items rest),
        spelledItems_renderItems items hfinite.2 hitems rest⟩

theorem spelledMembers_renderMembers (members : List (String × Json))
    (hfinite : IsFiniteMembers members) (hread : ∀ n ∈ numbersMembers members, n.ReadsBack)
    (rest : List Char) : SpelledMembers members false (renderMembers members ++ rest) rest := by
  match members with
  | [] => exact rfl
  | (key, value) :: members =>
      obtain ⟨hvalue, hmembers⟩ := List.forall_mem_append.1 hread
      rw [renderMembers, List.cons_append, List.append_assoc, List.cons_append, List.append_assoc]
      exact ⟨_, _, _, _, _, nextKey_comma_stringText key _, readString_flatMap_escape key _,
        readColon_colon _,
        spelled_render value hfinite.1 hvalue (endsValue_renderMembers members rest),
        spelledMembers_renderMembers members hfinite.2 hmembers rest⟩

end

/-- A document of finite numbers that are read back is spelled by its text. -/
theorem spells_text {j : Json} (hfinite : j.IsFinite) (hread : ∀ n ∈ j.numbers, n.ReadsBack) :
    Spells j.text j := by
  have hspelled := spelled_render j hfinite hread endsValue_nil
  rw [List.append_nil] at hspelled
  refine ⟨[], ?_, rfl⟩
  rwa [text, String.toList_ofList]

end RuleFilter.Json
