import RuleFilter.Proofs.Json.Number
import RuleFilter.Proofs.Json.String

set_option autoImplicit false

/-! # Where a written value starts and ends

No written value starts with a blank or with the bracket that closes an array (`StartsValue`), so an
item is found where it was written, and so is a key behind its quote. What stands behind a value
ends it (`EndsValue`), which is all that a reader may rely on: it `Reads` a document for a value
when it takes the document's text for the value, whatever ends it. -/

namespace RuleFilter.Json

/-! ## Front and end of a text -/

/-- A text that starts a value: no blank to skip, and no bracket that closes an array. -/
def StartsValue (cs : List Char) : Prop := ∃ c rest, cs = c :: rest ∧ isBlank c = false ∧ c ≠ ']'

theorem skipBlanks_cons {c : Char} (hc : isBlank c = false) (cs : List Char) :
    skipBlanks (c :: cs) = c :: cs := by
  simp [skipBlanks, hc]

theorem StartsValue.append {cs : List Char} (h : StartsValue cs) (rest : List Char) :
    StartsValue (cs ++ rest) := by
  obtain ⟨c, cs, rfl, hblank, hbracket⟩ := h
  exact ⟨c, cs ++ rest, rfl, hblank, hbracket⟩

theorem startsValue_of_numeral {c : Char} (hc : c = '-' ∨ c.isDigit = true) (cs : List Char) :
    StartsValue (c :: cs) := by
  have hne : c ≠ ' ' ∧ c ≠ '\n' ∧ c ≠ '\t' ∧ c ≠ '\r' ∧ c ≠ ']' := by
    refine ⟨?_, ?_, ?_, ?_, ?_⟩ <;> (rintro rfl; revert hc; decide)
  obtain ⟨hspace, hline, htab, hreturn, hbracket⟩ := hne
  exact ⟨c, cs, rfl, by simp [isBlank, hspace, hline, htab, hreturn], hbracket⟩

theorem startsValue_numberText (n : Number) : StartsValue (numberText n) := by
  by_cases hn : n.IsFinite
  · obtain ⟨c, cs, htext, hc⟩ := head_numberText hn
    rw [htext]
    exact startsValue_of_numeral hc cs
  · -- what is not finite is written as a word
    have hnull : numberText n = ['n', 'u', 'l', 'l'] := by
      cases n with
      | double x =>
          cases x with
          | finite negative m => exact absurd rfl hn
          | _ => rfl
      | _ => exact absurd trivial hn
    rw [hnull]
    exact ⟨'n', _, rfl, rfl, by decide⟩

theorem startsValue_render (j : Json) : StartsValue (render j) := by
  cases j with
  | null => exact ⟨'n', _, rfl, rfl, by decide⟩
  | bool b => cases b <;> exact ⟨_, _, rfl, rfl, by decide⟩
  | number n => exact startsValue_numberText n
  | string s => exact ⟨'"', _, rfl, rfl, by decide⟩
  | array items => cases items <;> exact ⟨'[', _, rfl, rfl, by decide⟩
  | object members => cases members <;> exact ⟨'\x7b', _, rfl, rfl, by decide⟩

theorem endsValue_renderItems (items : List Json) (rest : List Char) :
    EndsValue (renderItems items ++ rest) := by
  cases items <;> simp [renderItems, EndsValue]

theorem endsValue_renderMembers (members : List (String × Json)) (rest : List Char) :
    EndsValue (renderMembers members ++ rest) := by
  cases members <;> simp [renderMembers, EndsValue]

/-! ## Items -/

/-- The reader takes the text of the document for the value, whatever ends it. -/
def Reads {α : Type} (item : List Char → Except Fault (WithRest α)) (j : Json) (x : α) : Prop :=
  ∀ rest, EndsValue rest → item (render j ++ rest) = .ok (x, rest)

theorem nextItem_of_startsValue {cs : List Char} (h : StartsValue cs) :
    nextItem true cs = .ok (some cs) := by
  obtain ⟨c, cs, rfl, hblank, hbracket⟩ := h
  simp [nextItem, skipBlanks_cons hblank]

theorem nextItem_comma {cs : List Char} (h : StartsValue cs) :
    nextItem false (',' :: cs) = .ok (some cs) := by
  obtain ⟨c, cs, rfl, hblank, hbracket⟩ := h
  simp [nextItem, skipBlanks_cons (c := ',') rfl, skipBlanks_cons hblank, hbracket]

/-! ## Members -/

theorem readColon_colon (cs : List Char) : readColon (':' :: cs) = .ok cs := by
  simp [readColon, skipBlanks_cons (c := ':') rfl]

theorem nextKey_quote (cs : List Char) : nextKey true ('"' :: cs) = .ok (some cs, []) := by
  simp [nextKey, skipBlanks_cons (c := '"') rfl]

theorem nextKey_comma (cs : List Char) : nextKey false (',' :: '"' :: cs) = .ok (some cs, []) := by
  simp [nextKey, skipBlanks_cons (c := ',') rfl, skipBlanks_cons (c := '"') rfl]

theorem nextKey_stringText (key : String) (cs : List Char) :
    nextKey true (stringText key ++ cs)
      = .ok (some (key.toList.flatMap escape ++ '"' :: cs), []) := by
  rw [stringText, List.append_assoc, List.cons_append]
  exact nextKey_quote _

theorem nextKey_comma_stringText (key : String) (cs : List Char) :
    nextKey false (',' :: (stringText key ++ cs))
      = .ok (some (key.toList.flatMap escape ++ '"' :: cs), []) := by
  rw [stringText, List.append_assoc, List.cons_append]
  exact nextKey_comma _

end RuleFilter.Json
