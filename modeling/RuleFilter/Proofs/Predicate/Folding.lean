import Mathlib.Data.List.Forall2
import RuleFilter.Proofs.Predicate.Text

set_option autoImplicit false

/-! # Texts that are the same but for case

Folding goes character by character, so it never changes how many characters a text has, and what
stands in one place of two folded texts stood there before. `=~` compares folded texts. Therefore it
compares place by place (`Text.fold_eq_fold_iff`), and texts that are put together or taken apart at
one place are compared part by part (`Text.fold_append_eq_iff`). How the characters of all scripts
are folded is a matter of tables; those of ASCII are folded by a rule of their own: capital letters
go to small ones and everything else stays (`Text.foldChar_eq_iff_of_ascii`). -/

namespace RuleFilter

/-! ## Folded texts -/

namespace Text

variable {s t s' t' : String} {c d : Char}

theorem toList_fold (s : String) : (fold s).toList = s.toList.map foldChar := by
  rw [fold, String.toList_ofList]

theorem length_fold (s : String) : (fold s).length = s.length := by
  rw [← String.length_toList, toList_fold, List.length_map, String.length_toList]

theorem fold_append (s t : String) : fold (s ++ t) = fold s ++ fold t := by
  rw [← String.toList_inj]
  simp [toList_fold]

/-- Folded texts are compared place by place. -/
theorem fold_eq_fold_iff :
    fold s = fold t ↔ List.Forall₂ (fun c d => foldChar c = foldChar d) s.toList t.toList := by
  rw [← String.toList_inj, toList_fold, toList_fold, ← List.forall₂_eq_eq_eq,
    List.forall₂_map_left_iff, List.forall₂_map_right_iff]

/-- Texts that are cut after as many characters are compared part by part. -/
theorem fold_append_eq_iff (h : s.length = t.length) :
    fold (s ++ s') = fold (t ++ t') ↔ fold s = fold t ∧ fold s' = fold t' := by
  have hlength : (fold s).toList.length = (fold t).toList.length := by
    rw [String.length_toList, String.length_toList, length_fold, length_fold, h]
  rw [fold_append, fold_append, ← String.toList_inj, String.toList_append, String.toList_append,
    List.append_eq_append_iff_of_size_eq_left hlength, String.toList_inj, String.toList_inj]

/-! ## ASCII -/

def IsAscii (s : String) : Prop := ∀ c ∈ s.toList, c.toNat < 128

instance (s : String) : Decidable (IsAscii s) := List.decidableBAll _ s.toList

/-- The first is a capital letter of ASCII and the second its small letter. -/
def IsCapitalOf (c d : Char) : Prop := 'A' ≤ c ∧ c ≤ 'Z' ∧ d.toNat = c.toNat + 32

/-- The characters are the same, or one letter of ASCII in either case. -/
def SameLetter (c d : Char) : Prop := c = d ∨ IsCapitalOf c d ∨ IsCapitalOf d c

instance : DecidableRel IsCapitalOf := fun _ _ => inferInstanceAs (Decidable (_ ∧ _))

instance : DecidableRel SameLetter := fun _ _ => inferInstanceAs (Decidable (_ ∨ _))

/-- The texts are equal when the case of ASCII letters is ignored. -/
def EqualButForCase (s t : String) : Prop := List.Forall₂ SameLetter s.toList t.toList

instance : DecidableRel EqualButForCase := fun s t =>
  inferInstanceAs (Decidable (List.Forall₂ SameLetter s.toList t.toList))

/-- The number of the small letter for that of a capital letter, and every other number itself. -/
def smallNumber (n : Nat) : Nat := if 65 ≤ n ∧ n ≤ 90 then n + 32 else n

theorem toNat_foldChar_of_ascii (h : c.toNat < 128) :
    (foldChar c).toNat = smallNumber c.toNat := by
  have hall : ∀ n < 128, (foldChar (Char.ofNat n)).toNat = smallNumber n := by decide
  have hchar := hall c.toNat h
  rwa [Char.ofNat_toNat] at hchar

theorem sameLetter_iff : SameLetter c d ↔ smallNumber c.toNat = smallNumber d.toNat := by
  have hcapital {c d : Char} :
      IsCapitalOf c d ↔ 65 ≤ c.toNat ∧ c.toNat ≤ 90 ∧ d.toNat = c.toNat + 32 := by
    rw [IsCapitalOf, Char.le_def, Char.le_def, UInt32.le_iff_toNat_le, UInt32.le_iff_toNat_le]
    rfl
  rw [SameLetter, hcapital, hcapital, ← Char.toNat_inj, smallNumber, smallNumber]
  split <;> split <;> omega

theorem foldChar_eq_iff_of_ascii (hc : c.toNat < 128) (hd : d.toNat < 128) :
    foldChar c = foldChar d ↔ SameLetter c d := by
  rw [← Char.toNat_inj, toNat_foldChar_of_ascii hc, toNat_foldChar_of_ascii hd, sameLetter_iff]

theorem fold_eq_fold_iff_of_ascii (hs : IsAscii s) (ht : IsAscii t) :
    fold s = fold t ↔ EqualButForCase s t := by
  rw [fold_eq_fold_iff, EqualButForCase, List.forall₂_iff_get, List.forall₂_iff_get]
  refine and_congr_right fun _ => forall_congr' fun i => forall₂_congr fun hi hi' => ?_
  exact foldChar_eq_iff_of_ascii (hs _ (List.get_mem _ _)) (ht _ (List.get_mem _ _))

end Text

/-! ## The operator -/

namespace Predicate

open Text (foldChar IsAscii EqualButForCase)

/-- The rule of `=~` with the second text accepts the first. -/
def AcceptsFolded (s t : String) : Prop := answer "=~" (.string t) (.string s) = .ok true

theorem answer_equalFold (s t : String) :
    answer "=~" (.string t) (.string s) = .ok (Text.fold s == Text.fold t) :=
  answer_textTest_tag .equalFold t s

theorem acceptsFolded_iff {s t : String} : AcceptsFolded s t ↔ Text.fold s = Text.fold t := by
  rw [AcceptsFolded, answer_equalFold]
  simp

/-- Only the text itself equals a text. -/
theorem eq_of_answer_equal {t : String} {v : Value}
    (h : answer "==" (.string t) v = .ok true) : v = .string t := by
  have hequals : v.equals (.string t) = true := Except.ok.inj h
  cases v <;> simp_all [Value.equals]

/-- **`=~` compares texts character by character, without regard to case.** It has an answer for
every two texts, and says yes when they have as many characters and those in each place fold to one.
So it says yes to texts that are put together from parts to which it does, and to the parts of texts
that are cut after as many characters. Of ASCII texts it asks that they are equal but for the case
of letters; and it never refuses what `==` accepts. -/
theorem equalFold_compares_characters :
    (∀ s t : String, ∃ accepted, answer "=~" (.string t) (.string s) = .ok accepted
      ∧ (accepted = true ↔ s.toList.length = t.toList.length
        ∧ ∀ (i : Nat) (hs : i < s.toList.length) (ht : i < t.toList.length),
          foldChar s.toList[i] = foldChar t.toList[i]))
    ∧ (∀ s t s' t' : String,
      (AcceptsFolded s t → AcceptsFolded s' t' → AcceptsFolded (s ++ s') (t ++ t'))
      ∧ (s.length = t.length → AcceptsFolded (s ++ s') (t ++ t') →
          AcceptsFolded s t ∧ AcceptsFolded s' t'))
    ∧ (∀ s t : String, IsAscii s → IsAscii t → (AcceptsFolded s t ↔ EqualButForCase s t))
    ∧ ∀ (t : String) (v : Value), answer "==" (.string t) v = .ok true →
        answer "=~" (.string t) v = .ok true := by
  refine ⟨fun s t => ⟨_, answer_equalFold s t, ?_⟩, fun s t s' t' => ⟨?_, ?_⟩, ?_, ?_⟩
  · rw [beq_iff_eq, Text.fold_eq_fold_iff, List.forall₂_iff_get]
    rfl
  · simp only [acceptsFolded_iff, Text.fold_append]
    rintro hs hs'
    rw [hs, hs']
  · intro hlength
    simp only [acceptsFolded_iff]
    exact (Text.fold_append_eq_iff hlength).1
  · intro s t hs ht
    rw [acceptsFolded_iff, Text.fold_eq_fold_iff_of_ascii hs ht]
  · intro t v h
    rw [eq_of_answer_equal h]
    exact acceptsFolded_iff.2 rfl

/-- Letters of ASCII in either case beside one that has no counterpart of a single character; the
dotless `ı` is no `i`, and two letters are not one. -/
theorem equalFold_compares_characters_of_words :
    IsAscii "Stra" ∧ IsAscii "sTRA" ∧ AcceptsFolded "Stra" "sTRA"
      ∧ answer "==" (.string "ße") (.string "ße") = .ok true ∧ AcceptsFolded "Straße" "sTRAße"
      ∧ "Stra".length = "sTRA".length ∧ AcceptsFolded "ße" "ße"
      ∧ answer "=~" (.string "STRASSE") (.string "Straße") = .ok false
      ∧ answer "=~" (.string "irmak") (.string "ırmak") = .ok false := by
  obtain ⟨hplaces, hparts, hascii, hequal⟩ := equalFold_compares_characters
  have hs : IsAscii "Stra" := by decide
  have ht : IsAscii "sTRA" := by decide
  have hstart : AcceptsFolded "Stra" "sTRA" := (hascii _ _ hs ht).2 (by decide)
  have hsame : answer "==" (.string "ße") (.string "ße") = .ok true := by rfl
  have hend : AcceptsFolded "ße" "ße" := hequal _ _ hsame
  have hcut : "Straße" = "Stra" ++ "ße" ∧ "sTRAße" = "sTRA" ++ "ße" := by decide
  have hlength : "Stra".length = "sTRA".length := by decide
  obtain ⟨hjoin, htake⟩ := hparts "Stra" "sTRA" "ße" "ße"
  have hwhole := hjoin hstart hend
  refine ⟨hs, ht, hstart, hsame, ?_, hlength, (htake hlength hwhole).2, ?_, ?_⟩
  · rwa [hcut.1, hcut.2]
  · obtain ⟨accepted, hanswer, hiff⟩ := hplaces "Straße" "STRASSE"
    cases accepted with
    | false => exact hanswer
    | true => exact absurd (hiff.1 rfl).1 (by decide)
  · obtain ⟨accepted, hanswer, hiff⟩ := hplaces "ırmak" "irmak"
    cases accepted with
    | false => exact hanswer
    | true => exact absurd ((hiff.1 rfl).2 0 (by decide) (by decide)) (by decide)

end Predicate

end RuleFilter
