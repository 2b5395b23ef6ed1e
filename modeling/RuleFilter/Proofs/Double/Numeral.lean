import Mathlib.Data.List.Basic
import Mathlib.Data.List.TakeDrop
import Mathlib.Data.List.TakeWhile
import RuleFilter.Double.Decimal

set_option autoImplicit false

/-! # Rows of digits

A row of digits stands for a number (`Numeral.ofDigits`) and every number has one (`digitsOf`),
which does not start with a zero unless it is zero. Zeros in front change nothing, and zeros at
the end are factors of ten, so cutting them off (`NumeralLayout.trimZeros`) loses nothing. -/

namespace RuleFilter

namespace Numeral

/-- The row holds digits only. -/
def AllDigits (cs : List Char) : Prop := ∀ c ∈ cs, c.isDigit = true

/-- No digit comes next. -/
def NoDigitNext (rest : List Char) : Prop := ∀ c ∈ rest.head?, c.isDigit = false

theorem allDigits_append {cs ds : List Char} :
    AllDigits (cs ++ ds) ↔ AllDigits cs ∧ AllDigits ds := by
  simp only [AllDigits, List.mem_append]
  constructor
  · exact fun h => ⟨fun c hc => h c (Or.inl hc), fun c hc => h c (Or.inr hc)⟩
  · rintro ⟨hcs, hds⟩ c (hc | hc)
    · exact hcs c hc
    · exact hds c hc

theorem allDigits_replicate_zero (k : Nat) : AllDigits (List.replicate k '0') := by
  intro c hc
  rw [List.eq_of_mem_replicate hc]
  rfl

/-- The leading digits of a text are a row of digits with none after it. -/
theorem spanDigits_append {cs rest : List Char} (hcs : AllDigits cs) (hrest : NoDigitNext rest) :
    spanDigits (cs ++ rest) = (cs, rest) := by
  rw [spanDigits, List.span_eq_takeWhile_dropWhile, List.takeWhile_append_of_pos hcs,
    List.dropWhile_append_of_pos hcs]
  cases rest with
  | nil => simp
  | cons c rest =>
      have hc : ¬ c.isDigit = true := by
        rw [hrest c rfl]
        simp
      rw [List.takeWhile_cons_of_neg hc, List.dropWhile_cons_of_neg hc, List.append_nil]

/-- A text is its leading digits and the rest, which starts with none. -/
theorem spanDigits_spec (cs : List Char) :
    cs = (spanDigits cs).1 ++ (spanDigits cs).2 ∧ AllDigits (spanDigits cs).1
      ∧ NoDigitNext (spanDigits cs).2 := by
  rw [spanDigits, List.span_eq_takeWhile_dropWhile]
  refine ⟨List.takeWhile_append_dropWhile.symm, fun c hc => List.mem_takeWhile_imp hc, ?_⟩
  intro c hc
  have hstop := List.head?_dropWhile_not Char.isDigit cs
  rw [Option.mem_def.1 hc] at hstop
  exact hstop

/-! ## The number of a row -/

theorem ofDigits_append (cs ds : List Char) :
    ofDigits (cs ++ ds) = Nat.pow 10 ds.length * ofDigits cs + ofDigits ds := by
  have hcs : ofDigits (cs ++ ds) = Nat.ofDigitChars 10 ds (ofDigits cs) :=
    Nat.ofDigitChars_append 0
  rw [hcs, Nat.ofDigitChars_eq_ofDigitChars_zero]
  rfl

theorem ofDigits_replicate_zero (k : Nat) : ofDigits (List.replicate k '0') = 0 :=
  Nat.ofDigitChars_replicate_zero

theorem ofDigits_append_zeros (cs : List Char) (k : Nat) :
    ofDigits (cs ++ List.replicate k '0') = ofDigits cs * Nat.pow 10 k := by
  rw [ofDigits_append, ofDigits_replicate_zero, List.length_replicate, Nat.add_zero, Nat.mul_comm]

theorem ofDigits_zeros_append (cs : List Char) (k : Nat) :
    ofDigits (List.replicate k '0' ++ cs) = ofDigits cs := by
  rw [ofDigits_append, ofDigits_replicate_zero, Nat.mul_zero, Nat.zero_add]

@[simp] theorem ofDigits_digitsOf (n : Nat) : ofDigits (digitsOf n) = n :=
  Nat.ofDigitChars_ten_toDigits

/-! ## The row of a number -/

theorem allDigits_digitsOf (n : Nat) : AllDigits (digitsOf n) :=
  fun _ hc => Nat.isDigit_of_mem_toDigits (by decide) (by decide) hc

theorem digitsOf_ne_nil (n : Nat) : digitsOf n ≠ [] := Nat.toDigits_ne_nil

/-- Only zero is written with a zero in front. -/
theorem head?_digitsOf {n : Nat} (hn : n ≠ 0) : (digitsOf n).head? ≠ some '0' := by
  have hdigit : ∀ d, d < 10 → d ≠ 0 → Nat.digitChar d ≠ '0' := by decide
  rcases Nat.lt_or_ge n 10 with hlt | hge
  · rw [digitsOf, Nat.toDigits_of_lt_base hlt]
    simpa using hdigit n hlt hn
  · have hrec : (digitsOf (n / 10)).head? ≠ some '0' := head?_digitsOf (by omega)
    have hhead : (digitsOf n).head? = (digitsOf (n / 10)).head? := by
      rw [digitsOf, Nat.toDigits_of_base_le (by decide) hge]
      exact List.head?_append_of_ne_nil _ (digitsOf_ne_nil (n / 10))
    rwa [hhead]
termination_by n
decreasing_by omega

end Numeral

namespace NumeralLayout

open Numeral

/-- Trimming takes nothing off but zeros at the end. -/
theorem trimZeros_append_zeros (digits : List Char) :
    (trimZeros digits).1 ++ List.replicate (trimZeros digits).2 '0' = digits := by
  -- from behind, the row is a run of zeros and what follows it
  have hrun : ∀ cs : List Char,
      cs.takeWhile (· = '0') = List.replicate (cs.takeWhile (· = '0')).length '0' := by
    intro cs
    refine List.eq_replicate_of_mem fun c hc => ?_
    simpa using List.mem_takeWhile_imp hc
  have hsplit : digits = (digits.reverse.dropWhile (· = '0')).reverse
      ++ List.replicate (digits.reverse.takeWhile (· = '0')).length '0' := by
    have h := congrArg List.reverse
      (List.takeWhile_append_dropWhile (p := (· = '0')) (l := digits.reverse))
    rw [hrun, List.reverse_append, List.reverse_replicate, List.reverse_reverse] at h
    exact h.symm
  have hlength : digits.length - (digits.reverse.takeWhile (· = '0')).length
      = (digits.reverse.dropWhile (· = '0')).reverse.length := by
    have h := congrArg List.length hsplit
    rw [List.length_append, List.length_replicate] at h
    omega
  have htake : (trimZeros digits).1 = (digits.reverse.dropWhile (· = '0')).reverse := by
    rw [trimZeros, hlength]
    exact (congrArg (List.take _) hsplit).trans List.take_left
  rw [htake]
  exact hsplit.symm

theorem ofDigits_trimZeros (digits : List Char) :
    ofDigits (trimZeros digits).1 * Nat.pow 10 (trimZeros digits).2 = ofDigits digits := by
  rw [← ofDigits_append_zeros, trimZeros_append_zeros]

theorem allDigits_trimZeros {digits : List Char} (h : AllDigits digits) :
    AllDigits (trimZeros digits).1 := by
  rw [← trimZeros_append_zeros digits, allDigits_append] at h
  exact h.1

/-- What is left of a row that does not stand for zero starts as the row does. -/
theorem head?_trimZeros {digits : List Char} (h : ofDigits digits ≠ 0) :
    (trimZeros digits).1 ≠ [] ∧ (trimZeros digits).1.head? = digits.head? := by
  have hne : (trimZeros digits).1 ≠ [] := by
    intro hnil
    apply h
    rw [← ofDigits_trimZeros, hnil]
    exact Nat.zero_mul _
  refine ⟨hne, ?_⟩
  conv_rhs => rw [← trimZeros_append_zeros digits]
  exact (List.head?_append_of_ne_nil _ hne).symm

end NumeralLayout

end RuleFilter
