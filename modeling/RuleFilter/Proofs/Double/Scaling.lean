import RuleFilter.Double.Scaling
import RuleFilter.Proofs.Double.Decimal
import RuleFilter.Proofs.Double.Exact

set_option autoImplicit false

/-! # Short decimals are read exactly

Scaling rounds once where both its operands are doubles: an integer below `2⁵³`, and a power of ten
up to `10²²`, whose odd part `5²²` still has fewer than 53 bits. So a decimal of so few digits and
so small an exponent is read as the double nearest to it (`Decimal.scaled?_of_isShort`). -/

namespace RuleFilter

namespace Double

open BinaryFormat

variable {x y : Double} {m n : Nat}

/-! ## Natural numbers that are doubles -/

/-- The double is a natural number, and nothing was rounded. -/
def IsExactly (x : Double) (n : Nat) : Prop :=
  ∃ a : Magnitude, a.units = n * one ∧ x = finite false a

theorem isExactly_ofNat (h : double.Represents (n * one)) : (ofNat n).IsExactly n := by
  obtain ⟨a, ha⟩ : ∃ a : Magnitude, a.units = n * one := ⟨⟨_, h⟩, rfl⟩
  refine ⟨a, ha, ofRatio_of_exact false a Nat.one_pos ?_⟩
  rw [ha, Nat.mul_one (n * one)]

/-- A product of natural numbers is rounded once. -/
theorem IsExactly.mul (hx : x.IsExactly m) (hy : y.IsExactly n) :
    x.mul y = ofRatio false (m * n) 1 := by
  obtain ⟨a, ha, rfl⟩ := hx
  obtain ⟨b, hb, rfl⟩ := hy
  have hunits : a.units * b.units = m * n * one * one := by
    rw [ha, hb, Nat.mul_mul_mul_comm, Nat.mul_assoc (m * n)]
  simp only [Double.mul, ofRatio, hunits, Bool.bne_false]
  rw [← round_mul_right double (m * n * one) 1 one_pos, Nat.one_mul]

/-- A quotient of natural numbers is rounded once. -/
theorem IsExactly.div (hx : x.IsExactly m) (hy : y.IsExactly n) (hn : n ≠ 0) :
    x.div y = ofRatio false m n := by
  obtain ⟨a, ha, rfl⟩ := hx
  obtain ⟨b, hb, rfl⟩ := hy
  have hpos : n * one ≠ 0 := Nat.mul_ne_zero hn (Nat.ne_of_gt one_pos)
  simp only [Double.div, ofRatio, ha, hb, if_pos hpos, Bool.bne_false]
  rw [round_mul_right double (m * one) n one_pos]

/-- Powers of ten up to `10²²` are doubles. -/
theorem isExactly_tenPow {k : Nat} (hk : k ≤ 22) : (tenPow k).IsExactly (Nat.pow 10 k) := by
  have hodd : Nat.pow 5 k ≤ Nat.pow 2 53 :=
    Nat.le_trans (Nat.pow_le_pow_right (by decide) hk) (by decide)
  have hlarge : Nat.pow 10 22 * one < Nat.pow 2 double.ceiling := by decide +kernel
  refine isExactly_ofNat ⟨?_, Nat.mod_eq_zero_of_dvd ?_⟩
  · calc Nat.pow 10 k * one ≤ Nat.pow 10 22 * one :=
          Nat.mul_le_mul_right one (Decimal.ten_pow_le_ten_pow hk)
      _ < Nat.pow 2 double.ceiling := hlarge
  · have hsplit : ∀ e, Nat.pow 10 k * Nat.pow 2 e = Nat.pow 5 k * Nat.pow 2 (k + e) := fun e => by
      rw [two_pow_add, ← Nat.mul_assoc]
      exact congrArg (· * Nat.pow 2 e) (Nat.mul_pow 5 2 k)
    unfold one
    generalize 1074 = e
    rw [hsplit]
    exact dvd_of_le_precision hodd

/-! ## Signs -/

theorem neg_ofRatio (negative : Bool) (num den : Nat) :
    (ofRatio negative num den).neg = ofRatio (!negative) num den := by
  simp only [ofRatio, ofUnits]
  split <;> rfl

end Double

/-! ## Decimals -/

namespace Decimal

open Double

/-- The digits and the power of ten are doubles themselves. -/
structure IsShort (d : Decimal) : Prop where
  digits_le : d.digits ≤ Nat.pow 2 53
  exponent_le : d.exponent.natAbs ≤ 22

instance (d : Decimal) : Decidable d.IsShort :=
  decidable_of_iff (d.digits ≤ Nat.pow 2 53 ∧ d.exponent.natAbs ≤ 22)
    ⟨fun h => ⟨h.1, h.2⟩, fun h => ⟨h.1, h.2⟩⟩

/-- The digits of a short decimal are scaled with one rounding. -/
theorem IsShort.scaled {d : Decimal} (h : d.IsShort) :
    (Double.ofNat d.digits).scaled d.exponent
      = ofRatio false (d.digits * Nat.pow 10 d.exponent.toNat)
        (Nat.pow 10 (-d.exponent).toNat) := by
  have hdigits := isExactly_ofNat (BinaryFormat.represents_mul_one h.digits_le)
  have hsmall := h.exponent_le
  cases hexponent : d.exponent with
  | ofNat e =>
      rw [hexponent] at hsmall
      have he : e ≤ 22 := hsmall
      have hneg : (-(Int.ofNat e)).toNat = 0 := by simp
      rw [Double.scaled, if_pos (Nat.le_trans he (by decide)), hneg,
        hdigits.mul (isExactly_tenPow he)]
      rfl
  | negSucc e =>
      rw [hexponent] at hsmall
      have he : e + 1 ≤ 22 := hsmall
      have hzero : (Int.negSucc e).toNat = 0 := rfl
      have hquot : e / greatestPower = 0 := Nat.div_eq_of_lt (Nat.lt_of_lt_of_le he (by decide))
      have hrem : e % greatestPower = e := Nat.mod_eq_of_lt (Nat.lt_of_lt_of_le he (by decide))
      rw [Double.scaled, hquot, hrem, divGreatest, hzero,
        hdigits.div (isExactly_tenPow he) (Nat.ne_of_gt (ten_pow_pos _))]
      exact congrArg (ofRatio false · _) (Nat.mul_one _).symm

/-- Scaling a short decimal stays far within the range. -/
theorem IsShort.isFinite {d : Decimal} (h : d.IsShort) :
    ((Double.ofNat d.digits).scaled d.exponent).isFinite = true := by
  have hlarge : 2 * (Nat.pow 2 53 * Nat.pow 10 22 * one) + 1
      < Nat.pow 2 BinaryFormat.double.ceiling := by decide +kernel
  have hnum : d.digits * Nat.pow 10 d.exponent.toNat ≤ Nat.pow 2 53 * Nat.pow 10 22 :=
    Nat.mul_le_mul h.digits_le (ten_pow_le_ten_pow (by have := h.exponent_le; omega))
  rw [h.scaled]
  apply isFinite_ofRatio
  have hquot := Nat.le_trans (Nat.div_le_self (d.digits * Nat.pow 10 d.exponent.toNat * one)
    (Nat.pow 10 (-d.exponent).toNat)) (Nat.mul_le_mul_right one hnum)
  omega

/-- **A short decimal is read as the nearest double.** -/
theorem scaled?_of_isShort {d : Decimal} (h : d.IsShort) : d.scaled? = some d.toDouble := by
  have hscaled : d.scaled? = some (ofRatio d.negative (d.digits * Nat.pow 10 d.exponent.toNat)
      (Nat.pow 10 (-d.exponent).toNat)) := by
    rw [scaled?]
    simp only [if_pos h.isFinite]
    rw [h.scaled]
    cases d.negative with
    | false => rw [if_neg Bool.false_ne_true]
    | true => rw [if_pos rfl, neg_ofRatio, Bool.not_false]
  obtain ⟨negative, digits, exponent⟩ := d
  rw [hscaled]
  by_cases hdigits : digits = 0
  · rw [hdigits, toDouble_zero, Nat.zero_mul]
    refine congrArg some (ofRatio_of_tiny negative ?_)
    rw [Nat.zero_mul]
    exact ten_pow_pos _
  · rw [toDouble_eq_ofRatio hdigits]

end Decimal

end RuleFilter
