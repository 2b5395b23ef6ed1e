import RuleFilter.Number
import RuleFilter.Proofs.Double.Rounding

set_option autoImplicit false

/-! # Integers have finite doubles

Rounding ends on the grid of the format (`BinaryFormat.represents_round`): it takes a count of steps
of at most the format's precision, and where the count reaches the next power of two the coarser
grid beyond it holds that power. So a quotient that is not out of range has a finite double, and
every integer of 64 bits is far from it (`Double.isFinite_ofInt`). -/

namespace RuleFilter

namespace BinaryFormat

theorem two_pow_add (k l : Nat) : Nat.pow 2 (k + l) = Nat.pow 2 k * Nat.pow 2 l :=
  Nat.pow_add 2 k l

theorem nearestEven_le (num den : Nat) : nearestEven num den ≤ num / den + 1 := by
  simp only [nearestEven]
  split
  · exact Nat.le_succ _
  · split <;> omega

/-- A number spans at most as many steps of the grid around it as the precision allows. -/
theorem lt_two_pow_spacing (units : Nat) : units < Nat.pow 2 (53 + double.spacing units) := by
  have hexponent : units.log2 + 1 ≤ 53 + double.spacing units := by
    simp only [spacing, double]
    omega
  exact Nat.lt_of_lt_of_le Nat.lt_log2_self (Nat.pow_le_pow_right (by decide) hexponent)

/-- The step around a number is at most the number, or the smallest there is. -/
theorem two_pow_spacing_le (units : Nat) : Nat.pow 2 (double.spacing units) ≤ units + 1 := by
  rcases Nat.eq_zero_or_pos (double.spacing units) with hzero | hpos
  · rw [hzero]
    exact Nat.le_add_left 1 units
  · have hexponent : double.spacing units ≤ units.log2 := by
      simp only [spacing, double] at hpos ⊢
      omega
    have hunits : units ≠ 0 := by
      rintro rfl
      simp [spacing, double] at hpos
    calc Nat.pow 2 (double.spacing units) ≤ 2 ^ units.log2 :=
          Nat.pow_le_pow_right (by decide) hexponent
      _ ≤ units := Nat.log2_self_le hunits
      _ ≤ units + 1 := Nat.le_succ _

/-- The nearest magnitude is less than one step above the quotient. -/
theorem round_le (num den : Nat) : double.round num den ≤ 2 * (num / den) + 1 := by
  obtain ⟨step, hstep⟩ : ∃ step, step = Nat.pow 2 (double.spacing (num / den)) := ⟨_, rfl⟩
  have hle : step ≤ num / den + 1 := hstep ▸ two_pow_spacing_le (num / den)
  calc double.round num den = nearestEven num (den * step) * step := by rw [round, ← hstep]
    _ ≤ (num / den / step + 1) * step := by
        rw [Nat.div_div_eq_div_mul]
        exact Nat.mul_le_mul_right _ (nearestEven_le _ _)
    _ = num / den / step * step + step := Nat.succ_mul _ _
    _ ≤ num / den + (num / den + 1) := Nat.add_le_add (Nat.div_mul_le_self _ _) hle
    _ = 2 * (num / den) + 1 := by omega

/-- A whole number of steps lies on the grid around it, as long as they are no more than the
precision allows. -/
theorem dvd_of_le_precision {count exponent : Nat} (h : count ≤ Nat.pow 2 53) :
    Nat.pow 2 (double.spacing (count * Nat.pow 2 exponent)) ∣ count * Nat.pow 2 exponent := by
  generalize hunits : count * Nat.pow 2 exponent = units
  rcases Nat.eq_zero_or_pos units with hzero | hpos
  · rw [hzero]
    exact Nat.dvd_zero _
  · have hle : units ≤ Nat.pow 2 (53 + exponent) := by
      rw [← hunits, two_pow_add]
      exact Nat.mul_le_mul_right _ h
    rcases Nat.lt_or_eq_of_le hle with hlt | heq
    · -- below the next power of two the grid is at least as fine as the steps
      have hlog : units.log2 < 53 + exponent := (Nat.log2_lt (Nat.ne_of_gt hpos)).2 hlt
      have hspacing : double.spacing units ≤ exponent := by
        simp only [spacing, double]
        omega
      exact Nat.dvd_trans (Nat.pow_dvd_pow 2 hspacing) (hunits ▸ Nat.dvd_mul_left _ _)
    · -- and that power itself lies on every coarser grid up to it
      have hlog : units.log2 = 53 + exponent := heq ▸ Nat.log2_two_pow
      have hspacing : double.spacing units ≤ 53 + exponent := by
        simp only [spacing, double]
        omega
      rw [heq] at hspacing ⊢
      exact Nat.pow_dvd_pow 2 hspacing

/-- A quotient is rounded to a number of steps that is at most the precision. -/
theorem steps_le_precision (num den : Nat) :
    nearestEven num (den * Nat.pow 2 (double.spacing (num / den))) ≤ Nat.pow 2 53 := by
  obtain ⟨step, hstep⟩ : ∃ step, step = Nat.pow 2 (double.spacing (num / den)) := ⟨_, rfl⟩
  have hbelow : num / den < Nat.pow 2 53 * step := by
    have hspan := lt_two_pow_spacing (num / den)
    rwa [hstep, ← two_pow_add]
  have hquot : num / (den * step) < Nat.pow 2 53 := by
    rw [← Nat.div_div_eq_div_mul]
    exact (Nat.div_lt_iff_lt_mul (hstep ▸ two_pow_spacing_pos double _)).2 hbelow
  rw [← hstep]
  exact Nat.le_trans (nearestEven_le _ _) hquot

/-- The nearest magnitude is a magnitude of the format, unless it is out of range. -/
theorem represents_round {num den : Nat}
    (h : double.round num den < Nat.pow 2 double.ceiling) :
    double.Represents (double.round num den) :=
  ⟨h, Nat.mod_eq_zero_of_dvd (dvd_of_le_precision (steps_le_precision num den))⟩

end BinaryFormat

namespace Double

open BinaryFormat

/-- A quotient that is well within the range has a finite double. -/
theorem isFinite_ofRatio (negative : Bool) {num den : Nat}
    (h : 2 * (num * one / den) + 1 < Nat.pow 2 double.ceiling) :
    (ofRatio negative num den).isFinite = true := by
  have hrep := represents_round (Nat.lt_of_le_of_lt (round_le (num * one) den) h)
  rw [ofRatio, ofUnits, dif_pos hrep]
  rfl

theorem isFinite_ofInt {n : Int} (h : n.natAbs < UInt64.size) : (ofInt n).isFinite = true := by
  have hrange : 2 * (UInt64.size * one) + 1 < Nat.pow 2 double.ceiling := by decide +kernel
  refine isFinite_ofRatio _ (Nat.lt_of_le_of_lt ?_ hrange)
  rw [Nat.div_one]
  have hle := Nat.mul_le_mul_right one (Nat.le_of_lt h)
  omega

/-- A natural number has the double of the integer. -/
theorem ofInt_natCast (n : Nat) : ofInt n = ofNat n := by
  rw [ofInt, ofNat, Int.natAbs_natCast, decide_eq_false (Int.not_lt.2 (Int.natCast_nonneg n))]

end Double

namespace Number

theorem toDouble_unsigned (n : UInt64) : (unsigned n).toDouble = Double.ofInt n.toNat :=
  (Double.ofInt_natCast n.toNat).symm

/-- In whatever width an integer is held, it has the same nearest double. -/
@[simp] theorem toDouble_ofInt (n : Int) : (ofInt n).toDouble = Double.ofInt n := by
  have hmin : Int64.minValue.toInt = -2 ^ 63 := rfl
  have hmax : Int64.maxValue.toInt = 2 ^ 63 - 1 := rfl
  have hword : UInt64.size = 2 ^ 64 := rfl
  rw [ofInt]
  split
  · rw [toDouble, Int64.toInt_ofInt_of_le (by omega) (by omega)]
  · split
    · have hvalue : ((UInt64.ofNat n.toNat).toNat : Int) = n := by
        rw [UInt64.toNat_ofNat_of_lt' (by omega)]
        omega
      rw [toDouble_unsigned, hvalue]
    · rfl

theorem toDouble_held (n : Number) : n.held.toDouble = n.toDouble := by
  cases n with
  | signed n => rfl
  | double x => rfl
  | unsigned n => rw [held, toDouble_ofInt, toDouble_unsigned]

end Number

end RuleFilter
