import RuleFilter.Double.Basic

set_option autoImplicit false

/-! # Rounding quotients

The double of a quotient depends on the quotient alone (`Double.ofRatio_mul_right`), a quotient
that is a double is kept (`Double.ofRatio_of_exact`), and quotients beyond the range go to an
infinity or to zero. -/

namespace RuleFilter

namespace BinaryFormat

theorem two_pow_spacing_pos (f : BinaryFormat) (units : Nat) : 0 < Nat.pow 2 (f.spacing units) :=
  Nat.two_pow_pos _

/-! ## Nearest integers -/

theorem nearestEven_mul_right (num den : Nat) {c : Nat} (hc : 0 < c) :
    nearestEven (num * c) (den * c) = nearestEven num den := by
  have hquot : num * c / (den * c) = num / den := Nat.mul_div_mul_right num den hc
  have hrem : num * c % (den * c) = num % den * c := Nat.mul_mod_mul_right c num den
  have hbelow : 2 * (num % den * c) < den * c ↔ 2 * (num % den) < den := by
    rw [← Nat.mul_assoc, Nat.mul_lt_mul_right hc]
  have habove : den * c < 2 * (num % den * c) ↔ den < 2 * (num % den) := by
    rw [← Nat.mul_assoc, Nat.mul_lt_mul_right hc]
  simp only [nearestEven, hquot, hrem, hbelow, habove]

theorem nearestEven_one (num : Nat) : nearestEven num 1 = num := by
  simp [nearestEven, Nat.mod_one]

theorem nearestEven_mul_self (num : Nat) {den : Nat} (hden : 0 < den) :
    nearestEven (num * den) den = num := by
  have h := nearestEven_mul_right num 1 hden
  rwa [Nat.one_mul, nearestEven_one] at h

theorem div_le_nearestEven (num den : Nat) : num / den ≤ nearestEven num den := by
  simp only [nearestEven]
  split
  · exact Nat.le_refl _
  · split <;> omega

/-! ## Nearest magnitudes -/

theorem round_mul_right (f : BinaryFormat) (num den : Nat) {c : Nat} (hc : 0 < c) :
    f.round (num * c) (den * c) = f.round num den := by
  have hquot : num * c / (den * c) = num / den := Nat.mul_div_mul_right num den hc
  simp only [round, hquot, Nat.mul_right_comm den c, nearestEven_mul_right _ _ hc]

/-- A magnitude of the format is its own nearest magnitude. -/
theorem round_of_represents {f : BinaryFormat} {units den : Nat} (h : f.Represents units)
    (hden : 0 < den) : f.round (units * den) den = units := by
  obtain ⟨count, hcount⟩ := Nat.dvd_of_mod_eq_zero h.2
  have hnum : units * den = count * (den * Nat.pow 2 (f.spacing units)) := by
    rw [Nat.mul_comm units den, Nat.mul_left_comm, Nat.mul_comm count, ← hcount]
  rw [round, Nat.mul_div_cancel units hden, hnum,
    nearestEven_mul_self count (Nat.mul_pos hden (f.two_pow_spacing_pos units)), Nat.mul_comm count,
    ← hcount]

/-- A quotient of at least a power of two is not rounded below it. -/
theorem two_pow_le_round {num den k : Nat} (h : Nat.pow 2 k ≤ num / den) :
    Nat.pow 2 k ≤ double.round num den := by
  -- the grid around a number holds the power of two at or below it
  have hzero : num / den ≠ 0 := by
    have := Nat.two_pow_pos k
    have : 0 < Nat.pow 2 k := this
    omega
  have hlog : k ≤ (num / den).log2 := (Nat.le_log2 hzero).2 h
  have hspacing : double.spacing (num / den) ≤ (num / den).log2 := by
    simp only [spacing, double]
    omega
  have hdvd : Nat.pow 2 (double.spacing (num / den)) ∣ 2 ^ (num / den).log2 :=
    Nat.pow_dvd_pow 2 hspacing
  calc Nat.pow 2 k ≤ 2 ^ (num / den).log2 := Nat.pow_le_pow_right (by decide) hlog
    _ = 2 ^ (num / den).log2 / Nat.pow 2 (double.spacing (num / den))
          * Nat.pow 2 (double.spacing (num / den)) := (Nat.div_mul_cancel hdvd).symm
    _ ≤ num / den / Nat.pow 2 (double.spacing (num / den))
          * Nat.pow 2 (double.spacing (num / den)) :=
        Nat.mul_le_mul_right _ (Nat.div_le_div_right (Nat.log2_self_le hzero))
    _ ≤ double.round num den := by
        rw [Nat.div_div_eq_div_mul]
        exact Nat.mul_le_mul_right _ (div_le_nearestEven _ _)

/-- Less than half a unit is rounded to nothing. -/
theorem round_eq_zero {num den : Nat} (h : 2 * num < den) : double.round num den = 0 := by
  have hquot : num / den = 0 := Nat.div_eq_of_lt (by omega)
  have hspacing : double.spacing 0 = 0 := by decide
  have hone : Nat.pow 2 0 = 1 := rfl
  rw [round, hquot, hspacing, hone, Nat.mul_one, Nat.mul_one, nearestEven, hquot,
    Nat.mod_eq_of_lt (by omega), if_pos h]

end BinaryFormat

namespace Double

open BinaryFormat

theorem one_pos : 0 < one := by decide +kernel

/-- The double of a quotient depends on the quotient alone. -/
theorem ofRatio_mul_right (negative : Bool) (num den : Nat) {c : Nat} (hc : 0 < c) :
    ofRatio negative (num * c) (den * c) = ofRatio negative num den := by
  rw [ofRatio, Nat.mul_right_comm, round_mul_right double _ _ hc, ofRatio]

/-- A quotient that is a double is kept. -/
theorem ofRatio_of_exact (negative : Bool) {num den : Nat} (m : Magnitude) (hden : 0 < den)
    (h : num * one = m.units * den) : ofRatio negative num den = .finite negative m := by
  rw [ofRatio, h, round_of_represents m.represented hden, ofUnits, dif_pos m.represented]

/-- A quotient beyond every finite double is infinite. -/
theorem ofRatio_of_huge (negative : Bool) {num den : Nat} (hden : 0 < den)
    (h : Nat.pow 2 double.ceiling * den ≤ num * one) :
    ofRatio negative num den = .infinity negative := by
  have hround : Nat.pow 2 double.ceiling ≤ double.round (num * one) den :=
    two_pow_le_round ((Nat.le_div_iff_mul_le hden).2 h)
  rw [ofRatio, ofUnits, dif_neg]
  intro hrep
  exact absurd hrep.1 (Nat.not_lt.2 hround)

/-- A quotient is rounded to a number. -/
theorem ofRatio_ne_nan (negative : Bool) (num den : Nat) : ofRatio negative num den ≠ .nan := by
  rw [ofRatio, ofUnits]
  split <;> exact Double.noConfusion

/-- A quotient of less than half the smallest double is zero. -/
theorem ofRatio_of_tiny (negative : Bool) {num den : Nat} (h : 2 * (num * one) < den) :
    ofRatio negative num den = .zero negative := by
  rw [ofRatio, round_eq_zero h, ofUnits, dif_pos (represents_zero double)]
  rfl

end Double

end RuleFilter
