import RuleFilter.Double.Decimal
import RuleFilter.Proofs.Double.Rounding

set_option autoImplicit false

/-! # Decimals and their doubles

The double of a decimal is that of the quotient it writes (`Decimal.toDouble_eq_ofRatio`): the short
cuts for extreme exponents change nothing. So zeros may be moved between the digits and the exponent
(`Decimal.toDouble_shift`), and the decimal that is looked for to write a double reads back as it
(`Double.shortest_toDouble`). -/

namespace RuleFilter

namespace Double

/-- Equal quotients have equal doubles. -/
theorem ofRatio_congr (negative : Bool) {num den num' den' : Nat} (hden : 0 < den)
    (hden' : 0 < den') (h : num * den' = num' * den) :
    ofRatio negative num den = ofRatio negative num' den' := by
  rw [← ofRatio_mul_right negative num den hden', h, Nat.mul_comm den den',
    ofRatio_mul_right negative num' den' hden]

end Double

namespace Decimal

open Double

theorem ten_pow_pos (k : Nat) : 0 < Nat.pow 10 k := Nat.pow_pos (by decide)

theorem ten_pow_add (k l : Nat) : Nat.pow 10 (k + l) = Nat.pow 10 k * Nat.pow 10 l :=
  Nat.pow_add 10 k l

@[simp] theorem toDouble_zero (negative : Bool) (exponent : Int) :
    (Decimal.mk negative 0 exponent).toDouble = .zero negative := by
  simp [toDouble, rounded]

theorem ten_pow_le_ten_pow {k l : Nat} (h : k ≤ l) : Nat.pow 10 k ≤ Nat.pow 10 l :=
  Nat.pow_le_pow_right (by decide) h

/-- A power of ten from the limit on is beyond every finite double. -/
theorem ofRatio_of_exponentLimit_le (negative : Bool) {digits e : Nat} (hdigits : digits ≠ 0)
    (he : exponentLimit ≤ e) : ofRatio negative (digits * Nat.pow 10 e) 1 = .infinity negative := by
  have hlimit : Nat.pow 2 BinaryFormat.double.ceiling ≤ Nat.pow 10 exponentLimit * one := by
    decide +kernel
  -- the limit is only known by this bound, so that its power is not multiplied out
  generalize exponentLimit = limit at he hlimit
  apply ofRatio_of_huge negative (by decide)
  rw [Nat.mul_one]
  calc Nat.pow 2 BinaryFormat.double.ceiling
      ≤ Nat.pow 10 limit * one := hlimit
    _ ≤ Nat.pow 10 e * one := Nat.mul_le_mul_right _ (ten_pow_le_ten_pow he)
    _ ≤ digits * Nat.pow 10 e * one :=
        Nat.mul_le_mul_right _ (Nat.le_mul_of_pos_left _ (Nat.pos_of_ne_zero hdigits))

/-- A power of ten that takes all digits far behind the point leaves zero. -/
theorem ofRatio_of_le_exponent (negative : Bool) {digits e : Nat}
    (he : exponentLimit + digits.log2 ≤ e) :
    ofRatio negative digits (Nat.pow 10 e) = .zero negative := by
  have hlimit : 4 * one ≤ Nat.pow 10 exponentLimit := by decide +kernel
  have hbelow : digits < 2 * 2 ^ digits.log2 := by
    have := Nat.lt_log2_self (n := digits)
    rwa [Nat.pow_succ, Nat.mul_comm] at this
  generalize exponentLimit = limit at he hlimit
  apply ofRatio_of_tiny negative
  calc 2 * (digits * one)
      < 2 * (2 * 2 ^ digits.log2 * one) :=
        Nat.mul_lt_mul_of_pos_left (Nat.mul_lt_mul_of_pos_right hbelow Double.one_pos) (by decide)
    _ = 4 * one * 2 ^ digits.log2 := by
        rw [Nat.mul_right_comm 2, Nat.mul_assoc 2 one, ← Nat.mul_assoc 2 2, Nat.mul_assoc 4]
    _ ≤ Nat.pow 10 limit * Nat.pow 10 digits.log2 :=
        Nat.mul_le_mul hlimit (Nat.pow_le_pow_left (by decide) _)
    _ = Nat.pow 10 (limit + digits.log2) := (ten_pow_add _ _).symm
    _ ≤ Nat.pow 10 e := ten_pow_le_ten_pow he

/-- The double of a decimal is that of the quotient it writes. -/
theorem toDouble_eq_ofRatio {negative : Bool} {digits : Nat} (hdigits : digits ≠ 0)
    (exponent : Int) :
    (Decimal.mk negative digits exponent).toDouble
      = ofRatio negative (digits * Nat.pow 10 exponent.toNat) (Nat.pow 10 (-exponent).toNat) := by
  simp only [toDouble, rounded, if_neg hdigits]
  cases exponent with
  | ofNat e =>
      have hneg : (-(Int.ofNat e)).toNat = 0 := by simp
      have hone : Nat.pow 10 0 = 1 := rfl
      rw [hneg, hone]
      split
      · next he =>
          exact (ofRatio_of_exponentLimit_le negative hdigits (Int.ofNat_le.1 he)).symm
      · rw [if_neg (by simp only [Int.ofNat_eq_natCast]; omega)]
        rfl
  | negSucc e =>
      have hpos : (Int.negSucc e).toNat = 0 := rfl
      have hneg : (-(Int.negSucc e)).toNat = e + 1 := rfl
      have hone : Nat.pow 10 0 = 1 := rfl
      rw [hpos, hneg, hone, Nat.mul_one, if_neg (by omega)]
      split
      · next he =>
          exact (ofRatio_of_le_exponent negative (by omega)).symm
      · rfl

/-- A decimal without a power of ten is a natural number with a sign. -/
theorem toDouble_natural (negative : Bool) (digits : Nat) :
    (Decimal.mk negative digits 0).toDouble = ofRatio negative digits 1 := by
  by_cases hdigits : digits = 0
  · rw [hdigits, toDouble_zero]
    exact (ofRatio_of_tiny negative (by simp)).symm
  · rw [toDouble_eq_ofRatio hdigits]
    exact congrArg (ofRatio negative · 1) (Nat.mul_one digits)

/-- A decimal stands for a number. -/
theorem toDouble_ne_nan (d : Decimal) : d.toDouble ≠ .nan := by
  obtain ⟨negative, digits, exponent⟩ := d
  by_cases hdigits : digits = 0
  · rw [hdigits, toDouble_zero]
    exact Double.noConfusion
  · rw [toDouble_eq_ofRatio hdigits]
    exact ofRatio_ne_nan _ _ _

/-- Zeros at the end of the digits may stand in the exponent instead. -/
theorem toDouble_shift (negative : Bool) (digits : Nat) (exponent : Int) (k : Nat) :
    (Decimal.mk negative (digits * Nat.pow 10 k) (exponent - k)).toDouble
      = (Decimal.mk negative digits exponent).toDouble := by
  by_cases hdigits : digits = 0
  · rw [hdigits, Nat.zero_mul, toDouble_zero, toDouble_zero]
  · have hshifted : digits * Nat.pow 10 k ≠ 0 :=
      Nat.mul_ne_zero hdigits (Nat.ne_of_gt (ten_pow_pos k))
    rw [toDouble_eq_ofRatio hdigits, toDouble_eq_ofRatio hshifted]
    apply ofRatio_congr negative (ten_pow_pos _) (ten_pow_pos _)
    -- both sides count the same power of ten
    have hpower : k + (exponent - k).toNat + (-exponent).toNat
        = exponent.toNat + (-(exponent - k)).toNat := by omega
    rw [Nat.mul_assoc digits, Nat.mul_assoc digits, Nat.mul_assoc digits, ← ten_pow_add,
      ← ten_pow_add, ← ten_pow_add, hpower]

end Decimal

namespace Double

/-- A count of units is a decimal, since a unit is a power of a half. -/
theorem exactDecimal_toDouble (negative : Bool) {m : Magnitude} (hm : m.units ≠ 0) :
    (exactDecimal negative m).toDouble = .finite negative m := by
  have hpower : Nat.pow 5 1074 * one = Nat.pow 10 1074 := by decide +kernel
  have hexponent : (-1074 : Int) = -(1074 : Nat) := rfl
  rw [exactDecimal, hexponent]
  generalize 1074 = k at hpower ⊢
  have hdigits : m.units * Nat.pow 5 k ≠ 0 :=
    Nat.mul_ne_zero hm (Nat.ne_of_gt (Nat.pow_pos (by decide)))
  have hnum : (-(k : Int)).toNat = 0 := by omega
  have hden : (- -(k : Int)).toNat = k := by omega
  have hone : Nat.pow 10 0 = 1 := rfl
  rw [Decimal.toDouble_eq_ofRatio hdigits, hnum, hden, hone, Nat.mul_one]
  apply ofRatio_of_exact negative m (Decimal.ten_pow_pos k)
  rw [Nat.mul_assoc, hpower]

theorem onGrid_toDouble {tie : Tie} {negative : Bool} {m : Magnitude} {exponent : Int} {d : Decimal}
    (h : onGrid tie negative m exponent = some d) : d.toDouble = .finite negative m := by
  rw [onGrid] at h
  simpa using List.find?_some h

/-- The decimal that writes a double reads back as it. -/
theorem shortest_toDouble (tie : Tie) (negative : Bool) (m : Magnitude) :
    (shortest tie negative m).toDouble = .finite negative m := by
  by_cases hm : m.units = 0
  · rw [shortest, if_pos hm, Decimal.toDouble_zero, zero]
    obtain ⟨units, hrep⟩ := m
    subst hm
    rfl
  · simp only [shortest, if_neg hm]
    cases hfound : (List.range 17).findSome? fun n =>
        onGrid tie negative m (pointPosition m.units - (n + 1 : Nat)) with
    | none => exact exactDecimal_toDouble negative hm
    | some d =>
        obtain ⟨n, _, hn⟩ := List.exists_of_findSome?_eq_some hfound
        exact onGrid_toDouble hn

end Double

end RuleFilter
