import RuleFilter.Proofs.Double.Integer
import RuleFilter.Proofs.Double.Order

set_option autoImplicit false

/-! # Integers that doubles hold

A double has 53 significant bits, so an integer of at most `2⁵³`, of either sign, is a double itself
(`Double.HasValue`) and is not rounded where it is widened from the width it is held in
(`Number.hasValue_signed`, `Number.hasValue_unsigned`). The two zeros hold the same integer. A
finite double without its fraction is an integer as well, which may be far larger
(`Double.hasValue_trunc`). Comparing such doubles is comparing the integers
(`Double.compare_of_hasValue`). -/

namespace RuleFilter

namespace BinaryFormat

/-- A whole number of at most `2⁵³` lies on the grid of doubles. -/
theorem represents_mul_one {n : Nat} (h : n ≤ Nat.pow 2 53) :
    double.Represents (n * Double.one) := by
  have hlarge : Nat.pow 2 53 * Double.one < Nat.pow 2 double.ceiling := by decide +kernel
  refine ⟨Nat.lt_of_le_of_lt (Nat.mul_le_mul_right _ h) hlarge, Nat.mod_eq_zero_of_dvd ?_⟩
  unfold Double.one
  generalize 1074 = exponent
  exact dvd_of_le_precision h

end BinaryFormat

namespace Double

/-- The double is the integer. -/
def HasValue (x : Double) (k : Int) : Prop := x.rank = some (k * one)

/-- A quotient that is an integer of at most `2⁵³` is kept. -/
theorem hasValue_ofRatio {negative : Bool} {num den : Nat} {k : Int} (hden : 0 < den)
    (hk : k.natAbs ≤ Nat.pow 2 53) (h : (if negative then -(num : Int) else num) = k * den) :
    (ofRatio negative num den).HasValue k := by
  have hnum : num = k.natAbs * den := by
    have habs := congrArg Int.natAbs h
    rw [Int.natAbs_mul, Int.natAbs_natCast] at habs
    rw [← habs]
    cases negative <;> simp
  have hexact : ofRatio negative num den
      = finite negative ⟨k.natAbs * one, BinaryFormat.represents_mul_one hk⟩ := by
    refine ofRatio_of_exact negative _ hden ?_
    rw [hnum, Nat.mul_right_comm]
  have hpos : (0 : Int) < den := Int.natCast_pos.2 hden
  rw [HasValue, hexact]
  -- the sign of the quotient is that of the integer, zero having both
  cases negative with
  | false =>
      have hsign : 0 ≤ k := by
        rw [if_neg Bool.false_ne_true] at h
        exact Int.nonneg_of_mul_nonneg_left (h ▸ Int.natCast_nonneg num) hpos
      rw [rank, Int.natCast_mul, Int.natAbs_of_nonneg hsign]
  | true =>
      have hsign : k ≤ 0 := by
        rw [if_pos rfl] at h
        refine Int.not_lt.1 fun hk => ?_
        have := Int.mul_pos hk hpos
        omega
      rw [rank, Int.natCast_mul, Int.ofNat_natAbs_of_nonpos hsign, Int.neg_mul, Int.neg_neg]

theorem hasValue_ofInt {k : Int} (hk : k.natAbs ≤ Nat.pow 2 53) : (ofInt k).HasValue k := by
  rw [ofInt]
  refine hasValue_ofRatio Nat.one_pos hk ?_
  by_cases hneg : k < 0
  · rw [if_pos (decide_eq_true hneg)]
    omega
  · rw [if_neg (by simpa using hneg)]
    omega

theorem hasValue_ofNat {n : Nat} (hn : n ≤ Nat.pow 2 53) : (ofNat n).HasValue n := by
  rw [← ofInt_natCast]
  exact hasValue_ofInt (by rwa [Int.natAbs_natCast])

theorem hasValue_zero (negative : Bool) : (zero negative).HasValue 0 := by
  rw [HasValue, Int.zero_mul]
  cases negative <;> rfl

variable {x y : Double} {a b : Int}

theorem HasValue.isFinite (h : x.HasValue a) (ha : a.natAbs ≤ Nat.pow 2 53) :
    x.isFinite = true := by
  have hlarge : Nat.pow 2 53 * one < Nat.pow 2 BinaryFormat.double.ceiling := by decide +kernel
  have hbelow : (a * one).natAbs < Nat.pow 2 BinaryFormat.double.ceiling := by
    rw [Int.natAbs_mul, Int.natAbs_natCast]
    exact Nat.lt_of_le_of_lt (Nat.mul_le_mul_right _ ha) hlarge
  cases x with
  | nan => cases h
  | finite negative m => rfl
  | infinity negative =>
      -- the rank of an infinity is larger than that of every such integer
      unfold HasValue at h
      generalize a * (one : Int) = units at hbelow h
      cases negative <;> (simp only [rank, Option.some.injEq] at h; omega)

/-- The integer that is left of a finite double when its fraction is dropped, toward zero. -/
def integerPart : Double → Int
  | finite false m => (m.units / one : Nat)
  | finite true m => -(m.units / one : Nat)
  | _ => 0

/-- Without its fraction a finite double is an integer, however large. -/
theorem hasValue_trunc (h : x.isFinite = true) : x.trunc.HasValue x.integerPart := by
  cases x with
  | nan | infinity _ => cases h
  | finite negative m =>
      rw [HasValue, rank_trunc]
      cases negative with
      | false => rw [rank, Option.map_some, wholeRank, ← Int.ofNat_tdiv, integerPart]
      | true => rw [rank, Option.map_some, wholeRank, Int.neg_tdiv, ← Int.ofNat_tdiv, integerPart]

/-- An infinity lies beyond all that is finite. -/
theorem compare_infinity (h : x.isFinite = true) :
    x.compare (infinity false) = some .lt ∧ x.compare (infinity true) = some .gt := by
  cases x with
  | nan | infinity _ => cases h
  | finite negative m =>
      have hbelow := m.represented.1
      simp only [compare, rank]
      generalize Nat.pow 2 BinaryFormat.double.ceiling = ceiling at hbelow ⊢
      cases negative <;>
        exact ⟨congrArg some (Int.compare_eq_lt.2 (by omega)),
          congrArg some (Int.compare_eq_gt.2 (by omega))⟩

/-- Units are counted alike on both sides of a comparison. -/
theorem compare_mul_one (a b : Int) : Ord.compare (a * one) (b * one) = Ord.compare a b := by
  have hone : (0 : Int) < one := Int.natCast_pos.2 one_pos
  rcases Int.lt_trichotomy a b with hlt | rfl | hgt
  · rw [Int.compare_eq_lt.2 hlt, Int.compare_eq_lt.2 (Int.mul_lt_mul_of_pos_right hlt hone)]
  · rw [Int.compare_eq_eq.2 rfl, Int.compare_eq_eq.2 rfl]
  · rw [Int.compare_eq_gt.2 hgt, Int.compare_eq_gt.2 (Int.mul_lt_mul_of_pos_right hgt hone)]

/-- Comparing doubles that are integers is comparing the integers. -/
theorem compare_of_hasValue (hx : x.HasValue a) (hy : y.HasValue b) :
    x.compare y = some (Ord.compare a b) := by
  rw [compare_of_rank hx hy, compare_mul_one]

end Double

/-! ## Numbers of every width -/

namespace Number

theorem hasValue_signed {n : Int64} (h : n.toInt.natAbs ≤ Nat.pow 2 53) :
    (signed n).toDouble.HasValue n.toInt :=
  Double.hasValue_ofInt h

theorem hasValue_unsigned {n : UInt64} (h : n.toNat ≤ Nat.pow 2 53) :
    (unsigned n).toDouble.HasValue n.toNat :=
  Double.hasValue_ofNat h

/-- The narrowest holder of an integer of at most `2⁵³` is signed. -/
theorem ofInt_eq_signed {k : Int} (hk : k.natAbs ≤ Nat.pow 2 53) :
    ofInt k = signed (.ofInt k) := by
  have hmin : Int64.minValue.toInt = -9223372036854775808 := rfl
  have hmax : Int64.maxValue.toInt = 9223372036854775807 := rfl
  have hlimit : Nat.pow 2 53 = 9007199254740992 := rfl
  rw [ofInt, if_pos (by omega)]

theorem hasValue_ofInt {k : Int} (hk : k.natAbs ≤ Nat.pow 2 53) :
    (ofInt k).toDouble.HasValue k := by
  have hlimit : Nat.pow 2 53 = 9007199254740992 := rfl
  have hvalue : (Int64.ofInt k).toInt = k := Int64.toInt_ofInt_of_le (by omega) (by omega)
  have hsigned := hasValue_signed (n := Int64.ofInt k) (by rwa [hvalue])
  rwa [hvalue, ← ofInt_eq_signed hk] at hsigned

end Number

end RuleFilter
