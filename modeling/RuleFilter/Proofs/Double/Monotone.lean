import RuleFilter.Proofs.Double.Integer
import RuleFilter.Proofs.Double.Order

set_option autoImplicit false

/-! # Rounding keeps the order

A larger quotient is never rounded to a smaller magnitude (`BinaryFormat.round_mono`). On one grid
this is so step by step; where the grids differ, the power of two at which the coarser one begins
lies between what the two quotients are rounded to. Integers of either sign therefore have doubles
in their order (`Double.ofInt_le_ofInt`), among which different integers may have the same. -/

namespace RuleFilter

namespace BinaryFormat

theorem nearestEven_mono {m n : Nat} (h : m ≤ n) (den : Nat) :
    nearestEven m den ≤ nearestEven n den := by
  rcases Nat.lt_or_eq_of_le (Nat.div_le_div_right h : m / den ≤ n / den) with hlt | heq
  · calc nearestEven m den ≤ m / den + 1 := nearestEven_le m den
      _ ≤ n / den := hlt
      _ ≤ nearestEven n den := div_le_nearestEven n den
  · -- with one quotient the remainders decide, and a half goes the same way on both sides
    have hm := Nat.div_add_mod m den
    have hn := Nat.div_add_mod n den
    have hrest : m % den ≤ n % den := by
      rw [heq] at hm
      omega
    simp only [nearestEven, heq]
    repeat' split
    all_goals omega

/-- What is rounded lies within the precision of the grid on which it is rounded. -/
theorem round_le_two_pow (num den : Nat) :
    double.round num den ≤ Nat.pow 2 (53 + double.spacing (num / den)) := by
  rw [two_pow_add]
  exact Nat.mul_le_mul_right _ (steps_le_precision num den)

/-- **Rounding keeps the order.** -/
theorem round_mono {m n : Nat} (h : m ≤ n) (den : Nat) :
    double.round m den ≤ double.round n den := by
  have hquot : m / den ≤ n / den := Nat.div_le_div_right h
  rcases Nat.lt_or_eq_of_le (double.spacing_mono hquot) with hcoarser | hsame
  · -- the coarser grid begins at a power of two, which neither quotient is rounded beyond
    have hlog : 53 + double.spacing (m / den) ≤ (n / den).log2 := by
      simp only [spacing, double] at hcoarser ⊢
      omega
    have hpower : Nat.pow 2 (n / den).log2 ≤ n / den := by
      refine Nat.log2_self_le fun hzero => ?_
      rw [hzero, Nat.log2_zero] at hlog
      omega
    calc double.round m den ≤ Nat.pow 2 (53 + double.spacing (m / den)) := round_le_two_pow m den
      _ ≤ Nat.pow 2 (n / den).log2 := Nat.pow_le_pow_right (by decide) hlog
      _ ≤ double.round n den := two_pow_le_round hpower
  · rw [round, round, hsame]
    exact Nat.mul_le_mul_right _ (nearestEven_mono h _)

end BinaryFormat

namespace Double

open BinaryFormat

/-- The units of the double of a quotient; what is out of range has those of an infinity. -/
def unitsOfRatio (num den : Nat) : Nat :=
  min (double.round (num * one) den) (Nat.pow 2 double.ceiling)

theorem unitsOfRatio_mono {m n : Nat} (h : m ≤ n) (den : Nat) :
    unitsOfRatio m den ≤ unitsOfRatio n den := by
  have hround := round_mono (Nat.mul_le_mul_right one h) den
  exact Nat.le_min.2 ⟨Nat.le_trans (Nat.min_le_left _ _) hround, Nat.min_le_right _ _⟩

theorem rank_ofRatio (negative : Bool) (num den : Nat) :
    (ofRatio negative num den).rank
      = some (if negative then -(unitsOfRatio num den : Int) else unitsOfRatio num den) := by
  rw [ofRatio, ofUnits, unitsOfRatio]
  by_cases hrange : double.round (num * one) den < Nat.pow 2 double.ceiling
  · rw [dif_pos (represents_round hrange), Nat.min_eq_left (Nat.le_of_lt hrange)]
    cases negative with
    | false => rw [rank, if_neg Bool.false_ne_true]
    | true => rw [rank, if_pos rfl]
  · rw [dif_neg fun hrep => hrange hrep.1, Nat.min_eq_right (Nat.le_of_not_lt hrange)]
    cases negative with
    | false => rw [rank, if_neg Bool.false_ne_true]
    | true => rw [rank, if_pos rfl]

theorem rank_ofInt (n : Int) :
    (ofInt n).rank
      = some (if n < 0 then -(unitsOfRatio n.natAbs 1 : Int) else unitsOfRatio n.natAbs 1) := by
  rw [ofInt, rank_ofRatio]
  simp only [decide_eq_true_eq]

/-- Integers have doubles in their order. -/
theorem ofInt_le_ofInt {m n : Int} (h : m ≤ n) : (ofInt m).le (ofInt n) = true := by
  refine le_iff_rank.2 ⟨_, _, rank_ofInt m, rank_ofInt n, ?_⟩
  by_cases hm : m < 0
  · by_cases hn : n < 0
    · have hunits : unitsOfRatio n.natAbs 1 ≤ unitsOfRatio m.natAbs 1 :=
        unitsOfRatio_mono (by omega) 1
      rw [if_pos hm, if_pos hn]
      omega
    · rw [if_pos hm, if_neg hn]
      omega
  · have hn : ¬ n < 0 := by omega
    have hunits : unitsOfRatio m.natAbs 1 ≤ unitsOfRatio n.natAbs 1 :=
      unitsOfRatio_mono (by omega) 1
    rw [if_neg hm, if_neg hn]
    omega

end Double

end RuleFilter
