import RuleFilter.Proofs.Double.Rounding

set_option autoImplicit false

/-! # The order of doubles

Every double but the NaN has a rank, and comparing doubles is comparing their ranks
(`Double.compare_of_rank`). The whole part of a double is a double again: what is left when the
fraction is dropped lies on a grid that is no finer than it has to be
(`BinaryFormat.represents_whole`). So dropping fractions is division of ranks (`Double.rank_trunc`),
and it never turns an order round (`Double.wholeRank_mono`). -/

namespace RuleFilter

namespace BinaryFormat

theorem two_pow_dvd_two_pow {k l : Nat} (h : k ≤ l) : Nat.pow 2 k ∣ Nat.pow 2 l :=
  Nat.pow_dvd_pow 2 h

theorem one_dvd_two_pow {k : Nat} (h : 1074 ≤ k) : Double.one ∣ Nat.pow 2 k := by
  unfold Double.one
  generalize 1074 = e at h ⊢
  exact two_pow_dvd_two_pow h

theorem two_pow_dvd_one {k : Nat} (h : k ≤ 1074) : Nat.pow 2 k ∣ Double.one := by
  unfold Double.one
  generalize 1074 = e at h ⊢
  exact two_pow_dvd_two_pow h

theorem spacing_mono (f : BinaryFormat) {m n : Nat} (h : m ≤ n) : f.spacing m ≤ f.spacing n := by
  have hlog : m.log2 ≤ n.log2 := by
    by_cases hm : m = 0
    · rw [hm, Nat.log2_zero]
      exact Nat.zero_le _
    · have hn : n ≠ 0 := fun hn => hm (Nat.eq_zero_of_le_zero (hn ▸ h))
      exact (Nat.le_log2 hn).2 (Nat.le_trans (Nat.log2_self_le hm) h)
  simp only [spacing]
  omega

/-- The whole part of a magnitude is a magnitude. -/
theorem represents_whole {units : Nat} (h : double.Represents units) :
    double.Represents (units / Double.one * Double.one) := by
  have hle : units / Double.one * Double.one ≤ units := Nat.div_mul_le_self _ _
  refine ⟨Nat.lt_of_le_of_lt hle h.1, Nat.mod_eq_zero_of_dvd ?_⟩
  by_cases hspacing : double.spacing units ≤ 1074
  · -- where steps are parts of one, a multiple of one is a number of steps
    have hfiner : double.spacing (units / Double.one * Double.one) ≤ 1074 :=
      Nat.le_trans (double.spacing_mono hle) hspacing
    exact Nat.dvd_trans (two_pow_dvd_one hfiner) (Nat.dvd_mul_left _ _)
  · -- and where they are larger there is no fraction to drop
    have hdvd : Nat.pow 2 (double.spacing units) ∣ units := Nat.dvd_of_mod_eq_zero h.2
    have hone : Double.one ∣ Nat.pow 2 (double.spacing units) := one_dvd_two_pow (by omega)
    rw [Nat.div_mul_cancel (Nat.dvd_trans hone hdvd)]
    exact hdvd

end BinaryFormat

namespace Double

variable {x y : Double} {a b : Int}

/-! ## Ranks -/

theorem rank_eq_none_iff : x.rank = none ↔ x = .nan := by
  constructor
  · intro h
    cases x with
    | nan => rfl
    | infinity negative => cases negative <;> cases h
    | finite negative m => cases negative <;> cases h
  · rintro rfl
    rfl

theorem ofNat_ne_nan (n : Nat) : ofNat n ≠ .nan := by
  rw [ofNat]
  exact ofRatio_ne_nan _ _ _

theorem ofInt_ne_nan (n : Int) : ofInt n ≠ .nan := by
  rw [ofInt]
  exact ofRatio_ne_nan _ _ _

theorem exists_rank (h : x ≠ .nan) : ∃ a, x.rank = some a :=
  Option.ne_none_iff_exists'.1 fun hnone => h (rank_eq_none_iff.1 hnone)

theorem compare_of_rank (hx : x.rank = some a) (hy : y.rank = some b) :
    x.compare y = some (Ord.compare a b) := by
  rw [compare, hx, hy]

theorem compare_nan (x : Double) : x.compare .nan = none := by
  unfold compare
  cases x.rank <;> rfl

/-- One double is at most another when both have ranks and these are in order. -/
theorem le_iff_rank :
    x.le y = true ↔ ∃ a b, x.rank = some a ∧ y.rank = some b ∧ a ≤ b := by
  unfold le lt eq compare
  cases x.rank with
  | none => simp
  | some a =>
      cases y.rank with
      | none => simp
      | some b => simp [Int.compare_eq_lt, Int.le_iff_lt_or_eq]

theorem rank_le_of_le (h : x.le y = true) (hx : x.rank = some a) (hy : y.rank = some b) :
    a ≤ b := by
  obtain ⟨a', b', ha, hb, hle⟩ := le_iff_rank.1 h
  cases ha.symm.trans hx
  cases hb.symm.trans hy
  exact hle

theorem lt_iff_rank (hx : x.rank = some a) (hy : y.rank = some b) : x.lt y = true ↔ a < b := by
  rw [lt, compare_of_rank hx hy, beq_iff_eq, Option.some.injEq, Int.compare_eq_lt]

theorem eq_iff_rank (hx : x.rank = some a) (hy : y.rank = some b) : x.eq y = true ↔ a = b := by
  rw [eq, compare_of_rank hx hy, beq_iff_eq, Option.some.injEq, Int.compare_eq_eq]

/-! ## Whole parts -/

/-- The rank of the whole part. -/
def wholeRank (a : Int) : Int := a.tdiv one * one

theorem wholeRank_natCast (n : Nat) : wholeRank n = ↑(n / one * one) := by
  rw [wholeRank, ← Int.ofNat_tdiv, Int.natCast_mul]

theorem wholeRank_neg (a : Int) : wholeRank (-a) = -wholeRank a := by
  rw [wholeRank, Int.neg_tdiv, Int.neg_mul, wholeRank]

theorem wholeRank_mono (h : a ≤ b) : wholeRank a ≤ wholeRank b := by
  have hone : (0 : Int) < one := Int.natCast_pos.2 one_pos
  exact Int.mul_le_mul_of_nonneg_right (Int.tdiv_le_tdiv hone h) (Int.le_of_lt hone)

/-- An infinity has no fraction. -/
theorem wholeRank_ceiling :
    wholeRank (Nat.pow 2 BinaryFormat.double.ceiling : Nat)
      = (Nat.pow 2 BinaryFormat.double.ceiling : Nat) := by
  have hone : one ∣ Nat.pow 2 BinaryFormat.double.ceiling :=
    BinaryFormat.one_dvd_two_pow (by decide)
  rw [wholeRank_natCast, Nat.div_mul_cancel hone]

/-- **Dropping the fraction is division of ranks.** -/
theorem rank_trunc (x : Double) : x.trunc.rank = x.rank.map wholeRank := by
  cases x with
  | nan => rfl
  | infinity negative =>
      have hsame : (infinity negative).trunc = infinity negative := rfl
      cases negative with
      | false => rw [hsame, rank, Option.map_some, wholeRank_ceiling]
      | true => rw [hsame, rank, Option.map_some, wholeRank_neg, wholeRank_ceiling]
  | finite negative m =>
      rw [trunc, ofUnits, dif_pos (BinaryFormat.represents_whole m.represented)]
      cases negative with
      | false => rw [rank, rank, Option.map_some, wholeRank_natCast]
      | true => rw [rank, rank, Option.map_some, wholeRank_neg, wholeRank_natCast]

end Double

end RuleFilter
