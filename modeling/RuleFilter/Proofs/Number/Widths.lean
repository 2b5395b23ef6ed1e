import RuleFilter.Proofs.Number.Order

set_option autoImplicit false

/-! # What widths do to equality and order

Two integers of one width that have the same double are different, and a number of another width
that has this double compares equal to both. Such a number bridges them (`Number.Bridges`), and
nothing else breaks a chain of comparisons: otherwise `≤` is transitive
(`Number.le_trans_iff_not_bridges`). Equality does not look across widths at all, so it misses every
pair of them that compares equal, and within a width it is what the order says
(`Number.equality_follows_order_iff`). -/

namespace RuleFilter.Number

variable {a b c : Number} {x y z u v w : Int}

theorem HasPlaces.eq_toDouble_iff (ha : a.HasPlaces x u) (hb : b.HasPlaces y v) :
    a.toDouble.eq b.toDouble = true ↔ u = v :=
  Double.eq_iff_rank ha.rank_toDouble hb.rank_toDouble

/-! ## Chains -/

/-- The number is of another width than two of one width, the first of which is the larger, and all
three have the same double. -/
structure Bridges (b a c : Number) : Prop where
  oneWidth : a.width = c.width
  otherWidth : b.width ≠ a.width
  larger : c.lt a = true
  before : a.toDouble.eq b.toDouble = true
  behind : b.toDouble.eq c.toDouble = true

theorem exists_hasPlaces_of_le (h : a.le b = true) :
    (∃ x u, a.HasPlaces x u) ∧ ∃ y v, b.HasPlaces y v := by
  rw [le, Bool.or_eq_true, lt, beq_iff_eq, beq_iff_eq] at h
  rcases h with h | h <;> exact exists_hasPlaces_of_compare h

/-- A bridge leads up from the larger number to the smaller. -/
theorem Bridges.breaks (h : b.Bridges a c) :
    a.le b = true ∧ b.le c = true ∧ a.le c = false := by
  obtain ⟨⟨z, w, hc⟩, x, u, ha⟩ := exists_hasPlaces_of_compare (lt_eq_true_iff.1 h.larger)
  have hb : b ≠ double .nan := by
    rintro rfl
    cases h.behind
  obtain ⟨y, v, hb⟩ := exists_hasPlaces hb
  have hbefore := (ha.eq_toDouble_iff hb).1 h.before
  have hbehind := (hb.eq_toDouble_iff hc).1 h.behind
  have hlarger := (hc.lt_iff ha).1 h.larger
  refine ⟨?_, ?_, ?_⟩
  · exact (ha.le_iff hb).2 (.inr ⟨hbefore, fun hwidth => absurd hwidth.symm h.otherWidth⟩)
  · exact (hb.le_iff hc).2
      (.inr ⟨hbehind, fun hwidth => absurd (hwidth.trans h.oneWidth.symm) h.otherWidth⟩)
  · rw [← Bool.not_eq_true, ha.le_iff hc]
    rintro (hlt | ⟨-, hown⟩)
    · omega
    · have := hown h.oneWidth
      omega

/-- Only a bridge breaks a chain. -/
theorem bridges_of_breaks (hab : a.le b = true) (hbc : b.le c = true) (hac : a.le c = false) :
    b.Bridges a c := by
  obtain ⟨⟨x, u, ha⟩, y, v, hb⟩ := exists_hasPlaces_of_le hab
  obtain ⟨-, z, w, hc⟩ := exists_hasPlaces_of_le hbc
  rw [ha.le_iff hb] at hab
  rw [hb.le_iff hc] at hbc
  rw [← Bool.not_eq_true, ha.le_iff hc, not_or, not_and] at hac
  obtain ⟨hnotBelow, hnotEqual⟩ := hac
  -- the doubles do not go down, so they are all the same
  have hbefore : u = v := by omega
  have hbehind : v = w := by omega
  have hends := hnotEqual (hbefore.trans hbehind)
  rw [Classical.not_imp] at hends
  obtain ⟨hwidth, hown⟩ := hends
  refine ⟨hwidth, fun hone => ?_, ?_, (ha.eq_toDouble_iff hb).2 hbefore,
    (hb.eq_toDouble_iff hc).2 hbehind⟩
  · -- in one width the chain is one of integers
    have hxy : x ≤ y := by
      rcases hab with hlt | ⟨-, h⟩
      · omega
      · exact h hone.symm
    have hyz : y ≤ z := by
      rcases hbc with hlt | ⟨-, h⟩
      · omega
      · exact h (hone.trans hwidth)
    omega
  · exact (hc.lt_iff ha).2 (.inr ⟨by omega, hwidth.symm, by omega⟩)

/-- **A chain of comparisons holds unless its middle is a bridge.** -/
theorem le_trans_iff_not_bridges (a b c : Number) :
    (a.le b = true → b.le c = true → a.le c = true) ↔ ¬ b.Bridges a c := by
  constructor
  · intro htrans hbridge
    obtain ⟨hab, hbc, hac⟩ := hbridge.breaks
    rw [htrans hab hbc] at hac
    cases hac
  · intro hnone hab hbc
    cases hac : a.le c with
    | true => rfl
    | false => exact absurd (bridges_of_breaks hab hbc hac) hnone

/-- The first integer that has no double of its own, and the one before it, whose double it has. -/
theorem le_not_transitive_beyond_precision :
    let a : Number := .signed 9007199254740993
    let b : Number := .double (Double.ofNat 9007199254740992)
    let c : Number := .signed 9007199254740992
    a.le b = true ∧ b.le c = true ∧ a.le c = false := by
  decide +kernel

/-! ## Equality -/

/-- **Numbers are equal when they compare equal and are of one width.** -/
theorem beq_iff_width_and_compare :
    (a == b) = true ↔ a.width = b.width ∧ a.compare b = some .eq := by
  cases a with
  | signed m =>
      cases b with
      | signed n =>
          show (m == n) = true ↔ _ ∧ some (Ord.compare m.toInt n.toInt) = _
          rw [beq_iff_eq, Option.some.injEq, Int.compare_eq_eq, Int64.toInt_inj]
          exact (and_iff_right rfl).symm
      | unsigned | double => exact ⟨nofun, fun h => nomatch h.1⟩
  | unsigned m =>
      cases b with
      | unsigned n =>
          show (m == n) = true ↔ _ ∧ some (Ord.compare m.toNat n.toNat) = _
          rw [beq_iff_eq, Option.some.injEq, Nat.compare_eq_eq, UInt64.toNat_inj]
          exact (and_iff_right rfl).symm
      | signed | double => exact ⟨nofun, fun h => nomatch h.1⟩
  | double p =>
      cases b with
      | double q =>
          show (p.compare q == some .eq) = true ↔ _ ∧ p.compare q = some .eq
          rw [beq_iff_eq]
          exact (and_iff_right rfl).symm
      | signed | unsigned => exact ⟨nofun, fun h => nomatch h.1⟩

theorem beq_symm (h : (a == b) = true) : (b == a) = true := by
  rw [beq_iff_width_and_compare] at h ⊢
  rw [compare_swap, h.2]
  exact ⟨h.1.symm, rfl⟩

theorem beq_trans (hab : (a == b) = true) (hbc : (b == c) = true) : (a == c) = true := by
  rw [beq_iff_width_and_compare] at hab hbc ⊢
  obtain ⟨⟨x, u, ha⟩, y, v, hb⟩ := exists_hasPlaces_of_compare hab.2
  obtain ⟨-, z, w, hc⟩ := exists_hasPlaces_of_compare hbc.2
  obtain ⟨hshared, hown⟩ := (ha.compare_eq_eq_iff hb).1 hab.2
  obtain ⟨hshared', hown'⟩ := (hb.compare_eq_eq_iff hc).1 hbc.2
  refine ⟨hab.1.trans hbc.1, (ha.compare_eq_eq_iff hc).2 ⟨hshared.trans hshared', fun _ => ?_⟩⟩
  exact (hown hab.1).trans (hown' hbc.1)

/-- Only a NaN is not equal to itself. -/
theorem beq_self_iff : (a == a) = true ↔ a ≠ double .nan := by
  rw [beq_iff_width_and_compare]
  constructor
  · rintro ⟨-, h⟩ rfl
    cases h
  · intro h
    obtain ⟨x, u, ha⟩ := exists_hasPlaces h
    exact ⟨rfl, (ha.compare_eq_eq_iff ha).2 ⟨rfl, fun _ => rfl⟩⟩

theorem toDouble_eq_of_beq (h : (a == b) = true) : a.toDouble.eq b.toDouble = true := by
  rw [beq_iff_width_and_compare] at h
  obtain ⟨⟨x, u, ha⟩, y, v, hb⟩ := exists_hasPlaces_of_compare h.2
  exact (ha.eq_toDouble_iff hb).2 ((ha.compare_eq_eq_iff hb).1 h.2).1

/-- **Equality says what the order says, unless numbers of different widths have equal doubles.** Of
these it says nothing, and within a width it is the order. -/
theorem equality_follows_order_iff (a b : Number) :
    ((a == b) = true ↔ a.width = b.width ∧ a.compare b = some .eq)
      ∧ (((a == b) = true ↔ a.compare b = some .eq)
          ↔ a.width = b.width ∨ a.toDouble.eq b.toDouble = false) := by
  refine ⟨beq_iff_width_and_compare, ?_⟩
  rw [beq_iff_width_and_compare]
  by_cases hwidth : a.width = b.width
  · simp [hwidth]
  · rw [compare_of_width_ne hwidth, Double.eq]
    simp [hwidth]

/-- Five as an integer and as a double compare equal, and are not equal. -/
theorem not_equal_to_same_double :
    let a : Number := .signed 5
    let b : Number := .double (Double.ofNat 5)
    a.compare b = some .eq ∧ (a == b) = false := by
  decide +kernel

end RuleFilter.Number
