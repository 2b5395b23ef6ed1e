import RuleFilter.Proofs.Double.Monotone
import RuleFilter.Proofs.Matcher.Meaning
import RuleFilter.Proofs.Predicate.Ordering

set_option autoImplicit false

/-! # The order of numbers

A number that is no NaN has two places: one among the numbers of its width, which is exact, and that
of its nearest double, which it may share with other integers (`Number.HasPlaces`). Rounding never
turns the order of a width round, so it makes no difference that numbers of one width are compared
by their own places and all others by those of their doubles: every comparison is of the doubles
first, and where these are equal of the own places, if the width is the same
(`Number.HasPlaces.compare_eq`). What follows for two numbers, or for chains of them, is arithmetic
of these places. -/

namespace RuleFilter.Number

/-! ## Widths and places -/

/-- The ways in which a number is held. -/
inductive Width where
  | signed
  | unsigned
  | double
deriving DecidableEq

def width : Number → Width
  | signed _ => .signed
  | unsigned _ => .unsigned
  | double _ => .double

/-- The place of a number among those of its width, and that of its double. -/
inductive HasPlaces : Number → Int → Int → Prop
  | signed {n : Int64} {shared : Int} (h : (Double.ofInt n.toInt).rank = some shared) :
      HasPlaces (signed n) n.toInt shared
  | unsigned {n : UInt64} {shared : Int} (h : (Double.ofInt n.toNat).rank = some shared) :
      HasPlaces (unsigned n) n.toNat shared
  | double {x : Double} {shared : Int} (h : x.rank = some shared) :
      HasPlaces (double x) shared shared

variable {a b c : Number} {x y z u v w : Int}

/-- Natural numbers are compared as the integers they are. -/
theorem compare_natCast (m n : Nat) : Ord.compare (m : Int) n = Ord.compare m n := by
  simp only [Ord.compare, compareOfLessAndEq, Int.ofNat_lt, Int.ofNat_inj]

theorem exists_hasPlaces (h : a ≠ double .nan) : ∃ own shared, a.HasPlaces own shared := by
  obtain ⟨shared, hshared⟩ := Double.exists_rank (toDouble_ne_nan h)
  cases a with
  | signed n => exact ⟨_, shared, .signed hshared⟩
  | unsigned n =>
      rw [toDouble_unsigned] at hshared
      exact ⟨_, shared, .unsigned hshared⟩
  | double x => exact ⟨_, shared, .double hshared⟩

namespace HasPlaces

theorem rank_toDouble (h : a.HasPlaces x u) : a.toDouble.rank = some u := by
  cases h with
  | signed h => exact h
  | unsigned h =>
      rw [toDouble_unsigned]
      exact h
  | double h => exact h

/-- Within a width a number that is not larger has a double that is not larger. -/
theorem shared_le (ha : a.HasPlaces x u) (hb : b.HasPlaces y v) (hwidth : a.width = b.width)
    (h : x ≤ y) : u ≤ v := by
  cases ha with
  | signed hu =>
      cases hb with
      | signed hv => exact Double.rank_le_of_le (Double.ofInt_le_ofInt h) hu hv
      | unsigned | double => cases hwidth
  | unsigned hu =>
      cases hb with
      | unsigned hv => exact Double.rank_le_of_le (Double.ofInt_le_ofInt h) hu hv
      | signed | double => cases hwidth
  | double hu =>
      cases hb with
      | double hv => exact h
      | signed | unsigned => cases hwidth

/-- Numbers of one width are compared by their own places. -/
theorem compare_of_width_eq (ha : a.HasPlaces x u) (hb : b.HasPlaces y v)
    (hwidth : a.width = b.width) : a.compare b = some (Ord.compare x y) := by
  cases ha with
  | signed =>
      cases hb with
      | signed => rfl
      | unsigned | double => cases hwidth
  | unsigned =>
      cases hb with
      | unsigned => exact congrArg some (compare_natCast _ _).symm
      | signed | double => cases hwidth
  | double hu =>
      cases hb with
      | double hv => exact Double.compare_of_rank hu hv
      | signed | unsigned => cases hwidth

end HasPlaces

/-- Numbers of different widths are compared by their doubles. -/
theorem compare_of_width_ne (hwidth : a.width ≠ b.width) :
    a.compare b = a.toDouble.compare b.toDouble := by
  cases a with
  | signed m =>
      cases b with
      | signed n => exact absurd rfl hwidth
      | unsigned n | double y => rfl
  | unsigned m =>
      cases b with
      | unsigned n => exact absurd rfl hwidth
      | signed n | double y => rfl
  | double x => cases b <;> rfl

namespace HasPlaces

/-- **Numbers are compared by their doubles, and those of one width by their own places where the
doubles are equal.** -/
theorem compare_eq (ha : a.HasPlaces x u) (hb : b.HasPlaces y v) :
    a.compare b = some ((Ord.compare u v).then
      (if a.width = b.width then Ord.compare x y else .eq)) := by
  by_cases hwidth : a.width = b.width
  · -- doubles that differ lie as the own places do, which rounding cannot have turned round
    rw [if_pos hwidth, ha.compare_of_width_eq hb hwidth]
    rcases Int.lt_trichotomy u v with hlt | heq | hgt
    · have hown : x < y := by
        refine Int.not_le.1 fun hle => ?_
        have := hb.shared_le ha hwidth.symm hle
        omega
      rw [Int.compare_eq_lt.2 hlt, Int.compare_eq_lt.2 hown]
      rfl
    · rw [Int.compare_eq_eq.2 heq, Ordering.eq_then]
    · have hown : y < x := by
        refine Int.not_le.1 fun hle => ?_
        have := ha.shared_le hb hwidth hle
        omega
      rw [Int.compare_eq_gt.2 hgt, Int.compare_eq_gt.2 hown]
      rfl
  · rw [if_neg hwidth, Ordering.then_eq, compare_of_width_ne hwidth,
      Double.compare_of_rank ha.rank_toDouble hb.rank_toDouble]

theorem compare_eq_lt_iff (ha : a.HasPlaces x u) (hb : b.HasPlaces y v) :
    a.compare b = some .lt ↔ u < v ∨ u = v ∧ a.width = b.width ∧ x < y := by
  rw [ha.compare_eq hb, Option.some.injEq, Ordering.then_eq_lt, Int.compare_eq_lt,
    Int.compare_eq_eq]
  by_cases hwidth : a.width = b.width <;> simp [hwidth, Int.compare_eq_lt]

theorem compare_eq_eq_iff (ha : a.HasPlaces x u) (hb : b.HasPlaces y v) :
    a.compare b = some .eq ↔ u = v ∧ (a.width = b.width → x = y) := by
  rw [ha.compare_eq hb, Option.some.injEq, Ordering.then_eq_eq, Int.compare_eq_eq]
  by_cases hwidth : a.width = b.width <;> simp [hwidth]

theorem lt_iff (ha : a.HasPlaces x u) (hb : b.HasPlaces y v) :
    a.lt b = true ↔ u < v ∨ u = v ∧ a.width = b.width ∧ x < y := by
  rw [lt, beq_iff_eq, ha.compare_eq_lt_iff hb]

theorem le_iff (ha : a.HasPlaces x u) (hb : b.HasPlaces y v) :
    a.le b = true ↔ u < v ∨ u = v ∧ (a.width = b.width → x ≤ y) := by
  rw [le, Bool.or_eq_true, ha.lt_iff hb, beq_iff_eq, ha.compare_eq_eq_iff hb]
  by_cases hwidth : a.width = b.width
  · simp only [hwidth, true_and, forall_const]
    omega
  · simp [hwidth]

end HasPlaces

/-! ## Laws of the order -/

/-- Only a NaN is comparable to nothing. -/
theorem compare_eq_none_iff :
    a.compare b = none ↔ a = double .nan ∨ b = double .nan := by
  constructor
  · intro h
    by_cases ha : a = double .nan
    · exact .inl ha
    · by_cases hb : b = double .nan
      · exact .inr hb
      · obtain ⟨x, u, ha⟩ := exists_hasPlaces ha
        obtain ⟨y, v, hb⟩ := exists_hasPlaces hb
        rw [ha.compare_eq hb] at h
        cases h
  · rintro (rfl | rfl)
    · cases b <;> rfl
    · have hdouble : a.compare (double .nan) = a.toDouble.compare .nan := by cases a <;> rfl
      rw [hdouble, Double.compare_nan]

/-- Numbers that are compared have their places. -/
theorem exists_hasPlaces_of_compare {o : Ordering} (h : a.compare b = some o) :
    (∃ x u, a.HasPlaces x u) ∧ ∃ y v, b.HasPlaces y v := by
  have hsome : ¬ (a = double .nan ∨ b = double .nan) := by
    rw [← compare_eq_none_iff, h]
    exact Option.some_ne_none o
  rw [not_or] at hsome
  exact ⟨exists_hasPlaces hsome.1, exists_hasPlaces hsome.2⟩

theorem compare_swap (a b : Number) : b.compare a = (a.compare b).map Ordering.swap := by
  cases h : a.compare b with
  | none => exact compare_eq_none_iff.2 (compare_eq_none_iff.1 h).symm
  | some o =>
      obtain ⟨⟨x, u, ha⟩, y, v, hb⟩ := exists_hasPlaces_of_compare h
      rw [ha.compare_eq hb, Option.some.injEq] at h
      rw [hb.compare_eq ha, ← h, Option.map_some, Ordering.swap_then, Int.compare_swap]
      by_cases hwidth : a.width = b.width
      · rw [if_pos hwidth, if_pos hwidth.symm, Int.compare_swap]
      · rw [if_neg hwidth, if_neg fun heq => hwidth heq.symm, Ordering.swap]

/-- What is smaller as a double is smaller. -/
theorem compare_eq_lt_of_toDouble_lt (h : a.toDouble.lt b.toDouble = true) :
    a.compare b = some .lt := by
  have hcompare : a.toDouble.compare b.toDouble = some .lt := by
    rwa [Double.lt, beq_iff_eq] at h
  have ha : a ≠ double .nan := by
    rintro rfl
    cases hcompare
  have hb : b ≠ double .nan := by
    rintro rfl
    cases (Double.compare_nan _).symm.trans hcompare
  obtain ⟨x, u, ha⟩ := exists_hasPlaces ha
  obtain ⟨y, v, hb⟩ := exists_hasPlaces hb
  rw [ha.compare_eq_lt_iff hb, ← Double.lt_iff_rank ha.rank_toDouble hb.rank_toDouble]
  exact .inl h

/-- What is smaller is not larger as a double. -/
theorem toDouble_not_lt_of_compare_eq_lt (h : a.compare b = some .lt) :
    b.toDouble.lt a.toDouble = false := by
  obtain ⟨⟨x, u, ha⟩, y, v, hb⟩ := exists_hasPlaces_of_compare h
  rw [ha.compare_eq_lt_iff hb] at h
  rw [← Bool.not_eq_true, Double.lt_iff_rank hb.rank_toDouble ha.rank_toDouble]
  omega

theorem lt_eq_true_iff : a.lt b = true ↔ a.compare b = some .lt := by
  rw [lt, beq_iff_eq]

theorem lt_irrefl (a : Number) : a.lt a = false := by
  rw [← Bool.not_eq_true, lt_eq_true_iff]
  intro h
  obtain ⟨⟨x, u, ha⟩, -⟩ := exists_hasPlaces_of_compare h
  rw [ha.compare_eq_lt_iff ha] at h
  omega

/-- Doubles in a chain never go down, and where they are all equal the chain stays in one width. -/
theorem lt_trans (hab : a.lt b = true) (hbc : b.lt c = true) : a.lt c = true := by
  obtain ⟨⟨x, u, ha⟩, y, v, hb⟩ := exists_hasPlaces_of_compare (lt_eq_true_iff.1 hab)
  obtain ⟨-, z, w, hc⟩ := exists_hasPlaces_of_compare (lt_eq_true_iff.1 hbc)
  rw [ha.lt_iff hb] at hab
  rw [hb.lt_iff hc] at hbc
  rw [ha.lt_iff hc]
  rcases hab with hlt | ⟨hshared, hwidth, hown⟩
  · exact .inl (by omega)
  · rcases hbc with hlt' | ⟨hshared', hwidth', hown'⟩
    · exact .inl (by omega)
    · exact .inr ⟨hshared.trans hshared', hwidth.trans hwidth', Int.lt_trans hown hown'⟩

/-- A rule asks whether its candidate is smaller as a double than the reference. -/
theorem outcome_less {field : String} {source : Option String} {root : Value}
    (h : FieldPath.resolve ⟨field⟩ source root = .ok (some (.number a))) (b : Number) :
    (Rule.ofOperator field .less (.ofNumber b)).outcome source root
      = .ok (a.toDouble.lt b.toDouble) := by
  have hanswer := Predicate.answer_orderTest_tag .less b.toDouble (.number a)
  have horder : (Value.number a).orderTo b.toDouble = a.toDouble.compare b.toDouble := rfl
  rw [horder] at hanswer
  rw [Rule.outcome_of_resolve h, Double.lt]
  refine hanswer.trans ?_
  cases a.toDouble.compare b.toDouble with
  | none => rfl
  | some o => cases o <;> rfl

/-- **The order of numbers and that of their doubles never contradict each other.** Only a NaN is
comparable to nothing, and numbers the other way round are compared the other way round. What is
smaller as a double is smaller, so also what a rule with the one number accepts of the other, and
what is smaller is not larger as a double. Being smaller is therefore a strict order over all
widths. -/
theorem orders_never_contradict :
    (∀ a b : Number,
      (a.compare b = none ↔ a = double .nan ∨ b = double .nan)
      ∧ b.compare a = (a.compare b).map Ordering.swap
      ∧ (a.toDouble.lt b.toDouble = true → a.compare b = some .lt)
      ∧ (a.compare b = some .lt → b.toDouble.lt a.toDouble = false)
      ∧ ∀ (field : String) (source : Option String) (root : Value),
          FieldPath.resolve ⟨field⟩ source root = .ok (some (.number a)) →
          (Rule.ofOperator field .less (.ofNumber b)).outcome source root = .ok true →
          a.compare b = some .lt)
    ∧ (∀ a : Number, a.lt a = false)
    ∧ ∀ a b c : Number, a.lt b = true → b.lt c = true → a.lt c = true := by
  refine ⟨fun a b => ⟨compare_eq_none_iff, compare_swap a b, compare_eq_lt_of_toDouble_lt,
    toDouble_not_lt_of_compare_eq_lt, ?_⟩, lt_irrefl, fun a b c => lt_trans⟩
  intro field source root hfound hrule
  rw [outcome_less hfound, Except.ok.injEq] at hrule
  exact compare_eq_lt_of_toDouble_lt hrule

/-- Neighbours in one width that have the same double, and the next double, which both are below;
the rule sees only the double of its candidate. -/
theorem orders_never_contradict_beyond_precision :
    let largest : Number := .unsigned 18446744073709551615
    let before : Number := .unsigned 18446744073709551614
    let half : Number := .signed 9223372036854775807
    let beyond : Number := .double (Double.ofNat 36893488147419103232)
    before.compare largest = some .lt ∧ largest.toDouble.lt before.toDouble = false
      ∧ largest.compare before = some .gt
      ∧ half.compare before = some .lt ∧ half.lt largest = true ∧ before.lt beyond = true
      ∧ (Rule.ofOperator "n" .less (.ofNumber beyond)).outcome none (.map [("n", .number largest)])
          = .ok true
      ∧ largest.compare beyond = some .lt := by
  intro largest before half beyond
  obtain ⟨hpairs, -, hchains⟩ := orders_never_contradict
  have hnext : before.compare largest = some .lt := by decide
  have hhalf : half.toDouble.lt before.toDouble = true := by decide +kernel
  have hlast : largest.toDouble.lt beyond.toDouble = true := by decide +kernel
  have hrule : (Rule.ofOperator "n" .less (.ofNumber beyond)).outcome none
      (.map [("n", .number largest)]) = .ok true := by decide +kernel
  obtain ⟨-, hswap, -, hdouble, -⟩ := hpairs before largest
  obtain ⟨-, -, hsmaller, -⟩ := hpairs half before
  obtain ⟨-, -, -, -, haccepts⟩ := hpairs largest beyond
  have hbeyond := haccepts "n" none _ rfl hrule
  rw [hnext] at hswap
  exact ⟨hnext, hdouble hnext, hswap, hsmaller hhalf,
    hchains half before largest (lt_eq_true_iff.2 (hsmaller hhalf)) (lt_eq_true_iff.2 hnext),
    hchains before largest beyond (lt_eq_true_iff.2 hnext) (lt_eq_true_iff.2 hbeyond), hrule,
    hbeyond⟩

end RuleFilter.Number
