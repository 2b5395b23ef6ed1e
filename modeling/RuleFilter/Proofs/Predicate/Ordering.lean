import RuleFilter.Proofs.Double.Order
import RuleFilter.Proofs.Predicate.Evaluation

set_option autoImplicit false

/-! # The ordering operators are one comparison

A value that can be put in order stands at one place on the line of integers, and a reference is a
threshold on the same line (`Value.StandsAt`). For a number the threshold is the rank of the
reference, for a length that of its whole part; either way a larger reference has a threshold that
is not smaller. The four operators ask where the place lies from the threshold
(`Value.StandsAt.satisfies_iff`), so what they say of one another, and of two references in order,
is arithmetic of integers. Values that cannot be put in order, and the NaN as a reference, have no
such place, and every operator says no. -/

namespace RuleFilter

namespace OrderTest

/-- What the test asks of two integers. -/
def Holds : OrderTest → Int → Int → Prop
  | less, a, b => a < b
  | lessOrEqual, a, b => a ≤ b
  | greater, a, b => b < a
  | greaterOrEqual, a, b => b ≤ a

instance (test : OrderTest) (a b : Int) : Decidable (test.Holds a b) :=
  match test with
  | less => inferInstanceAs (Decidable (a < b))
  | lessOrEqual => inferInstanceAs (Decidable (a ≤ b))
  | greater => inferInstanceAs (Decidable (b < a))
  | greaterOrEqual => inferInstanceAs (Decidable (b ≤ a))

theorem accepts_compare_iff (test : OrderTest) (a b : Int) :
    test.accepts (compare a b) = true ↔ test.Holds a b := by
  cases test with
  | less | greater => simp [accepts, Holds, Int.compare_eq_lt, Int.compare_eq_gt]
  | lessOrEqual | greaterOrEqual =>
      simp only [accepts, Holds, Bool.or_eq_true, beq_iff_eq, Int.compare_eq_lt, Int.compare_eq_gt,
        Int.compare_eq_eq]
      omega

theorem accepts_compare (test : OrderTest) (a b : Int) :
    test.accepts (compare a b) = decide (test.Holds a b) := by
  rw [Bool.eq_iff_iff, accepts_compare_iff, decide_eq_true_iff]

end OrderTest

theorem Number.toDouble_ne_nan {n : Number} (h : n ≠ .double .nan) : n.toDouble ≠ .nan := by
  cases n with
  | signed n =>
      rw [toDouble]
      exact Double.ofInt_ne_nan _
  | unsigned n =>
      rw [toDouble]
      exact Double.ofNat_ne_nan _
  | double x =>
      rintro rfl
      exact h rfl

namespace Value

/-- The value can be put in order: it is a number and not a NaN, or it has a length. -/
def IsOrderable : Value → Prop
  | number n => n ≠ .double .nan
  | string _ | list _ | map _ => True
  | nil | bool _ | record _ _ => False

/-- The order of a value and a number, where there is one. -/
def orderTo (v : Value) (x : Double) : Option Ordering := v.operand?.bind (·.compare x)

/-- The value satisfies what a tag asks with a number as its reference. -/
def Satisfies (v : Value) (tag : String) (x : Double) : Prop :=
  Predicate.answer tag (.number x) v = .ok true

end Value

namespace Predicate

theorem answer_orderTest (test : OrderTest) (negated : Bool) (x : Double) (v : Value) :
    answer (OperatorTag.text ⟨negated, test.operator⟩) (.number x) v
      = .ok (negated ^^ ((v.orderTo x).map test.accepts).getD false) := by
  rw [answer_text, ofOperator_orderTest]
  rfl

theorem answer_orderTest_tag (test : OrderTest) (x : Double) (v : Value) :
    answer test.operator.tag (.number x) v
      = .ok (((v.orderTo x).map test.accepts).getD false) := by
  have hanswer := answer_orderTest test false x v
  rwa [OperatorTag.text, if_neg Bool.false_ne_true, Bool.false_xor] at hanswer

theorem answer_orderTest_negatedTag (test : OrderTest) (x : Double) (v : Value) :
    answer test.operator.negatedTag (.number x) v
      = .ok (!((v.orderTo x).map test.accepts).getD false) := by
  rw [answer_negatedTag, answer_orderTest_tag]
  rfl

end Predicate

namespace Value

open Predicate (answer answer_orderTest answer_orderTest_tag answer_orderTest_negatedTag)

variable {v : Value} {x y : Double} {a b : Int}

/-! ## Places and thresholds -/

/-- The value stands at a place of the line, on which the references are thresholds in order. -/
structure StandsAt (v : Value) (place : Int) (threshold : Int → Int) : Prop where
  mono : ∀ {a b}, a ≤ b → threshold a ≤ threshold b
  order : ∀ {x a}, x.rank = some a → v.orderTo x = some (compare place (threshold a))

/-- A number stands at its rank, and the thresholds are the ranks of the references. -/
theorem standsAt_number {n : Number} {place : Int} (h : n.toDouble.rank = some place) :
    (number n).StandsAt place id where
  mono h := h
  order hx := Double.compare_of_rank h hx

/-- A length stands at its rank among the whole parts of the references. -/
theorem standsAt_length {n : Nat} {place : Int} (hv : v.operand? = some (.length n))
    (h : (Double.ofNat n).rank = some place) : v.StandsAt place Double.wholeRank where
  mono := Double.wholeRank_mono
  order hx := by
    rw [orderTo, hv, Option.bind_some, Operand.compare]
    apply Double.compare_of_rank h
    rw [Double.rank_trunc, hx, Option.map_some]

theorem exists_standsAt (h : v.IsOrderable) : ∃ place threshold, v.StandsAt place threshold := by
  have hlength {n : Nat} (hv : v.operand? = some (.length n)) :
      ∃ place threshold, v.StandsAt place threshold := by
    obtain ⟨place, hplace⟩ := Double.exists_rank (Double.ofNat_ne_nan n)
    exact ⟨place, _, standsAt_length hv hplace⟩
  cases v with
  | number n =>
      obtain ⟨place, hplace⟩ := Double.exists_rank (Number.toDouble_ne_nan h)
      exact ⟨place, _, standsAt_number hplace⟩
  | string s => exact hlength rfl
  | list items => exact hlength rfl
  | map entries => exact hlength rfl
  | nil | bool _ | record _ _ => exact h.elim

/-- A value that cannot be put in order has no order to any reference, and no value has one to a
NaN. -/
theorem orderTo_eq_none (h : ¬ v.IsOrderable ∨ x = .nan) : v.orderTo x = none := by
  rcases h with h | rfl
  · cases v with
    | number n =>
        have hnan : n = .double .nan := Decidable.not_not.1 h
        subst hnan
        rfl
    | string _ | list _ | map _ => exact absurd trivial h
    | nil | bool _ | record _ _ => rfl
  · unfold orderTo
    cases v.operand? with
    | none => rfl
    | some operand =>
        cases operand with
        | number y => exact Double.compare_nan y
        | length n =>
            rw [Option.bind_some, Operand.compare]
            exact Double.compare_nan (Double.ofNat n)

variable {place : Int} {threshold : Int → Int}

/-- **The operators ask where the place lies from the threshold.** -/
theorem StandsAt.satisfies_iff (h : v.StandsAt place threshold) (hx : x.rank = some a)
    (test : OrderTest) :
    v.Satisfies test.operator.tag x ↔ test.Holds place (threshold a) := by
  rw [Satisfies, answer_orderTest_tag, h.order hx, ← test.accepts_compare_iff]
  simp

theorem StandsAt.satisfies_negated_iff (h : v.StandsAt place threshold) (hx : x.rank = some a)
    (test : OrderTest) :
    v.Satisfies test.operator.negatedTag x ↔ ¬ test.Holds place (threshold a) := by
  rw [Satisfies, answer_orderTest_negatedTag, h.order hx, ← test.accepts_compare_iff]
  simp

/-- The four operators, each with what it asks of the place and the threshold. -/
theorem StandsAt.satisfies (h : v.StandsAt place threshold) (hx : x.rank = some a) :
    (v.Satisfies "<" x ↔ place < threshold a) ∧ (v.Satisfies "<=" x ↔ place ≤ threshold a)
      ∧ (v.Satisfies ">" x ↔ threshold a < place) ∧ (v.Satisfies ">=" x ↔ threshold a ≤ place) :=
  ⟨h.satisfies_iff hx .less, h.satisfies_iff hx .lessOrEqual, h.satisfies_iff hx .greater,
    h.satisfies_iff hx .greaterOrEqual⟩

theorem answer_of_orderTo_eq_none (h : v.orderTo x = none) (test : OrderTest) :
    answer test.operator.tag (.number x) v = .ok false := by
  rw [answer_orderTest_tag, h]
  rfl

theorem not_satisfies_of_not_isOrderable (h : ¬ v.IsOrderable) (test : OrderTest) :
    ¬ v.Satisfies test.operator.tag x := by
  intro hsatisfies
  rw [Satisfies, answer_of_orderTo_eq_none (orderTo_eq_none (.inl h))] at hsatisfies
  cases hsatisfies

/-! ## The comparison -/

/-- Exactly one of three holds. -/
def ExactlyOne (p q r : Prop) : Prop := (p ∧ ¬ q ∧ ¬ r) ∨ (¬ p ∧ q ∧ ¬ r) ∨ (¬ p ∧ ¬ q ∧ r)

/-- The operators say of a value and a reference that the value is smaller, or larger, or
neither. -/
structure Compares (v : Value) (x : Double) : Prop where
  exactlyOne : ExactlyOne (v.Satisfies "<" x) (v.Satisfies ">" x)
    (v.Satisfies "<=" x ∧ v.Satisfies ">=" x)
  atMost : v.Satisfies "<=" x ↔ v.Satisfies "!>" x
  atLeast : v.Satisfies ">=" x ↔ v.Satisfies "!<" x

theorem StandsAt.compares (h : v.StandsAt place threshold) (hx : x.rank = some a) :
    v.Compares x := by
  obtain ⟨hless, hatMost, hgreater, hatLeast⟩ := h.satisfies hx
  have hnotGreater : v.Satisfies "!>" x ↔ ¬ threshold a < place :=
    h.satisfies_negated_iff hx .greater
  have hnotLess : v.Satisfies "!<" x ↔ ¬ place < threshold a := h.satisfies_negated_iff hx .less
  refine ⟨?_, ?_, ?_⟩
  · rw [ExactlyOne, hless, hgreater, hatMost, hatLeast]
    omega
  · rw [hatMost, hnotGreater, Int.not_lt]
  · rw [hatLeast, hnotLess, Int.not_lt]

theorem compares (hv : v.IsOrderable) (hx : x ≠ .nan) : v.Compares x := by
  obtain ⟨place, threshold, hstands⟩ := exists_standsAt hv
  obtain ⟨a, ha⟩ := Double.exists_rank hx
  exact hstands.compares ha

/-- Equality with a number is being at most and at least that number. -/
theorem satisfies_equal_iff (n : Number) (x : Double) :
    (number n).Satisfies "==" x ↔ (number n).Satisfies "<=" x ∧ (number n).Satisfies ">=" x := by
  have hequal : answer "==" (.number x) (number n) = .ok ((number n).orderTo x == some .eq) := rfl
  have hatMost := answer_orderTest_tag .lessOrEqual x (number n)
  have hatLeast := answer_orderTest_tag .greaterOrEqual x (number n)
  simp only [OrderTest.operator, Operator.tag] at hatMost hatLeast
  simp only [Satisfies, hequal, hatMost, hatLeast, Except.ok.injEq]
  cases (number n).orderTo x with
  | none => decide
  | some o => cases o <;> decide

/-- What is below a reference is below the larger ones, and what is above it above the smaller
ones. -/
theorem satisfies_of_le (hxy : x.le y = true) :
    (v.Satisfies "<" x → v.Satisfies "<" y) ∧ (v.Satisfies "<=" x → v.Satisfies "<=" y)
      ∧ (v.Satisfies ">" y → v.Satisfies ">" x) ∧ (v.Satisfies ">=" y → v.Satisfies ">=" x) := by
  by_cases hv : v.IsOrderable
  · obtain ⟨a, b, hx, hy, hab⟩ := Double.le_iff_rank.1 hxy
    obtain ⟨place, threshold, hstands⟩ := exists_standsAt hv
    obtain ⟨hless, hatMost, hgreater, hatLeast⟩ := hstands.satisfies hx
    obtain ⟨hless', hatMost', hgreater', hatLeast'⟩ := hstands.satisfies hy
    have hthreshold : threshold a ≤ threshold b := hstands.mono hab
    rw [hless, hless', hatMost, hatMost', hgreater, hgreater', hatLeast, hatLeast']
    omega
  · have hnone {z : Double} := not_satisfies_of_not_isOrderable (x := z) hv
    exact ⟨fun h => absurd h (hnone .less), fun h => absurd h (hnone .lessOrEqual),
      fun h => absurd h (hnone .greater), fun h => absurd h (hnone .greaterOrEqual)⟩

/-- **The ordering operators are one comparison.** No ordering operator ever fails. Values that
cannot be put in order satisfy none of the four, and no value satisfies one with a NaN as its
reference. Otherwise the value is smaller, or larger, or both at most and at least the reference,
and for numbers this last is equality. What is below a reference is below the larger ones, and what
is above it above the smaller ones. -/
theorem ordering_operators_are_one_comparison :
    (∀ (t : OperatorTag) (x : Double) (v : Value), t.operator.isOrdering = true →
        ∃ b, answer t.text (.number x) v = .ok b)
      ∧ (∀ (v : Value) (x : Double), ¬ v.IsOrderable ∨ x = .nan →
          ∀ test : OrderTest, answer test.operator.tag (.number x) v = .ok false)
      ∧ (∀ (v : Value) (x : Double), v.IsOrderable → x ≠ .nan → v.Compares x)
      ∧ (∀ (n : Number) (x : Double), (number n).Satisfies "==" x
          ↔ (number n).Satisfies "<=" x ∧ (number n).Satisfies ">=" x)
      ∧ ∀ (v : Value) (x y : Double), x.le y = true →
          (v.Satisfies "<" x → v.Satisfies "<" y) ∧ (v.Satisfies "<=" x → v.Satisfies "<=" y)
          ∧ (v.Satisfies ">" y → v.Satisfies ">" x)
          ∧ (v.Satisfies ">=" y → v.Satisfies ">=" x) := by
  refine ⟨?_, ?_, ?_, satisfies_equal_iff, ?_⟩
  · rintro ⟨negated, op⟩ x v hop
    obtain ⟨test, rfl⟩ := Operator.exists_orderTest hop
    exact ⟨_, answer_orderTest test negated x v⟩
  · intro v x h test
    exact answer_of_orderTo_eq_none (orderTo_eq_none h) test
  · intro v x hv hx
    exact compares hv hx
  · intro v x y hxy
    exact satisfies_of_le hxy

/-- A letter of two bytes, which is not longer than two and a half; a truth value, a negative number
and a NaN. -/
theorem ordering_operators_are_one_comparison_of_letter :
    (∃ b, answer "!<=" (.number .nan) (bool true) = .ok b)
      ∧ answer "<" (.number (Double.ofNat 2)) (bool true) = .ok false
      ∧ answer ">=" (.number .nan) (string "é") = .ok false
      ∧ (string "é").Compares (Double.ofRatio false 5 2)
      ∧ (number (.signed (-2))).Compares (Double.ofRatio true 5 2)
      ∧ (string "é").Satisfies "<=" (Double.ofRatio false 5 2)
      ∧ (string "é").Satisfies "<=" (Double.ofNat 3) := by
  obtain ⟨hnever, hnone, hcompares, -, hmono⟩ := ordering_operators_are_one_comparison
  have htwo : (string "é").Satisfies "<=" (Double.ofRatio false 5 2) := by
    unfold Satisfies
    decide +kernel
  have hthree : (Double.ofRatio false 5 2).le (Double.ofNat 3) = true := by decide +kernel
  obtain ⟨-, hatMost, -⟩ := hmono (string "é") _ _ hthree
  refine ⟨hnever ⟨true, .lessOrEqual⟩ _ _ rfl, hnone _ _ (.inl id) .less,
    hnone _ _ (.inr rfl) .greaterOrEqual, hcompares _ _ trivial (Double.ofRatio_ne_nan _ _ _),
    hcompares _ _ ?_ (Double.ofRatio_ne_nan _ _ _), htwo, hatMost htwo⟩
  rintro ⟨⟩

end Value

end RuleFilter
