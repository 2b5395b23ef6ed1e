import RuleFilter.Proofs.Predicate.Construction

set_option autoImplicit false

/-! # What predicates answer

Of a predicate only its tests of texts can fail, and they fail in one way: the candidate is
something else than a text, and is not nil either (`Predicate.test_eq_error_iff`). A negation hands
every failure on as it is. What the rule of a tag answers is `Predicate.answer`, and the negated tag
answers the opposite (`Predicate.answer_negatedTag`). -/

namespace RuleFilter

/-- The operator tests texts, and has no answer for candidates of other kinds. -/
def Operator.TestsText (op : Operator) : Prop := ∃ test : TextTest, op = test.operator

/-- The operators that have an answer for every candidate. -/
theorem Operator.not_testsText {op : Operator}
    (h : op = .equal ∨ op.isOrdering = true ∨ op = .regexp) : ¬ op.TestsText := by
  rintro ⟨test, rfl⟩
  cases test <;> simp [TextTest.operator, Operator.isOrdering] at h

namespace Predicate

/-- A text test fails on what is neither a text nor nil, and says so of the candidate's kind. -/
theorem text_test_eq_error_iff {test : TextTest} {reference : String} {v : Value} {e : Error} :
    (text test reference).test v = .error e
      ↔ v.kind ≠ .nil ∧ v.kind ≠ .string ∧ e = .notText test.operator v.kind := by
  cases v <;> simp [Predicate.test, Value.kind, eq_comm]

/-- **Only tests of texts fail, and only on what is neither a text nor nil.** The operator that is
named is the one without negation. -/
theorem test_eq_error_iff {p : Predicate} {v : Value} {e : Error} :
    p.test v = .error e ↔ p.operator.TestsText
      ∧ v.kind ≠ .nil ∧ v.kind ≠ .string ∧ e = .notText p.operator v.kind := by
  have hnever {op : Operator} {b : Bool}
      (hop : op = .equal ∨ op.isOrdering = true ∨ op = .regexp) :
      (Except.ok b : Except Error Bool) = .error e
        ↔ op.TestsText ∧ v.kind ≠ .nil ∧ v.kind ≠ .string ∧ e = .notText op v.kind := by
    constructor
    · intro h
      cases h
    · rintro ⟨htests, -⟩
      exact absurd htests (Operator.not_testsText hop)
  induction p with
  | equal r => exact hnever (.inl rfl)
  | order test x => exact hnever (.inr (.inl test.isOrdering_operator))
  | pattern p => exact hnever (.inr (.inr rfl))
  | text test s =>
      rw [text_test_eq_error_iff]
      constructor
      · intro h
        exact ⟨⟨test, rfl⟩, h⟩
      · rintro ⟨-, h⟩
        exact h
  | not inner ih =>
      rw [Predicate.test, Except.map_eq_error_iff]
      exact ih

/-- A predicate that tests no texts has an answer for every value. -/
theorem exists_test_of_not_testsText {p : Predicate} (h : ¬ p.operator.TestsText) (v : Value) :
    ∃ b, p.test v = .ok b := by
  cases htest : p.test v with
  | ok b => exact ⟨b, rfl⟩
  | error e => exact absurd (test_eq_error_iff.1 htest).1 h

/-! ## Answers of tags -/

/-- What the predicate of a tag and a reference says of a value. -/
def answer (tag : String) (r : Reference) (v : Value) : Except Error Bool :=
  (ofTag tag r).bind (·.test v)

variable {negated : Bool} {op : Operator} {r : Reference} {p : Predicate}

theorem ofTag_text_eq_ok_iff :
    ofTag (OperatorTag.text ⟨negated, op⟩) r = .ok p
      ↔ ∃ inner, ofOperator op r = .ok inner ∧ (if negated then not inner else inner) = p := by
  rw [ofTag_text, Except.map_eq_ok_iff]

/-- A negation in front turns the answers round, and leaves the failures as they are. -/
theorem test_of_negated (negated : Bool) (p : Predicate) (v : Value) :
    (if negated then not p else p).test v = (p.test v).map (negated ^^ ·) := by
  cases negated with
  | true => simp [test]
  | false =>
      show p.test v = (p.test v).map (false ^^ ·)
      cases p.test v <;> simp [Except.map]

theorem answer_text (t : OperatorTag) (r : Reference) (v : Value) :
    answer t.text r v
      = (ofOperator t.operator r).bind fun p => (p.test v).map (t.negated ^^ ·) := by
  rw [answer, ofTag_text]
  cases ofOperator t.operator r with
  | error e => rfl
  | ok p => exact test_of_negated t.negated p v

/-- The negated tag answers the opposite, and fails as the plain one does. -/
theorem answer_negatedTag (op : Operator) (r : Reference) (v : Value) :
    answer op.negatedTag r v = (answer op.tag r v).map (!·) := by
  rw [answer, answer, ofTag_negatedTag]
  cases ofTag op.tag r <;> rfl

/-- The predicate of a tag, negated or not, is one of its operator. -/
theorem operator_of_ofTag_text (h : ofTag (OperatorTag.text ⟨negated, op⟩) r = .ok p) :
    p.operator = op := by
  obtain ⟨inner, hinner, rfl⟩ := ofTag_text_eq_ok_iff.1 h
  have hoperator := ((buildsFor_ofOperator op r).operator inner hinner).1
  cases negated <;> exact hoperator

end Predicate

end RuleFilter
