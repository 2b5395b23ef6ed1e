import RuleFilter.Proofs.Predicate.Evaluation

set_option autoImplicit false

/-! # Tests of texts

The tests for parts of a text go through the candidate character by character. What they find is
what can be cut out of it: the reference stands somewhere in the candidate when the candidate is the
reference with something, or nothing, in front and behind (`Text.contains_iff`), and likewise at its
start and at its end. So partial matches that overlap and an empty reference need no rule of their
own.

On candidates that are no texts the operators part ways. The tests of texts say no to nil and refuse
everything else; a pattern says no to everything else; the other operators have an answer for every
kind. -/

namespace RuleFilter

/-! ## Parts of texts -/

namespace Text

variable {s part : String}

/-- The search finds a row of characters wherever it stands. -/
theorem occursIn_iff {part cs : List Char} : occursIn part cs = true ↔ part <:+: cs := by
  induction cs with
  | nil => rw [occursIn, List.isEmpty_iff, List.infix_nil]
  | cons c cs ih =>
      rw [occursIn, Bool.or_eq_true, ih, List.isPrefixOf_iff_prefix, List.infix_cons_iff]

/-- Rows of characters are those of texts. -/
theorem exists_toList_iff {p : List Char → Prop} : (∃ cs, p cs) ↔ ∃ t : String, p t.toList := by
  constructor
  · rintro ⟨cs, h⟩
    refine ⟨String.ofList cs, ?_⟩
    rwa [String.toList_ofList]
  · rintro ⟨t, h⟩
    exact ⟨t.toList, h⟩

theorem contains_iff : contains s part = true ↔ ∃ a b, s = a ++ part ++ b := by
  unfold contains
  rw [occursIn_iff]
  unfold List.IsInfix
  simp only [exists_toList_iff, ← String.toList_append, String.toList_inj, eq_comm]

theorem startsWith_iff : startsWith s part = true ↔ ∃ b, s = part ++ b := by
  unfold startsWith
  rw [List.isPrefixOf_iff_prefix]
  unfold List.IsPrefix
  simp only [exists_toList_iff, ← String.toList_append, String.toList_inj, eq_comm]

theorem endsWith_iff : endsWith s part = true ↔ ∃ a, s = a ++ part := by
  unfold endsWith
  rw [List.isSuffixOf_iff_suffix]
  unfold List.IsSuffix
  simp only [exists_toList_iff, ← String.toList_append, String.toList_inj, eq_comm]

end Text

/-! ## Candidates of every kind -/

namespace Predicate

/-- Every text is a reference for a test of texts. -/
theorem answer_textTest (test : TextTest) (negated : Bool) (reference : String) (v : Value) :
    answer (OperatorTag.text ⟨negated, test.operator⟩) (.string reference) v
      = ((text test reference).test v).map (negated ^^ ·) := by
  rw [answer_text, ofOperator_textTest]
  rfl

/-- Without negation, and of a text. -/
theorem answer_textTest_tag (test : TextTest) (reference s : String) :
    answer test.operator.tag (.string reference) (.string s) = .ok (test.holds s reference) := by
  have hanswer := answer_textTest test false reference (.string s)
  rw [OperatorTag.text, if_neg Bool.false_ne_true] at hanswer
  rw [hanswer]
  simp [Predicate.test, Except.map]

theorem answer_textTest_eq_true_iff (test : TextTest) (reference s : String) :
    answer test.operator.tag (.string reference) (.string s) = .ok true
      ↔ test.holds s reference = true := by
  rw [answer_textTest_tag, Except.ok.injEq]

/-- A pattern finds nothing in what is no text. -/
theorem pattern_test_of_kind_ne {v : Value} (h : v.kind ≠ .string) (p : Pattern) :
    (pattern p).test v = .ok false := by
  cases v with
  | string s => exact absurd rfl h
  | _ => rfl

/-- **The operators on texts look for parts, and refuse what is no text.** `~=`, `^=` and `$=` hold
of a text when it can be cut into the reference and what is in front of and behind it. These and
`=~` say no to nil, which negation turns into yes, and fail on everything else that is no text,
naming the plain operator and the kind; the other operators never fail, and `regexp` says no to all
that is no text. -/
theorem text_operators_look_for_parts :
    (∀ s r : String,
        (answer "~=" (.string r) (.string s) = .ok true ↔ ∃ a b, s = a ++ r ++ b)
        ∧ (answer "^=" (.string r) (.string s) = .ok true ↔ ∃ b, s = r ++ b)
        ∧ (answer "$=" (.string r) (.string s) = .ok true ↔ ∃ a, s = a ++ r))
      ∧ (∀ (test : TextTest) (negated : Bool) (r : String),
          answer (OperatorTag.text ⟨negated, test.operator⟩) (.string r) .nil = .ok negated
          ∧ ∀ v e, answer (OperatorTag.text ⟨negated, test.operator⟩) (.string r) v = .error e
            ↔ v.kind ≠ .nil ∧ v.kind ≠ .string ∧ e = .notText test.operator v.kind)
      ∧ (∀ (negated : Bool) (op : Operator) (r : Reference) (p : Predicate),
          op = .equal ∨ op.isOrdering = true ∨ op = .regexp →
          ofTag (OperatorTag.text ⟨negated, op⟩) r = .ok p → ∀ v, ∃ b, p.test v = .ok b)
      ∧ ∀ (negated : Bool) (r : Reference) (p : Predicate),
          ofTag (OperatorTag.text ⟨negated, .regexp⟩) r = .ok p →
          ∀ v : Value, v.kind ≠ .string → p.test v = .ok negated := by
  refine ⟨fun s r => ⟨?_, ?_, ?_⟩, fun test negated r => ⟨?_, fun v e => ?_⟩, ?_, ?_⟩
  · exact (answer_textTest_eq_true_iff .contains r s).trans Text.contains_iff
  · exact (answer_textTest_eq_true_iff .startsWith r s).trans Text.startsWith_iff
  · exact (answer_textTest_eq_true_iff .endsWith r s).trans Text.endsWith_iff
  · rw [answer_textTest]
    exact congrArg Except.ok (Bool.xor_false negated)
  · rw [answer_textTest, Except.map_eq_error_iff, text_test_eq_error_iff]
  · intro negated op r p hop hp
    apply exists_test_of_not_testsText
    rw [operator_of_ofTag_text hp]
    exact Operator.not_testsText hop
  · intro negated r p hp v hv
    obtain ⟨inner, hinner, rfl⟩ := ofTag_text_eq_ok_iff.1 hp
    rw [ofOperator_regexp] at hinner
    obtain ⟨q, -, rfl⟩ := Except.map_eq_ok_iff.1 hinner
    rw [test_of_negated, pattern_test_of_kind_ne hv]
    exact congrArg Except.ok (Bool.xor_false negated)

/-- A word with letters of several bytes, a negated test of a truth value, and patterns asked about
a number. -/
theorem text_operators_look_for_parts_of_word :
    answer "~=" (.string "ód") (.string "Łódź") = .ok true
      ∧ answer "$=" (.string "Łódź!") (.string "Łódź") ≠ .ok true
      ∧ answer "!^=" (.string "") .nil = .ok true
      ∧ answer "!^=" (.string "") (.bool true) = .error (.notText .startsWith .bool)
      ∧ ∃ p, ofTag "!regexp" (.string "") = .ok p ∧ (∀ v, ∃ b, p.test v = .ok b)
        ∧ p.test (.number (.signed 1)) = .ok true := by
  obtain ⟨hparts, hrefuse, hnever, hpattern⟩ := text_operators_look_for_parts
  obtain ⟨hcontains, -, -⟩ := hparts "Łódź" "ód"
  obtain ⟨-, -, hends⟩ := hparts "Łódź" "Łódź!"
  obtain ⟨hnil, herror⟩ := hrefuse .startsWith true ""
  have htakes : Operator.regexp.Takes (.string "") := ⟨"", rfl, by decide +kernel⟩
  obtain ⟨p, hp⟩ := exists_ofTag_iff.2 ⟨⟨true, .regexp⟩, rfl, htakes⟩
  refine ⟨hcontains.2 ⟨"Ł", "ź", by decide⟩, fun htrue => ?_, hnil,
    (herror _ _).2 ⟨by decide, by decide, rfl⟩, p, hp, hnever true .regexp _ p (.inr (.inr rfl)) hp,
    hpattern true _ p hp _ (by decide)⟩
  obtain ⟨a, ha⟩ := hends.1 htrue
  have hlength := congrArg String.length ha
  rw [String.length_append] at hlength
  have hlong : "Łódź".length < "Łódź!".length := by decide
  omega

end Predicate

end RuleFilter
