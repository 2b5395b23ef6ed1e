import RuleFilter.Proofs.Predicate.Construction
import RuleFilter.Proofs.Processor.Compile

set_option autoImplicit false

/-! # Which rules compile

A rule is accepted when its tag is the text of an operator, negated or not, that takes its reference
(`Rule.Accepted`). Its field plays no part: every text is a path. A rule set compiles when it is not
too large and all of its rules are accepted, and nothing is lost on the way, so that the matcher
counts the rules that were given. -/

namespace RuleFilter

/-- The tag is that of an operator, with one negation in front or none, that takes the reference. -/
def Rule.Accepted (rule : Rule) : Prop :=
  ∃ t : OperatorTag, rule.tag = t.text ∧ t.operator.Takes rule.value

theorem Rule.compiles_iff_accepted (rule : Rule) : rule.Compiles ↔ rule.Accepted := by
  unfold Rule.Compiles Rule.Accepted
  rw [← Predicate.exists_ofTag_iff]
  simp only [Condition.ofRule, Except.map_eq_ok_iff]
  constructor
  · rintro ⟨c, p, hp, -⟩
    exact ⟨p, hp⟩
  · rintro ⟨p, hp⟩
    exact ⟨⟨⟨rule.field⟩, p⟩, p, hp, rfl⟩

theorem Matcher.Realizes.ruleCount_eq {m : Matcher} {p : Processor} {rules : RuleSet}
    (h : m.Realizes p rules) : m.ruleCount = rules.ruleCount := by
  obtain ⟨hgroups, -⟩ := h
  unfold Matcher.ruleCount RuleSet.ruleCount
  generalize m.groups = groups at hgroups
  induction hgroups with
  | nil => rfl
  | cons hgroup _ ih =>
      rw [List.flatten_cons, List.flatten_cons, List.length_append, List.length_append, ih,
        hgroup.length_eq]

namespace Processor

theorem exists_compile_iff {p : Processor} {rules : RuleSet} :
    (∃ m, p.compile rules = .ok m)
      ↔ rules.ruleCount ≤ p.settings.maxRules.toNat
        ∧ ∀ group ∈ rules, ∀ rule ∈ group, rule.Accepted := by
  have hready : (∃ m : Matcher, m.Realizes p rules)
      ↔ ∀ group ∈ rules, ∀ rule ∈ group, rule.Accepted := by
    simp only [← Rule.compiles_iff_accepted, Rule.Compiles, ← exists_forall₂_iff]
    constructor
    · rintro ⟨m, hm⟩
      exact ⟨m.groups, hm.groups⟩
    · rintro ⟨groups, h⟩
      exact ⟨⟨groups, p.settings.fieldNameTag⟩, h, rfl⟩
  simp only [compile_eq_ok_iff, exists_and_left, hready]

/-- **Which rules compile.** A tag and a reference have a predicate exactly when the tag is that of
an operator, with at most one negation in front, and the operator takes the reference; the predicate
has the operator, and is negated as the tag is. A tag of no operator is complained of as it was
written, and a reference that does not suit under the operator. A tag without negation is found for
exactly one operator. A rule set compiles exactly when it is not too large and all its rules are
accepted, and the matcher has as many rules. -/
theorem compiles_iff_all_accepted :
    (∀ tag r, (∃ q, Predicate.ofTag tag r = .ok q)
        ↔ ∃ t : OperatorTag, tag = t.text ∧ t.operator.Takes r)
      ∧ (∀ tag r q, Predicate.ofTag tag r = .ok q →
          tag = OperatorTag.text ⟨q.isNegated, q.operator⟩
            ∧ (q.isNegated = true ↔ tag.toList.head? = some '!'))
      ∧ (∀ tag r e, Predicate.ofTag tag r = .error e ↔ Predicate.Refusal tag r e)
      ∧ (∀ tag op, Operator.ofTag? tag = some op ↔ tag = op.tag)
      ∧ (∀ (p : Processor) (rules : RuleSet), (∃ m, p.compile rules = .ok m)
          ↔ rules.ruleCount ≤ p.settings.maxRules.toNat
            ∧ ∀ group ∈ rules, ∀ rule ∈ group, rule.Accepted)
      ∧ ∀ (p : Processor) (rules : RuleSet) (m : Matcher), p.compile rules = .ok m →
          m.ruleCount = rules.ruleCount := by
  refine ⟨fun tag r => Predicate.exists_ofTag_iff, fun tag r q hq => ?_,
    fun tag r e => Predicate.ofTag_eq_error_iff, fun tag op => Operator.ofTag?_eq_some_iff,
    fun p rules => exists_compile_iff, fun p rules m hm => ?_⟩
  · have htext := Predicate.text_of_ofTag hq
    refine ⟨htext, ?_⟩
    rw [htext, ← Operator.negation, ← OperatorTag.negated_iff_head?]
  · exact (compile_eq_ok_iff.1 hm).2.ruleCount_eq

/-- A negated and a plain rule are both built; a second negation makes an unknown tag, which is
named as it stands. -/
theorem compiles_iff_all_accepted_of_bounds :
    let rules : RuleSet :=
      [[⟨"age", "!<", .number (.ofNat 18)⟩, ⟨"name", "^=", .string "a"⟩]]
    let m : Matcher := ⟨[[⟨⟨"age"⟩, .not (.order .less (.ofNat 18))⟩,
      ⟨⟨"name"⟩, .text .startsWith "a"⟩]], none⟩
    Predicate.ofTag "!<" (.number (.ofNat 18)) = .ok (.not (.order .less (.ofNat 18)))
      ∧ "!<" = OperatorTag.text ⟨true, .less⟩
      ∧ Predicate.ofTag "!!<" (.number (.ofNat 18)) = .error (.unknownOperator "!!<")
      ∧ Processor.initial.compile rules = .ok m ∧ m.ruleCount = rules.ruleCount := by
  have hpredicate : Predicate.ofTag "!<" (.number (.ofNat 18))
      = .ok (.not (.order .less (.ofNat 18))) := by rfl
  have hunknown : ∀ t : OperatorTag, "!!<" ≠ t.text := by
    intro t ht
    have hread := OperatorTag.ofText?_eq_some_iff.2 ht
    have hnone : OperatorTag.ofText? "!!<" = none := by rfl
    rw [hnone] at hread
    cases hread
  have hcompile : Processor.initial.compile
      [[⟨"age", "!<", .number (.ofNat 18)⟩, ⟨"name", "^=", .string "a"⟩]]
      = .ok ⟨[[⟨⟨"age"⟩, .not (.order .less (.ofNat 18))⟩,
          ⟨⟨"name"⟩, .text .startsWith "a"⟩]], none⟩ := by rfl
  obtain ⟨-, hbuilt, hrefused, -, -, hcount⟩ := compiles_iff_all_accepted
  exact ⟨hpredicate, (hbuilt _ _ _ hpredicate).1, (hrefused _ _ _).2 (.unknown hunknown),
    hcompile, hcount _ _ _ hcompile⟩

end Processor

end RuleFilter
