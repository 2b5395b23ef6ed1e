import RuleFilter.Proofs.Predicate.Evaluation
import RuleFilter.Proofs.Processor.Compile

set_option autoImplicit false

/-! # What a matcher answers

Every rule has an outcome of its own on an element: it holds, it does not, or it fails. The answer
of a matcher is said in terms of these outcomes alone (`RuleGroup.Satisfied`, `Refuted`,
`FailsWith`), whatever the matcher looked at to find it. A rule that holds hides what comes after
it in its group, and a group that is refuted hides the groups after it. -/

namespace RuleFilter

/-- What a rule by itself says of an element. -/
def Rule.outcome (source : Option String) (root : Value) (rule : Rule) : Except Error Bool := do
  (← Condition.ofRule rule).holds source root

theorem Rule.outcome_of_ofRule {rule : Rule} {c : Condition} (h : Condition.ofRule rule = .ok c)
    (source : Option String) (root : Value) : rule.outcome source root = c.holds source root := by
  rw [outcome, h]
  rfl

/-- Where the path of a rule leads to a value, the rule says what its tag answers for it. -/
theorem Rule.outcome_of_resolve {rule : Rule} {source : Option String} {root v : Value}
    (h : FieldPath.resolve ⟨rule.field⟩ source root = .ok (some v)) :
    rule.outcome source root = Predicate.answer rule.tag rule.value v := by
  rw [outcome, Predicate.answer, Condition.ofRule]
  cases Predicate.ofTag rule.tag rule.value with
  | error e => rfl
  | ok p =>
      show Condition.holds ⟨⟨rule.field⟩, p⟩ source root = p.test v
      rw [Condition.holds, h]

/-! ## Groups -/

namespace RuleGroup

variable (outcome : Rule → Except Error Bool)

/-- Some rule holds, and those before it neither hold nor fail. -/
def Satisfied (group : RuleGroup) : Prop :=
  ∃ rule, Reaches (fun r => outcome r = .ok false) group rule ∧ outcome rule = .ok true

/-- No rule holds and none fails. -/
def Refuted (group : RuleGroup) : Prop := ∀ rule ∈ group, outcome rule = .ok false

/-- Some rule fails with the error, and those before it neither hold nor fail. -/
def FailsWith (e : Error) (group : RuleGroup) : Prop :=
  ∃ rule, Reaches (fun r => outcome r = .ok false) group rule ∧ outcome rule = .error e

variable {outcome}

@[simp] theorem not_satisfied_nil : ¬ Satisfied outcome [] := by simp [Satisfied]

@[simp] theorem satisfied_cons {r : Rule} {rs : RuleGroup} :
    Satisfied outcome (r :: rs)
      ↔ outcome r = .ok true ∨ outcome r = .ok false ∧ Satisfied outcome rs :=
  exists_reaches_cons

@[simp] theorem refuted_nil : Refuted outcome [] := by simp [Refuted]

@[simp] theorem refuted_cons {r : Rule} {rs : RuleGroup} :
    Refuted outcome (r :: rs) ↔ outcome r = .ok false ∧ Refuted outcome rs :=
  List.forall_mem_cons

@[simp] theorem not_failsWith_nil {e : Error} : ¬ FailsWith outcome e [] := by simp [FailsWith]

@[simp] theorem failsWith_cons {e : Error} {r : Rule} {rs : RuleGroup} :
    FailsWith outcome e (r :: rs)
      ↔ outcome r = .error e ∨ outcome r = .ok false ∧ FailsWith outcome e rs :=
  exists_reaches_cons

end RuleGroup

namespace Matcher

open RuleGroup

variable {source : Option String} {root : Value}

/-- The conditions are the rules of the group made ready. -/
abbrev Ready : RuleGroup → List Condition → Prop :=
  List.Forall₂ fun rule c => Condition.ofRule rule = .ok c

theorem anyHolds_eq_ok_true_iff {group : RuleGroup} {cs : List Condition} (h : Ready group cs) :
    anyHolds source root cs = .ok true ↔ Satisfied (Rule.outcome source root) group := by
  induction h with
  | nil => simp [anyHolds]
  | cons hc _ ih =>
      rw [satisfied_cons, Rule.outcome_of_ofRule hc, anyHolds]
      split <;> simp_all

theorem anyHolds_eq_ok_false_iff {group : RuleGroup} {cs : List Condition} (h : Ready group cs) :
    anyHolds source root cs = .ok false ↔ Refuted (Rule.outcome source root) group := by
  induction h with
  | nil => simp [anyHolds]
  | cons hc _ ih =>
      rw [refuted_cons, Rule.outcome_of_ofRule hc, anyHolds]
      split <;> simp_all

theorem anyHolds_eq_error_iff {group : RuleGroup} {cs : List Condition} (h : Ready group cs)
    {e : Error} :
    anyHolds source root cs = .error e ↔ FailsWith (Rule.outcome source root) e group := by
  induction h with
  | nil => simp [anyHolds]
  | cons hc _ ih =>
      rw [failsWith_cons, Rule.outcome_of_ofRule hc, anyHolds]
      split <;> simp_all

/-- Where no rule of a group fails, some condition holds if some rule does. -/
theorem anyHolds_eq_any {group : RuleGroup} {cs : List Condition} (h : Ready group cs)
    {verdict : Rule → Bool}
    (hverdict : ∀ rule ∈ group, rule.outcome source root = .ok (verdict rule)) :
    anyHolds source root cs = .ok (group.any verdict) := by
  induction h with
  | nil => rfl
  | @cons rule c _ _ hc _ ih =>
      rw [List.forall_mem_cons] at hverdict
      obtain ⟨hhead, htail⟩ := hverdict
      rw [anyHolds, ← Rule.outcome_of_ofRule hc, hhead, List.any_cons]
      -- a rule that does not hold leaves the answer to the others, one that does is the answer
      cases verdict rule with
      | false => exact ih htail
      | true => rfl

/-! ## Rule sets -/

theorem allHold_eq_ok_true_iff {rules : RuleSet} {groups : List (List Condition)}
    (h : List.Forall₂ Ready rules groups) :
    allHold source root groups = .ok true
      ↔ ∀ group ∈ rules, Satisfied (Rule.outcome source root) group := by
  induction h with
  | nil => simp [allHold]
  | cons hg _ ih =>
      rw [List.forall_mem_cons, ← anyHolds_eq_ok_true_iff hg, allHold]
      split <;> simp_all

theorem allHold_eq_ok_false_iff {rules : RuleSet} {groups : List (List Condition)}
    (h : List.Forall₂ Ready rules groups) :
    allHold source root groups = .ok false
      ↔ ∃ group, Reaches (Satisfied (Rule.outcome source root)) rules group
          ∧ Refuted (Rule.outcome source root) group := by
  induction h with
  | nil => simp [allHold]
  | cons hg _ ih =>
      rw [exists_reaches_cons, ← anyHolds_eq_ok_true_iff hg, ← anyHolds_eq_ok_false_iff hg, allHold]
      split <;> simp_all

theorem allHold_eq_error_iff {rules : RuleSet} {groups : List (List Condition)}
    (h : List.Forall₂ Ready rules groups) {e : Error} :
    allHold source root groups = .error e
      ↔ ∃ group, Reaches (Satisfied (Rule.outcome source root)) rules group
          ∧ FailsWith (Rule.outcome source root) e group := by
  induction h with
  | nil => simp [allHold]
  | cons hg _ ih =>
      rw [exists_reaches_cons, ← anyHolds_eq_ok_true_iff hg, ← anyHolds_eq_error_iff hg, allHold]
      split <;> simp_all

/-- Where no rule fails, the groups that are satisfied are those with a rule that holds. -/
theorem allHold_eq_all_any {rules : RuleSet} {groups : List (List Condition)}
    (h : List.Forall₂ Ready rules groups) {verdict : Rule → Bool}
    (hverdict : ∀ group ∈ rules, ∀ rule ∈ group, rule.outcome source root = .ok (verdict rule)) :
    allHold source root groups = .ok (rules.all (·.any verdict)) := by
  induction h with
  | nil => rfl
  | @cons group _ _ _ hg _ ih =>
      rw [List.forall_mem_cons] at hverdict
      obtain ⟨hhead, htail⟩ := hverdict
      rw [allHold, anyHolds_eq_any hg hhead, List.all_cons]
      -- a group with a rule that holds leaves the answer to the others, one without is the answer
      cases group.any verdict with
      | false => rfl
      | true => exact ih htail

/-- An element matches when every group is satisfied. -/
theorem accepts_eq_ok_true_iff {p : Processor} {rules : RuleSet} {m : Matcher}
    (hm : p.compile rules = .ok m) {v : Value} :
    m.accepts v = .ok true
      ↔ ∀ group ∈ rules, Satisfied (Rule.outcome p.settings.fieldNameTag v) group := by
  obtain ⟨_, hready⟩ := Processor.compile_eq_ok_iff.1 hm
  rw [accepts, hready.source, allHold_eq_ok_true_iff hready.groups]

/-- An element does not match when some group is refuted, those before it being satisfied. -/
theorem accepts_eq_ok_false_iff {p : Processor} {rules : RuleSet} {m : Matcher}
    (hm : p.compile rules = .ok m) {v : Value} :
    m.accepts v = .ok false
      ↔ ∃ group, Reaches (Satisfied (Rule.outcome p.settings.fieldNameTag v)) rules group
          ∧ Refuted (Rule.outcome p.settings.fieldNameTag v) group := by
  obtain ⟨_, hready⟩ := Processor.compile_eq_ok_iff.1 hm
  rw [accepts, hready.source, allHold_eq_ok_false_iff hready.groups]

/-- **The answer of a matcher.** With the outcome that each rule has by itself on an element, the
element matches when every group is satisfied; it does not when some group is refuted and those
before it are satisfied; and the answer is an error when some group fails with it and those before
are satisfied. Where no rule fails, this is the conjunction over the groups of the disjunctions
over their rules. -/
theorem accepts_iff_outcomes {α : Type} [Candidate α] {p : Processor} {rules : RuleSet}
    {m : Matcher} (hm : p.compile rules = .ok m) (item : α) :
    let outcome := Rule.outcome p.settings.fieldNameTag (Candidate.value item)
    let answer := m.accepts (Candidate.value item)
    (answer = .ok true ↔ ∀ group ∈ rules, Satisfied outcome group)
    ∧ (answer = .ok false
        ↔ ∃ group, Reaches (Satisfied outcome) rules group ∧ Refuted outcome group)
    ∧ (∀ e, answer = .error e
        ↔ ∃ group, Reaches (Satisfied outcome) rules group ∧ FailsWith outcome e group)
    ∧ ∀ verdict : Rule → Bool,
        (∀ group ∈ rules, ∀ rule ∈ group, outcome rule = .ok (verdict rule)) →
        answer = .ok (rules.all (·.any verdict)) := by
  intro outcome answer
  obtain ⟨_, hready⟩ := Processor.compile_eq_ok_iff.1 hm
  have hanswer : answer = allHold p.settings.fieldNameTag (Candidate.value item) m.groups := by
    rw [← hready.source]
    rfl
  rw [hanswer]
  exact ⟨allHold_eq_ok_true_iff hready.groups, allHold_eq_ok_false_iff hready.groups,
    fun e => allHold_eq_error_iff hready.groups, fun verdict => allHold_eq_all_any hready.groups⟩

/-- A rule that holds hides the error of the rule after it. -/
theorem accepts_hides_later_error :
    let failing : Rule := ⟨"open", "~=", .string "x"⟩
    let rules : RuleSet := [[⟨"open", "==", .bool true⟩, failing], [⟨"open", "==", .null⟩]]
    let m : Matcher :=
      ⟨[[⟨⟨"open"⟩, .equal (.bool true)⟩, ⟨⟨"open"⟩, .text .contains "x"⟩],
        [⟨⟨"open"⟩, .equal .null⟩]], none⟩
    let item : Value := .map [("open", .bool true)]
    Processor.initial.compile rules = .ok m
      ∧ failing.outcome none item = .error (.notText .contains .bool)
      ∧ m.accepts item = .ok false := by
  have hmatch (m : Matcher) (hm : Processor.initial.compile
      [[⟨"open", "==", .bool true⟩, ⟨"open", "~=", .string "x"⟩], [⟨"open", "==", .null⟩]]
      = .ok m) : m.accepts (.map [("open", .bool true)]) = .ok false := by
    refine (accepts_iff_outcomes hm (Value.map [("open", .bool true)])).2.1.2
      ⟨[⟨"open", "==", .null⟩], ⟨[_], [], rfl, fun group hgroup => ?_⟩, ?_⟩
    · rw [List.mem_singleton.1 hgroup]
      exact satisfied_cons.2 (Or.inl (by rfl))
    · exact refuted_cons.2 ⟨by rfl, refuted_nil⟩
  exact ⟨by rfl, by rfl, hmatch _ (by rfl)⟩

end Matcher

end RuleFilter
