import RuleFilter.Processor.Basic
import RuleFilter.Proofs.Settings.Bounds
import RuleFilter.Proofs.Traversal

set_option autoImplicit false

/-! # What compiling rules comes to

A rule set compiles when it is not too large and each of its rules is in order, and the matcher
then has the same groups with the same rules. Otherwise the size is complained of first, and then
the first rule that is not in order. -/

namespace RuleFilter

/-- The rule can be made ready. -/
def Rule.Compiles (rule : Rule) : Prop := ∃ c, Condition.ofRule rule = .ok c

/-- The matcher holds the rules made ready, group by group, and looks fields up as the processor
says. -/
structure Matcher.Realizes (m : Matcher) (p : Processor) (rules : RuleSet) : Prop where
  groups : List.Forall₂ (List.Forall₂ fun rule c => Condition.ofRule rule = .ok c) rules m.groups
  source : m.source = p.settings.fieldNameTag

namespace Processor

/-- Compiling is a traversal of the groups once the rules are not too many. -/
theorem compile_of_le {p : Processor} {rules : RuleSet}
    (h : rules.ruleCount ≤ p.settings.maxRules.toNat) :
    p.compile rules
      = (rules.mapM (List.mapM Condition.ofRule)).map (⟨·, p.settings.fieldNameTag⟩) := by
  unfold compile
  rw [if_neg (Nat.not_lt.2 h)]
  cases rules.mapM (List.mapM Condition.ofRule) <;> rfl

theorem compile_of_lt {p : Processor} {rules : RuleSet}
    (h : p.settings.maxRules.toNat < rules.ruleCount) :
    p.compile rules = .error (.tooManyRules rules.ruleCount p.settings.maxRules) := by
  unfold compile
  rw [if_pos h]

/-- A single rule is never too many. -/
theorem compile_singleton (p : Processor) (rule : Rule) :
    p.compile [[rule]]
      = (Condition.ofRule rule).map fun c => ⟨[[c]], p.settings.fieldNameTag⟩ := by
  have hcount : RuleSet.ruleCount [[rule]] ≤ p.settings.maxRules.toNat :=
    Settings.one_le_maxRules p.valid
  rw [compile_of_le hcount]
  cases hrule : Condition.ofRule rule with
  | error e => simp [List.mapM_cons, hrule, bind, Except.bind, Except.map]
  | ok c => simp [List.mapM_cons, hrule, bind, Except.bind, Except.map, pure, Except.pure]

/-- The matcher of rules differs between processors in its alias source only. -/
theorem compile_eq_map_source {p q : Processor} {rules : RuleSet}
    (hmax : q.settings.maxRules = p.settings.maxRules) :
    q.compile rules
      = (p.compile rules).map fun m => ⟨m.groups, q.settings.fieldNameTag⟩ := by
  rcases Nat.lt_or_ge p.settings.maxRules.toNat rules.ruleCount with h | h
  · rw [compile_of_lt h, compile_of_lt (hmax ▸ h), hmax]
    rfl
  · rw [compile_of_le h, compile_of_le (hmax ▸ h)]
    cases rules.mapM (List.mapM Condition.ofRule) <;> rfl

/-- Rules compile when they are not too many and each is in order. -/
theorem compile_eq_ok_iff {p : Processor} {rules : RuleSet} {m : Matcher} :
    p.compile rules = .ok m
      ↔ rules.ruleCount ≤ p.settings.maxRules.toNat ∧ m.Realizes p rules := by
  rcases Nat.lt_or_ge p.settings.maxRules.toNat rules.ruleCount with h | h
  · rw [compile_of_lt h]
    simp [Nat.not_le.2 h]
  · have hgroups : ∀ groups, rules.mapM (List.mapM Condition.ofRule) = .ok groups
        ↔ List.Forall₂ (List.Forall₂ fun rule c => Condition.ofRule rule = .ok c) rules groups := by
      intro groups
      simp only [mapM_eq_ok_iff]
    rw [compile_of_le h, Except.map_eq_ok_iff]
    constructor
    · rintro ⟨groups, hm, rfl⟩
      exact ⟨h, (hgroups groups).1 hm, rfl⟩
    · rintro ⟨_, hm⟩
      exact ⟨m.groups, (hgroups m.groups).2 hm.groups, by rw [← hm.source]⟩

/-- Compiling complains of the size, or of the first rule that is not in order. -/
theorem compile_eq_error_iff {p : Processor} {rules : RuleSet} {e : Error} :
    p.compile rules = .error e
      ↔ (p.settings.maxRules.toNat < rules.ruleCount
            ∧ e = .tooManyRules rules.ruleCount p.settings.maxRules)
        ∨ (rules.ruleCount ≤ p.settings.maxRules.toNat
            ∧ ∃ rule, Reaches Rule.Compiles rules.flatten rule
              ∧ Condition.ofRule rule = .error e) := by
  rcases Nat.lt_or_ge p.settings.maxRules.toNat rules.ruleCount with h | h
  · rw [compile_of_lt h]
    simp [h, Nat.not_le.2 h, eq_comm]
  · have hflat : rules.flatten.mapM Condition.ofRule = .error e
        ↔ rules.mapM (List.mapM Condition.ofRule) = .error e := by
      rw [mapM_flatten, Except.map_eq_error_iff]
    rw [compile_of_le h, Except.map_eq_error_iff, ← hflat, mapM_eq_error_iff]
    simp only [h, Nat.not_lt.2 h, false_and, true_and, false_or]
    rfl

end Processor

end RuleFilter
