import RuleFilter.Proofs.Reference.OfJson
import RuleFilter.Proofs.Rule.Codec
import RuleFilter.Proofs.Rule.Step

set_option autoImplicit false

/-! # The normal form of a text of rules

A text of rules may hold blanks, members in any order and among unknown ones, repeated keys inside
values, and rules written as lists; writing the rules that were read gives one form to them all.
Reading that form gives the rules again where it gives the numbers again, so writing is stable after
the first time (`RuleSet.ofText_stable`). What carries it is an invariant of reading: whichever way
a rule was written, its value is `Reference.Writable`, and nested no deeper than what the arrays and
the object around it leave of the budget (`RuleSet.writable_of_ofText`). -/

namespace RuleFilter

open Json (Fault WithRest)

/-! ## Values of rules that were read -/

theorem OrderedReference.writable_of_read {fuel budget : Nat} {cs rest : List Char}
    {r : OrderedReference} (h : read fuel budget cs = .ok (r, rest)) :
    r.reference.Writable (budget - 1) := by
  obtain ⟨j, hread, rfl⟩ := read_eq_ok_iff.1 h
  exact Reference.writable_ofJson (Json.settled_of_readValue hread)

/-- The value of the draft, if it was met, can be written. -/
def RuleDraft.Writable (limit : Nat) (draft : RuleDraft) : Prop :=
  ∀ r ∈ draft.value, r.reference.Writable limit

theorem RuleDraft.writable_finish {limit : Nat} {draft : RuleDraft} (h : draft.Writable limit) :
    draft.finish.value.reference.Writable limit := by
  obtain ⟨field, tag, _ | r⟩ := draft
  · exact Reference.Writable.null limit
  · exact h r rfl

theorem RuleDraft.writable_of_readMember {fuel budget : Nat} {draft next : RuleDraft}
    {key : String} {cs rest : List Char} (hdraft : draft.Writable (budget - 1))
    (h : draft.readMember fuel budget key cs = .ok (next, rest)) : next.Writable (budget - 1) := by
  cases RuleDraft.readMember_eq_ok_iff.1 h with
  | field | tag | unknown => exact hdraft
  | value _ _ _ hread =>
      rintro r ⟨⟩
      exact OrderedReference.writable_of_read hread

theorem Rule.writable_of_readParts {fuel budget : Nat} {cs rest : List Char} {rule : Rule}
    (h : Rule.readParts fuel budget cs = .ok (rule, rest)) :
    rule.value.reference.Writable (budget - 1) := by
  obtain ⟨_, _, _, -, -, hvalue, -⟩ := Rule.readParts_eq_ok_iff.1 h
  rcases Json.readPart_eq_ok_iff.1 hvalue with ⟨-, hnull, -⟩ | ⟨_, -, hread⟩
  · rw [hnull]
    exact Reference.Writable.null _
  · exact OrderedReference.writable_of_read hread

/-- Whichever way the rule was written, its value can be written. -/
theorem Rule.writable_of_read {fuel budget : Nat} {cs rest : List Char} {rule : Rule}
    (h : Rule.read fuel budget cs = .ok (rule, rest)) :
    rule.value.reference.Writable (budget - 2) := by
  cases Rule.read_eq_ok_iff.1 h with
  | parts _ _ hparts => exact Rule.writable_of_readParts hparts
  | members _ _ hmembers =>
      apply RuleDraft.writable_finish
      apply Json.invariant_of_readMembers _ _ hmembers
      · intro draft key cs next rest hdraft hmember
        exact RuleDraft.writable_of_readMember hdraft hmember
      · rintro r ⟨⟩

namespace RuleSet

/-- Around each value stand two arrays and the rule itself. -/
theorem writable_of_read {fuel : Nat} {cs rest : List Char} {rules : RuleSet}
    (h : RuleSet.read fuel cs = .ok (rules, rest)) :
    ∀ group ∈ rules, ∀ rule ∈ group, rule.value.reference.Writable 124 := by
  have hgroup : ∀ cs group rest,
      Json.readArray (Rule.read fuel) fuel (Json.nestingBudget - 1) cs = .ok (group, rest) →
        ∀ rule ∈ group, rule.value.reference.Writable 124 := by
    intro cs group rest hgroup
    obtain ⟨-, _, -, hrules⟩ := Json.readArray_eq_ok_iff.1 hgroup
    exact Json.forall_of_readItems (fun cs rule rest hrule => Rule.writable_of_read hrule) hrules
  obtain ⟨-, _, -, hgroups⟩ := Json.readArray_eq_ok_iff.1 h
  exact Json.forall_of_readItems hgroup hgroups

theorem writable_of_ofText {text : String} {rules : RuleSet} (h : ofText text = .ok rules) :
    ∀ group ∈ rules, ∀ rule ∈ group, rule.value.reference.Writable 124 := by
  obtain ⟨_, hread, -⟩ := ofText_eq_ok_iff.1 h
  exact writable_of_read hread

/-! ## Writing and reading again -/

/-- The text that writing gives to the rules of a text. -/
def normalize (text : String) : Except Error String := (ofText text).map toText

/-- **Normalising is stable.** Whatever text was accepted, the numbers that were read are finite,
the maps are in key order, and the text of the rules is nested no deeper than may be read. That text
is accepted, holds the same rules and is its own normal form, as long as the digits that are written
of the numbers are read as these numbers. -/
theorem ofText_stable {text : String} {rules : RuleSet} (h : ofText text = .ok rules) :
    (∀ rule ∈ rules.flatten, rule.value.reference.IsFinite ∧ rule.value.reference.Ordered)
      ∧ (toJson rules).depth < Json.nestingBudget
      ∧ ((∀ rule ∈ rules.flatten, ∀ x ∈ rule.value.reference.numbers,
          Number.ReadsBack (.double x)) →
        ofText rules.toText = .ok rules ∧ normalize rules.toText = .ok rules.toText) := by
  have hwritable := writable_of_ofText h
  refine ⟨fun rule hmem => ?_, depth_toJson_lt hwritable, fun hread => ?_⟩
  · obtain ⟨group, hgroup, hmem⟩ := List.mem_flatten.1 hmem
    exact ⟨(hwritable group hgroup rule hmem).finite, rule.value.ordered⟩
  · have hagain : ofText rules.toText = .ok rules := ofText_of_writable hwritable hread
    refine ⟨hagain, ?_⟩
    rw [normalize, hagain]
    rfl

/-- A key given twice, minus zero, an unknown member that is only passed over, an empty group and a
rule written as a short list. -/
theorem ofText_stable_untidy :
    let text := "[ [\x7b\"value\":\x7b\"b\":1, \"a\":[-0, null], \"b\":2.50\x7d, " ++
      "\"note\":[\"\\ud800\"], \"type\":\"==\"\x7d, [\"f\"]], [] ]"
    let normal :=
      "[[\x7b\"field\":\"\",\"type\":\"==\",\"value\":\x7b\"a\":[-0.0,null],\"b\":2.5\x7d\x7d," ++
      "\x7b\"field\":\"f\",\"type\":\"\",\"value\":null\x7d],[]]"
    ∃ rules, ofText text = .ok rules ∧ rules.toText = normal ∧ ofText normal = .ok rules
      ∧ normalize normal = .ok normal := by
  intro text normal
  have hnormal : (normalize text).toOption = some normal := by decide +kernel
  have hnumbers : (ofText text).toOption.all (fun rules => rules.flatten.all fun rule =>
      rule.value.reference.numbers.all fun x => Number.ReadsBack (.double x)) = true := by
    decide +kernel
  cases h : ofText text with
  | error e =>
      rw [normalize, h] at hnormal
      cases hnormal
  | ok rules =>
      have htext : rules.toText = normal := by
        rw [normalize, h] at hnormal
        exact Option.some.inj hnormal
      have hread : ∀ rule ∈ rules.flatten, ∀ x ∈ rule.value.reference.numbers,
          Number.ReadsBack (.double x) := by
        simpa only [h, Except.toOption, Option.all_some, List.all_eq_true, decide_eq_true_eq]
          using hnumbers
      obtain ⟨-, -, hstable⟩ := ofText_stable h
      obtain ⟨hagain, hstable⟩ := hstable hread
      rw [htext] at hagain hstable
      exact ⟨rules, rfl, htext, hagain, hstable⟩

end RuleSet

end RuleFilter
