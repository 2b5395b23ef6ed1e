import RuleFilter.Proofs.Json.Step
import RuleFilter.Rule.Reader

set_option autoImplicit false

/-! # One step of reading rules

What the readers of rules did when they succeeded: an array was opened and its items were read, a
part of a list of parts was read or was missing, a member of a rule was one of its three parts or
was passed over (`RuleDraft.MemberStep`), and a rule was a list of parts or an object
(`Rule.Step`). -/

namespace RuleFilter

namespace Json

theorem readArray_eq_ok_iff {α : Type} {item : Nat → List Char → Except Fault (WithRest α)}
    {fuel budget : Nat} {cs rest : List Char} {xs : List α} :
    readArray item fuel budget cs = .ok (xs, rest)
      ↔ 1 < budget ∧ ∃ after, skipBlanks cs = '[' :: after
          ∧ readItems (item (budget - 1)) fuel true after = .ok (xs, rest) := by
  rw [readArray]
  constructor
  · intro h
    split at h
    · cases h
    · next after hcs =>
        split at h
        · cases h
        · next hbudget => exact ⟨Nat.not_le.1 hbudget, after, hcs, h⟩
    · cases h
  · rintro ⟨hbudget, after, hcs, h⟩
    rw [hcs]
    simp only [if_neg (Nat.not_le.2 hbudget), h]

/-- A part is missing where the list ends, and is otherwise read. -/
theorem readPart_eq_ok_iff {α : Type} {part : List Char → Except Fault (WithRest α)} {default x : α}
    {first : Bool} {cs rest : List Char} :
    readPart part default first cs = .ok (x, rest)
      ↔ (nextItem first cs = .ok none ∧ x = default ∧ rest = cs)
        ∨ ∃ start, nextItem first cs = .ok (some start) ∧ part start = .ok (x, rest) := by
  rw [readPart, Except.bind_eq_ok_iff]
  constructor
  · rintro ⟨_ | start, hnext, h⟩
    · cases h
      exact Or.inl ⟨hnext, rfl, rfl⟩
    · exact Or.inr ⟨start, hnext, h⟩
  · rintro (⟨hnext, rfl, rfl⟩ | ⟨start, hnext, h⟩)
    · exact ⟨none, hnext, rfl⟩
    · exact ⟨some start, hnext, h⟩

end Json

open Json (Fault WithRest)

theorem OrderedReference.read_eq_ok_iff {fuel budget : Nat} {cs rest : List Char}
    {r : OrderedReference} :
    read fuel budget cs = .ok (r, rest)
      ↔ ∃ j, Json.readValue fuel budget cs = .ok (j, rest) ∧ ofJson j = r := by
  rw [read, Except.map_eq_ok_iff]
  constructor
  · rintro ⟨⟨j, rest⟩, hread, h⟩
    cases h
    exact ⟨j, hread, rfl⟩
  · rintro ⟨j, hread, rfl⟩
    exact ⟨(j, rest), hread, rfl⟩

/-! ## Members -/

/-- The names of the parts of a rule. -/
def Rule.partNames : List String := ["field", "type", "value"]

/-- A part that is not there yet is read, and what is no part is passed over. -/
inductive RuleDraft.MemberStep (fuel budget : Nat) (draft : RuleDraft) (key : String)
    (cs : List Char) : RuleDraft → List Char → Prop
  | field {after rest : List Char} {s : String} (hkey : key = "field") (hnew : draft.field = none)
      (hcolon : Json.readColon cs = .ok after) (hread : Json.readText? after = .ok (s, rest)) :
      MemberStep fuel budget draft key cs { draft with field := some s } rest
  | tag {after rest : List Char} {s : String} (hkey : key = "type") (hnew : draft.tag = none)
      (hcolon : Json.readColon cs = .ok after) (hread : Json.readText? after = .ok (s, rest)) :
      MemberStep fuel budget draft key cs { draft with tag := some s } rest
  | value {after rest : List Char} {r : OrderedReference} (hkey : key = "value")
      (hnew : draft.value = none) (hcolon : Json.readColon cs = .ok after)
      (hread : OrderedReference.read fuel budget after = .ok (r, rest)) :
      MemberStep fuel budget draft key cs { draft with value := some r } rest
  | unknown {after rest : List Char} (hkey : key ∉ Rule.partNames)
      (hcolon : Json.readColon cs = .ok after) (hskip : Json.skipValue fuel after = .ok rest) :
      MemberStep fuel budget draft key cs draft rest

theorem RuleDraft.readMember_eq_ok_iff {fuel budget : Nat} {draft next : RuleDraft} {key : String}
    {cs rest : List Char} :
    draft.readMember fuel budget key cs = .ok (next, rest)
      ↔ MemberStep fuel budget draft key cs next rest := by
  obtain ⟨field, tag, value⟩ := draft
  unfold readMember
  constructor
  · intro h
    split at h
    · cases field with
      | some _ => cases h
      | none =>
          obtain ⟨after, hcolon, h⟩ := Except.bind_eq_ok_iff.1 h
          obtain ⟨⟨s, rest⟩, hread, h⟩ := Except.bind_eq_ok_iff.1 h
          cases h
          exact .field rfl rfl hcolon hread
    · cases tag with
      | some _ => cases h
      | none =>
          obtain ⟨after, hcolon, h⟩ := Except.bind_eq_ok_iff.1 h
          obtain ⟨⟨s, rest⟩, hread, h⟩ := Except.bind_eq_ok_iff.1 h
          cases h
          exact .tag rfl rfl hcolon hread
    · cases value with
      | some _ => cases h
      | none =>
          obtain ⟨after, hcolon, h⟩ := Except.bind_eq_ok_iff.1 h
          obtain ⟨⟨r, rest⟩, hread, h⟩ := Except.bind_eq_ok_iff.1 h
          cases h
          exact .value rfl rfl hcolon hread
    · next hfield htag hvalue =>
        obtain ⟨after, hcolon, h⟩ := Except.bind_eq_ok_iff.1 h
        obtain ⟨rest, hskip, h⟩ := Except.bind_eq_ok_iff.1 h
        cases h
        have hkey : key ∉ Rule.partNames := by
          simp only [Rule.partNames, List.mem_cons, List.not_mem_nil, or_false, not_or]
          exact ⟨hfield, htag, hvalue⟩
        exact .unknown hkey hcolon hskip
  · intro h
    cases h with
    | field hkey hnew hcolon hread | tag hkey hnew hcolon hread | value hkey hnew hcolon hread =>
        subst hkey
        cases hnew
        exact Except.bind_eq_ok_iff.2 ⟨_, hcolon, Except.bind_eq_ok_iff.2 ⟨_, hread, rfl⟩⟩
    | unknown hkey hcolon hskip =>
        simp only [Rule.partNames, List.mem_cons, List.not_mem_nil, or_false, not_or] at hkey
        obtain ⟨hfield, htag, hvalue⟩ := hkey
        split
        · contradiction
        · contradiction
        · contradiction
        · exact Except.bind_eq_ok_iff.2 ⟨_, hcolon, Except.bind_eq_ok_iff.2 ⟨_, hskip, rfl⟩⟩

/-! ## Rules -/

namespace Rule

/-- The three parts are read one after the other, and then the list ends. -/
theorem readParts_eq_ok_iff {fuel budget : Nat} {cs rest : List Char} {rule : Rule} :
    readParts fuel budget cs = .ok (rule, rest)
      ↔ ∃ cs₁ cs₂ cs₃, Json.readPart Json.readText? "" true cs = .ok (rule.field, cs₁)
          ∧ Json.readPart Json.readText? "" false cs₁ = .ok (rule.tag, cs₂)
          ∧ Json.readPart (OrderedReference.read fuel budget) .null false cs₂
            = .ok (rule.value, cs₃)
          ∧ Json.closeArray cs₃ = .ok rest := by
  simp only [readParts, Except.bind_eq_ok_iff]
  constructor
  · rintro ⟨⟨field, cs₁⟩, hfield, ⟨tag, cs₂⟩, htag, ⟨value, cs₃⟩, hvalue, rest, hclose, h⟩
    cases h
    exact ⟨cs₁, cs₂, cs₃, hfield, htag, hvalue, hclose⟩
  · rintro ⟨cs₁, cs₂, cs₃, hfield, htag, hvalue, hclose⟩
    exact ⟨_, hfield, _, htag, _, hvalue, _, hclose, rfl⟩

/-- The rule is a list of its parts, or an object. -/
inductive Step (fuel budget : Nat) (cs : List Char) : Rule → List Char → Prop
  | parts {after rest : List Char} {rule : Rule} (hbudget : 1 < budget)
      (hcs : Json.skipBlanks cs = '[' :: after)
      (hparts : readParts fuel (budget - 1) after = .ok (rule, rest)) :
      Step fuel budget cs rule rest
  | members {after rest : List Char} {draft : RuleDraft} (hbudget : 1 < budget)
      (hcs : Json.skipBlanks cs = '\x7b' :: after)
      (hmembers : Json.readMembers (RuleDraft.readMember fuel (budget - 1)) fuel true
        ⟨none, none, none⟩ after = .ok (draft, rest)) : Step fuel budget cs draft.finish rest

theorem read_eq_ok_iff {fuel budget : Nat} {cs rest : List Char} {rule : Rule} :
    Rule.read fuel budget cs = .ok (rule, rest) ↔ Step fuel budget cs rule rest := by
  rw [Rule.read]
  constructor
  · intro h
    split at h
    · cases h
    · next after hcs =>
        split at h
        · cases h
        · next hbudget => exact .parts (Nat.not_le.1 hbudget) hcs h
    · next after hcs =>
        split at h
        · cases h
        · next hbudget =>
            obtain ⟨⟨draft, rest⟩, hmembers, h⟩ := Except.map_eq_ok_iff.1 h
            cases h
            exact .members (Nat.not_le.1 hbudget) hcs hmembers
    · cases h
  · intro h
    cases h with
    | parts hbudget hcs hparts =>
        rw [hcs]
        simp only [if_neg (Nat.not_le.2 hbudget), hparts]
    | members hbudget hcs hmembers =>
        rw [hcs]
        simp only [if_neg (Nat.not_le.2 hbudget), hmembers, Except.map]

end Rule

/-! ## Texts -/

/-- A text holds a rule set when it starts with one and nothing but blanks follows. -/
theorem RuleSet.ofText_eq_ok_iff {text : String} {rules : RuleSet} :
    RuleSet.ofText text = .ok rules
      ↔ ∃ rest, RuleSet.read (text.length + 1) text.toList = .ok (rules, rest)
          ∧ Json.atEnd rest = true := by
  rw [← Json.readText_eq_ok_iff, RuleSet.ofText]
  cases Json.readText (RuleSet.read (text.length + 1)) text <;> simp [Except.mapError]

end RuleFilter
