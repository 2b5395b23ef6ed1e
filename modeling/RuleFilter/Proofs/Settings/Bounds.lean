import RuleFilter.Proofs.Traversal
import RuleFilter.Settings.Basic

set_option autoImplicit false

/-! # Settings within bounds

The faults of settings are looked for one after the other, so the fault of settings is the first
whose option is out of its bounds (`Settings.fault?_eq_some_iff`). There is none exactly when every
setting is within its own bounds (`Settings.fault?_eq_none_iff`), and what a processor relies on is
read off there. -/

namespace RuleFilter

/-- All faults, in the order in which they are looked for. -/
def SettingFault.all : List SettingFault :=
  [emptyFieldNameTag, emptyQueryKey, noRules, resultsOutOfRange]

theorem SettingFault.mem_all (fault : SettingFault) : fault ∈ all := by
  cases fault <;> decide

namespace Settings

variable {s : Settings} {fault : SettingFault}

/-! ## The first fault -/

/-- The option that the fault is about is out of its bounds. -/
def Violates (s : Settings) : SettingFault → Prop
  | .emptyFieldNameTag => s.fieldNameTag = some ""
  | .emptyQueryKey => s.queryKey = ""
  | .noRules => ¬ 1 ≤ s.maxRules.toNat
  | .resultsOutOfRange => ¬ (1 ≤ s.maxResults.toNat ∧ s.maxResults.toNat ≤ Nat.pow 2 31 - 1)

instance (s : Settings) (fault : SettingFault) : Decidable (s.Violates fault) :=
  match fault with
  | .emptyFieldNameTag => inferInstanceAs (Decidable (s.fieldNameTag = some ""))
  | .emptyQueryKey => inferInstanceAs (Decidable (s.queryKey = ""))
  | .noRules => inferInstanceAs (Decidable (¬ 1 ≤ s.maxRules.toNat))
  | .resultsOutOfRange => inferInstanceAs
      (Decidable (¬ (1 ≤ s.maxResults.toNat ∧ s.maxResults.toNat ≤ Nat.pow 2 31 - 1)))

theorem violates_noRules_iff : s.Violates .noRules ↔ s.maxRules = 0 := by
  rw [Violates, ← UInt64.toNat_inj, Nat.not_le, Nat.lt_one_iff]
  rfl

theorem violates_resultsOutOfRange_iff :
    s.Violates .resultsOutOfRange ↔ s.maxResults = 0 ∨ resultLimit < s.maxResults := by
  have hlimit : resultLimit.toNat = Nat.pow 2 31 - 1 := rfl
  have hzero : (0 : UInt64).toNat = 0 := rfl
  rw [Violates, ← UInt64.toNat_inj, UInt64.lt_iff_toNat_lt, hlimit, hzero]
  omega

/-- The fault of settings is the first of all that they have. -/
theorem fault?_eq_find? (s : Settings) : s.fault? = SettingFault.all.find? (s.Violates ·) := by
  have htag : s.Violates .emptyFieldNameTag ↔ s.fieldNameTag = some "" := Iff.rfl
  have hkey : s.Violates .emptyQueryKey ↔ s.queryKey = "" := Iff.rfl
  simp only [fault?, SettingFault.all, List.find?_cons, List.find?_nil, ← htag, ← hkey,
    ← violates_noRules_iff, ← violates_resultsOutOfRange_iff]
  by_cases h₁ : s.Violates .emptyFieldNameTag
  · simp [h₁]
  by_cases h₂ : s.Violates .emptyQueryKey
  · simp [h₁, h₂]
  by_cases h₃ : s.Violates .noRules
  · simp [h₁, h₂, h₃]
  by_cases h₄ : s.Violates .resultsOutOfRange <;> simp [h₁, h₂, h₃, h₄]

/-- Settings have a fault where an option is out of its bounds and none before it is. -/
theorem fault?_eq_some_iff :
    s.fault? = some fault
      ↔ s.Violates fault ∧ Reaches (fun f => ¬ s.Violates f) SettingFault.all fault := by
  rw [fault?_eq_find?, List.find?_eq_some_iff_append]
  simp [Reaches]

theorem fault?_eq_none_iff_forall : s.fault? = none ↔ ∀ fault, ¬ s.Violates fault := by
  rw [fault?_eq_find?, List.find?_eq_none]
  simp [SettingFault.mem_all]

/-! ## No fault -/

/-- Every setting is within its bounds. -/
structure WithinBounds (s : Settings) : Prop where
  fieldNameTag : s.fieldNameTag ≠ some ""
  queryKey : s.queryKey ≠ ""
  rules : s.maxRules ≠ 0
  results : s.maxResults ≠ 0 ∧ s.maxResults ≤ resultLimit

theorem fault?_eq_none_iff : s.fault? = none ↔ s.WithinBounds := by
  rw [fault?_eq_none_iff_forall]
  constructor
  · intro h
    have hresults := violates_resultsOutOfRange_iff.not.1 (h .resultsOutOfRange)
    rw [not_or, UInt64.not_lt] at hresults
    exact ⟨h .emptyFieldNameTag, h .emptyQueryKey, violates_noRules_iff.not.1 (h .noRules),
      hresults⟩
  · rintro ⟨htag, hkey, hrules, hpositive, hlimit⟩ fault
    cases fault with
    | emptyFieldNameTag => exact htag
    | emptyQueryKey => exact hkey
    | noRules => exact violates_noRules_iff.not.2 hrules
    | resultsOutOfRange =>
        rw [violates_resultsOutOfRange_iff, not_or, UInt64.not_lt]
        exact ⟨hpositive, hlimit⟩

theorem maxResults_le_of_fault? (h : s.fault? = none) : s.maxResults ≤ resultLimit :=
  (fault?_eq_none_iff.1 h).results.2

theorem one_le_maxRules (h : s.fault? = none) : 1 ≤ s.maxRules.toNat :=
  Decidable.not_not.1 (fault?_eq_none_iff_forall.1 h .noRules)

end Settings

end RuleFilter
