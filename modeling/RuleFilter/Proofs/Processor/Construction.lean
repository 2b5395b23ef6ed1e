import Mathlib.Data.List.Induction
import RuleFilter.Processor.Basic
import RuleFilter.Proofs.Settings.Bounds
import RuleFilter.Proofs.Settings.Codec

set_option autoImplicit false

/-! # How processors come by their settings

A processor is made of settings, which may be the initial ones, a list of changes to these, or read
from a text. Changes are applied in order, so of several for one option the last one stands
(`Settings.ofChanges_eq_ofLastGiven`), and settings that were written are the same when they are
read. So whichever way a processor is made, it has the settings that were meant, and none of these
is out of its bounds. -/

namespace RuleFilter

namespace Settings

/-! ## Changes -/

/-- The value that a change gives to an option. -/
def Change.fieldNameTag? : Change → Option (Option String)
  | fieldNameTag tag => some (some tag)
  | _ => none

def Change.queryKey? : Change → Option String
  | queryKey key => some key
  | _ => none

def Change.maxRules? : Change → Option UInt64
  | maxRules max => some max
  | _ => none

def Change.maxResults? : Change → Option UInt64
  | maxResults max => some max
  | _ => none

/-- The last value that changes give to an option, or its initial one. -/
def lastGiven {α : Type} (given : Change → Option α) (initial : α) (changes : List Change) : α :=
  (changes.filterMap given).getLast?.getD initial

theorem lastGiven_append_singleton {α : Type} (given : Change → Option α) (initial : α)
    (changes : List Change) (c : Change) :
    lastGiven given initial (changes ++ [c])
      = (given c).getD (lastGiven given initial changes) := by
  cases h : given c <;> simp [lastGiven, List.filterMap_append, h]

/-- The initial settings with the last value for each option. -/
def ofLastGiven (changes : List Change) : Settings where
  fieldNameTag := lastGiven Change.fieldNameTag? initial.fieldNameTag changes
  queryKey := lastGiven Change.queryKey? initial.queryKey changes
  maxRules := lastGiven Change.maxRules? initial.maxRules changes
  maxResults := lastGiven Change.maxResults? initial.maxResults changes

/-- One change more gives its option a value and leaves the others. -/
theorem ofLastGiven_append_singleton (changes : List Change) (c : Change) :
    ofLastGiven (changes ++ [c]) = (ofLastGiven changes).change c := by
  simp only [ofLastGiven, lastGiven_append_singleton]
  cases c <;> rfl

/-- **The last value for each option stands**, in whatever order the options were given. -/
theorem ofChanges_eq_ofLastGiven (changes : List Change) :
    ofChanges changes = ofLastGiven changes := by
  induction changes using List.reverseRecOn with
  | nil => rfl
  | append_singleton changes c ih =>
      rw [ofLastGiven_append_singleton, ← ih, ofChanges, List.foldl_append]
      rfl

end Settings

/-! ## Processors -/

namespace Processor

variable {s : Settings}

theorem ofSettings_of_fault?_eq_none (h : s.fault? = none) : ofSettings s = .ok ⟨s, h⟩ := by
  rw [ofSettings]
  split
  · rfl
  · next hfault =>
      rw [h] at hfault
      cases hfault

theorem ofSettings_of_fault?_eq_some {fault : SettingFault} (h : s.fault? = some fault) :
    ofSettings s = .error (.invalidSetting fault) := by
  rw [ofSettings]
  split
  · next hnone =>
      rw [h] at hnone
      cases hnone
  · next hfault =>
      rw [h] at hfault
      cases hfault
      rfl

/-- A processor is made with exactly the settings that are asked for, if no option is out of its
bounds. -/
theorem exists_ofSettings_iff :
    (∃ p, ofSettings s = .ok p ∧ p.settings = s) ↔ ∀ fault, ¬ s.Violates fault := by
  rw [← Settings.fault?_eq_none_iff_forall]
  constructor
  · rintro ⟨p, -, rfl⟩
    exact p.valid
  · intro h
    exact ⟨_, ofSettings_of_fault?_eq_none h, rfl⟩

/-- And otherwise the first option that is out of its bounds is complained of. -/
theorem ofSettings_eq_error_iff {fault : SettingFault} :
    ofSettings s = .error (.invalidSetting fault)
      ↔ s.Violates fault ∧ Reaches (fun f => ¬ s.Violates f) SettingFault.all fault := by
  rw [← Settings.fault?_eq_some_iff]
  constructor
  · intro h
    cases hfault : s.fault? with
    | none =>
        rw [ofSettings_of_fault?_eq_none hfault] at h
        cases h
    | some found =>
        rw [ofSettings_of_fault?_eq_some hfault] at h
        cases h
        rfl
  · exact ofSettings_of_fault?_eq_some

/-- **Settings on every route.** Settings are read back from the text they are written as. Changes
make the processor of the initial settings with the last value for each option. A processor has
exactly the settings it is made of, where no option is out of its bounds, and else the first one
that is, in the order of the options, is the error. No processor, made in whichever way, is out of
these bounds. -/
theorem settings_on_every_route :
    (∀ s : Settings, Settings.ofText s.toText = .ok s)
      ∧ (∀ changes, build changes = ofSettings (.ofLastGiven changes))
      ∧ (∀ s : Settings,
          (∃ p, ofSettings s = .ok p ∧ p.settings = s) ↔ ∀ fault, ¬ s.Violates fault)
      ∧ (∀ (s : Settings) (fault : SettingFault), ofSettings s = .error (.invalidSetting fault)
          ↔ s.Violates fault ∧ Reaches (fun f => ¬ s.Violates f) SettingFault.all fault)
      ∧ ∀ (p : Processor) (fault : SettingFault), ¬ p.settings.Violates fault := by
  refine ⟨Settings.ofText_toText_self, fun changes => ?_, fun s => exists_ofSettings_iff,
    fun s fault => ofSettings_eq_error_iff, fun p => ?_⟩
  · rw [build, Settings.ofChanges_eq_ofLastGiven]
  · exact Settings.fault?_eq_none_iff_forall.1 p.valid

/-- A key that is put right later is no fault, and of the two limits at zero the first is complained
of, though it was set last. -/
theorem settings_on_every_route_of_changes :
    build [.maxResults 0, .queryKey "", .queryKey "q", .maxRules 5, .maxRules 0]
        = .error (.invalidSetting .noRules)
      ∧ ∃ p, build [.maxRules 0, .fieldNameTag "json", .maxRules 7] = .ok p
        ∧ p.settings = ⟨some "json", "filter", 7, 2147483647⟩ := by
  obtain ⟨-, hbuild, hok, herror, -⟩ := settings_on_every_route
  constructor
  · rw [hbuild]
    have hpassed : Reaches (fun f => ¬ (Settings.ofLastGiven
        [.maxResults 0, .queryKey "", .queryKey "q", .maxRules 5, .maxRules 0]).Violates f)
        SettingFault.all .noRules :=
      ⟨[.emptyFieldNameTag, .emptyQueryKey], [.resultsOutOfRange], rfl, by decide⟩
    exact (herror _ _).2 ⟨by decide, hpassed⟩
  · rw [hbuild]
    exact (hok _).2 fun fault => by cases fault <;> decide

end Processor

end RuleFilter
