import RuleFilter.Proofs.Matcher.Scan
import RuleFilter.Proofs.Processor.Compile

set_option autoImplicit false

/-! # How filtering fails

Several things can be wrong with one call. Each is a cause here, said of the call's own data, and
the causes of an entry point are listed in their order. A call fails when one of them is there,
reports the first that is, and leaves what it was given as it was (`Outcome.FailsAtomically`).

The causes of a sequence of steps are the lists of the steps one after the other
(`firstCause_append`), so an entry point that makes one check more has one cause more in front. -/

namespace RuleFilter

/-- A cause of failure, with the error it is reported by. -/
abbrev Cause := Error → Prop

/-- The first cause that is there is reported by the error. -/
def FirstCause : List Cause → Error → Prop
  | [], _ => False
  | c :: cs, e => c e ∨ (∀ e', ¬ c e') ∧ FirstCause cs e

theorem firstCause_singleton {c : Cause} {e : Error} : FirstCause [c] e ↔ c e := by
  simp [FirstCause]

theorem firstCause_append {cs ds : List Cause} {e : Error} :
    FirstCause (cs ++ ds) e
      ↔ FirstCause cs e ∨ (∀ e', ¬ FirstCause cs e') ∧ FirstCause ds e := by
  induction cs with
  | nil => simp [FirstCause]
  | cons c cs ih =>
      simp only [List.cons_append, FirstCause, ih]
      by_cases hc : ∃ e', c e'
      · -- with the first cause there, neither list is looked at
        obtain ⟨e', he'⟩ := hc
        have hnot : ¬ ∀ e', ¬ c e' := fun h => h e' he'
        simp [hnot]
      · have hnone : ∀ e', ¬ c e' := fun e' he' => hc ⟨e', he'⟩
        simp [hnone]

/-- Something is reported when some cause is there. -/
theorem exists_firstCause_iff {cs : List Cause} :
    (∃ e, FirstCause cs e) ↔ ∃ c ∈ cs, ∃ e, c e := by
  induction cs with
  | nil => simp [FirstCause]
  | cons c cs ih =>
      simp only [FirstCause, List.exists_mem_cons_iff, ← ih]
      constructor
      · rintro ⟨e, he | ⟨_, he⟩⟩
        · exact Or.inl ⟨e, he⟩
        · exact Or.inr ⟨e, he⟩
      · rintro (⟨e, he⟩ | ⟨e, he⟩)
        · exact ⟨e, Or.inl he⟩
        · by_cases hc : ∃ e', c e'
          · obtain ⟨e', he'⟩ := hc
            exact ⟨e', Or.inl he'⟩
          · exact ⟨e, Or.inr ⟨fun e' he' => hc ⟨e', he'⟩, he⟩⟩

/-- An operation fails when one of the causes is there, reports the first that is, and then leaves
what it was given. -/
structure Outcome.FailsAtomically {α : Type} (o : Outcome α) (given : α) (causes : List Cause) :
    Prop where
  fails : (∃ e, o.answer = .error e) ↔ ∃ c ∈ causes, ∃ e, c e
  reports : ∀ e, o.answer = .error e ↔ FirstCause causes e
  left : ∀ e, o.answer = .error e → o.left = given

/-- That an operation fails when there is a cause follows from what it reports. -/
theorem Outcome.FailsAtomically.of_reports {α : Type} {o : Outcome α} {given : α}
    {causes : List Cause} (hreports : ∀ e, o.answer = .error e ↔ FirstCause causes e)
    (hleft : ∀ e, o.answer = .error e → o.left = given) : o.FailsAtomically given causes := by
  refine ⟨?_, hreports, hleft⟩
  simp only [hreports]
  exact exists_firstCause_iff

/-! ## The causes -/

namespace Cause

/-- The document is no array. -/
def notArray (document : Json) : Cause := fun e =>
  document.array? = none ∧ e = .notACollection document.kind

/-- The window has no length or too great a one. -/
def badWindow (p : Processor) (w : Window) : Cause := fun e =>
  (w.length = 0 ∨ p.settings.maxResults < w.length)
    ∧ e = .invalidWindow w.length p.settings.maxResults

/-- There are too many rules in all the groups together. -/
def excessRules (p : Processor) (rules : RuleSet) : Cause := fun e =>
  p.settings.maxRules.toNat < rules.ruleCount
    ∧ e = .tooManyRules rules.ruleCount p.settings.maxRules

/-- Some rule is not in order; the first one, group by group, says how. -/
def badRule (rules : RuleSet) : Cause := fun e =>
  ∃ rule, Reaches Rule.Compiles rules.flatten rule ∧ Condition.ofRule rule = .error e

/-- Matching fails on some element; the first one says how, wherever it stands. -/
def badElement (p : Processor) (rules : RuleSet) (values : List Value) : Cause := fun e =>
  ∃ m : Matcher, m.Realizes p rules
    ∧ ∃ v, Reaches (fun v => ∃ b, m.accepts v = .ok b) values v ∧ m.accepts v = .error e

/-- The causes that every call has once its window and its document are in order. -/
def ofCall (p : Processor) (rules : RuleSet) (values : List Value) : List Cause :=
  [excessRules p rules, badRule rules, badElement p rules values]

end Cause

namespace Processor

variable {p : Processor} {rules : RuleSet}

theorem compile_reports (e : Error) :
    p.compile rules = .error e
      ↔ FirstCause [Cause.excessRules p rules, Cause.badRule rules] e := by
  have habsent : (∀ e', ¬ Cause.excessRules p rules e')
      ↔ rules.ruleCount ≤ p.settings.maxRules.toNat := by
    simp [Cause.excessRules]
  rw [compile_eq_error_iff, FirstCause, firstCause_singleton, habsent]
  rfl

/-- With rules that compile, the elements are what is left to fail. -/
theorem badElement_iff_of_compile {m : Matcher} (hm : p.compile rules = .ok m) {values : List Value}
    {e : Error} : Cause.badElement p rules values e ↔ m.scan values = .error e := by
  rw [Matcher.scan_eq_mapM, mapM_eq_error_iff]
  obtain ⟨hcount, hready⟩ := compile_eq_ok_iff.1 hm
  constructor
  · rintro ⟨m', hready', h⟩
    -- there is only one matcher for the rules
    have hm' : p.compile rules = .ok m' := compile_eq_ok_iff.2 ⟨hcount, hready'⟩
    rw [hm, Except.ok.injEq] at hm'
    subst hm'
    exact h
  · intro h
    exact ⟨m, hready, h⟩

theorem scan_reports (values : List Value) (e : Error) :
    (do (← p.compile rules).scan values) = .error e
      ↔ FirstCause (Cause.ofCall p rules values) e := by
  have hsplit : FirstCause (Cause.ofCall p rules values) e
      ↔ p.compile rules = .error e ∨ (∀ e', p.compile rules ≠ .error e')
          ∧ Cause.badElement p rules values e := by
    have hcauses : Cause.ofCall p rules values
        = [Cause.excessRules p rules, Cause.badRule rules]
          ++ [Cause.badElement p rules values] := rfl
    rw [hcauses, firstCause_append, firstCause_singleton]
    simp only [compile_reports, Ne]
  rw [hsplit]
  cases hm : p.compile rules with
  | error e' => simp [bind, Except.bind]
  | ok m => simp [bind, Except.bind, badElement_iff_of_compile hm]

variable {α : Type} [Candidate α]

theorem keep_failsAtomically (w : Window) (items : List α) :
    (p.keep rules w items).FailsAtomically items
      (Cause.ofCall p rules (items.map Candidate.value)) := by
  refine .of_reports (fun e => ?_) (fun e => ?_)
  · rw [← scan_reports, keep]
    cases (do (← p.compile rules).scan (items.map Candidate.value)) <;> simp
  · rw [keep]
    cases (do (← p.compile rules).scan (items.map Candidate.value)) <;> simp

theorem applyWindow_failsAtomically (w : Window) (items : List α) :
    (p.applyWindow rules w items).FailsAtomically items
      (Cause.badWindow p w :: Cause.ofCall p rules (items.map Candidate.value)) := by
  have hkeep : (p.keep rules w items).FailsAtomically items
      (Cause.ofCall p rules (items.map Candidate.value)) := keep_failsAtomically w items
  by_cases hw : w.length = 0 ∨ p.settings.maxResults < w.length
  · refine .of_reports (fun e => ?_) (fun e _ => ?_)
    · simp [applyWindow, FirstCause, Cause.badWindow, hw, eq_comm]
    · rw [applyWindow, if_pos hw]
  · rw [applyWindow, if_neg hw]
    refine .of_reports (fun e => ?_) hkeep.left
    simp [FirstCause, Cause.badWindow, hw, hkeep.reports]

/-- Working on a document fails as working on its items does, once it is an array. -/
theorem onItems_failsAtomically {work : List Json → Outcome (List Json)} {document : Json}
    {causes : List Cause}
    (hwork : (work (document.array?.getD [])).FailsAtomically (document.array?.getD []) causes) :
    (onItems work document).FailsAtomically document (Cause.notArray document :: causes) := by
  cases document with
  | array items =>
      refine .of_reports (fun e => ?_) (fun e he => ?_)
      · simpa [onItems, FirstCause, Cause.notArray, Json.array?] using hwork.reports e
      · exact congrArg Json.array (hwork.left e he)
  | _ =>
      refine .of_reports (fun e => ?_) (fun e _ => rfl)
      simp [onItems, FirstCause, Cause.notArray, Json.array?, eq_comm]

/-- **How filtering fails.** Every entry point fails exactly when one of its causes is there,
reports the first of them in the order of the list, and leaves the collection or the document as
it was. -/
theorem failsAtomically_with_first_cause (p : Processor) (rules : RuleSet) (w : Window)
    (items : List α) (document : Json) :
    let causes := Cause.ofCall p rules (items.map Candidate.value)
    let documentCauses :=
      Cause.ofCall p rules ((document.array?.getD []).map Candidate.value)
    (p.apply rules items).FailsAtomically items causes
      ∧ (p.applyWindow rules w items).FailsAtomically items (Cause.badWindow p w :: causes)
      ∧ (p.applyJson rules document).FailsAtomically document
          (Cause.notArray document :: documentCauses)
      ∧ (p.applyWindowJson rules w document).FailsAtomically document
          (Cause.notArray document :: Cause.badWindow p w :: documentCauses) :=
  ⟨keep_failsAtomically _ items, applyWindow_failsAtomically w items,
    onItems_failsAtomically (keep_failsAtomically _ _),
    onItems_failsAtomically (applyWindow_failsAtomically w _)⟩

end Processor

end RuleFilter
