import RuleFilter.Processor.Matcher
import RuleFilter.Rule.Reader
import RuleFilter.Settings.Basic
import RuleFilter.Value.Candidate

set_option autoImplicit false

/-! # Processors

A processor applies rule sets to collections under settings that are within bounds. Applying rules
keeps the elements that match, in order: the first ones up to the limit, or those in a window
counted among the matches. If anything fails, the collection stays as it was. -/

namespace RuleFilter

/-- A processor. -/
structure Processor where
  settings : Settings
  valid : settings.fault? = none

/-- How many elements were kept, and how many match. -/
structure Selection where
  kept : Nat
  total : Nat
deriving DecidableEq, Inhabited

/-- A collection after an operation, and what the operation answers. -/
structure Outcome (α : Type) where
  left : α
  answer : Except Error Selection

/-- A part of the matches, by the number to pass over and the number to keep. -/
structure Window where
  offset : UInt64
  length : UInt64

namespace Processor

/-! ## Making processors -/

/-- A processor with the initial settings. -/
def initial : Processor := ⟨.initial, by decide⟩

instance : Inhabited Processor := ⟨initial⟩

/-- A processor with given settings. -/
def ofSettings (settings : Settings) : Except Error Processor :=
  match h : settings.fault? with
  | none => .ok ⟨settings, h⟩
  | some fault => .error (.invalidSetting fault)

/-- A processor with changes to the initial settings. -/
def build (changes : List Settings.Change) : Except Error Processor :=
  ofSettings (.ofChanges changes)

/-! ## Rules -/

/-- The rules a request carries: those of the first parameter with the processor's key, none where
it is missing or empty. -/
def parseQuery (p : Processor) (params : List (String × String)) : Except Error RuleSet :=
  match params.lookup p.settings.queryKey with
  | none => .ok []
  | some text => if text = "" then .ok [] else RuleSet.ofText text

/-- Makes rules ready, if there are not too many and each is in order. -/
def compile (p : Processor) (rules : RuleSet) : Except Error Matcher :=
  if p.settings.maxRules.toNat < rules.ruleCount then
    .error (.tooManyRules rules.ruleCount p.settings.maxRules)
  else do
    let groups ← rules.mapM fun group => group.mapM Condition.ofRule
    return ⟨groups, p.settings.fieldNameTag⟩

/-! ## Keeping elements -/

/-- Keeps the marked elements whose number among the marked ones lies from `start` up to, not
including, `stop`; `ordinal` are marked before. -/
def retain {α : Type} (start stop : Nat) : (ordinal : Nat) → List Bool → List α → List α
  | ordinal, true :: mask, x :: xs =>
    if start ≤ ordinal ∧ ordinal < stop then x :: retain start stop (ordinal + 1) mask xs
    else retain start stop (ordinal + 1) mask xs
  | ordinal, false :: mask, _ :: xs => retain start stop ordinal mask xs
  | _, _, _ => []

/-- The largest offset there is. -/
def lastOffset : Nat := UInt64.size - 1

/-- Where a window ends; it does not reach beyond the largest offset. -/
def windowEnd (w : Window) : Nat := min (w.offset.toNat + w.length.toNat) lastOffset

/-- Keeps the matches in a window, if nothing fails. -/
def keep {α : Type} [Candidate α] (p : Processor) (rules : RuleSet) (w : Window) (items : List α) :
    Outcome (List α) :=
  match do (← p.compile rules).scan (items.map Candidate.value) with
  | .error e => ⟨items, .error e⟩
  | .ok mask =>
    let kept := retain w.offset.toNat (windowEnd w) 0 mask items
    ⟨kept, .ok ⟨kept.length, mask.count true⟩⟩

/-- Keeps the first matches, as many as the settings allow. -/
def apply {α : Type} [Candidate α] (p : Processor) (rules : RuleSet) (items : List α) :
    Outcome (List α) :=
  p.keep rules ⟨0, p.settings.maxResults⟩ items

/-- Keeps the matches in a window, which may be as long as the settings allow. -/
def applyWindow {α : Type} [Candidate α] (p : Processor) (rules : RuleSet) (w : Window)
    (items : List α) : Outcome (List α) :=
  if w.length = 0 ∨ p.settings.maxResults < w.length then
    ⟨items, .error (.invalidWindow w.length p.settings.maxResults)⟩
  else p.keep rules w items

/-! ## Documents -/

/-- Works on the items of a document, which has to be an array. -/
def onItems (work : List Json → Outcome (List Json)) : Json → Outcome Json
  | .array items =>
    let outcome := work items
    ⟨.array outcome.left, outcome.answer⟩
  | document => ⟨document, .error (.notACollection document.kind)⟩

/-- Keeps the first matches among the items of a document. -/
def applyJson (p : Processor) (rules : RuleSet) (document : Json) : Outcome Json :=
  onItems (p.apply rules) document

/-- Keeps the matches in a window among the items of a document. -/
def applyWindowJson (p : Processor) (rules : RuleSet) (w : Window) (document : Json) :
    Outcome Json :=
  onItems (p.applyWindow rules w) document

end Processor

end RuleFilter
