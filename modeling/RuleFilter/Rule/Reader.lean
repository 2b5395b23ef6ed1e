import RuleFilter.Error
import RuleFilter.Rule.Basic

set_option autoImplicit false

/-! # Reading rules

A rule is written as an object, whose members may be missing or come in any order and among unknown
ones, or as a list of its three parts, of which the last ones may be missing. Every part is read in
the form it has to have, so what is wrong with the first part in the text is what is reported. -/

namespace RuleFilter

namespace Json

/-- Reads a text value. -/
def readText? (cs : List Char) : Except Fault (WithRest String) :=
  match skipBlanks cs with
  | [] => .error .endOfText
  | '"' :: rest => readString rest
  | cs => .error (misfit cs)

/-- Reads an array of what `item` reads, which is given what is left of the budget. -/
def readArray {α : Type} (item : Nat → List Char → Except Fault (WithRest α)) (fuel budget : Nat)
    (cs : List Char) : Except Fault (WithRest (List α)) :=
  match skipBlanks cs with
  | [] => .error .endOfText
  | '[' :: rest =>
    if budget ≤ 1 then .error .malformed else readItems (item (budget - 1)) fuel true rest
  | cs => .error (misfit cs)

/-- Reads the next part of a list of parts, or takes a default where the list has ended. -/
def readPart {α : Type} (part : List Char → Except Fault (WithRest α)) (default : α) (first : Bool)
    (cs : List Char) : Except Fault (WithRest α) := do
  match ← nextItem first cs with
  | none => return (default, cs)
  | some cs => part cs

end Json

open Json (Fault WithRest)

/-- The parts of a rule met so far. -/
structure RuleDraft where
  field : Option String
  tag : Option String
  value : Option OrderedReference

/-- A missing part is empty. -/
def RuleDraft.finish (draft : RuleDraft) : Rule :=
  ⟨draft.field.getD "", draft.tag.getD "", draft.value.getD .null⟩

/-- Reads a reference. -/
def OrderedReference.read (fuel budget : Nat) (cs : List Char) :
    Except Fault (WithRest OrderedReference) :=
  (Json.readValue fuel budget cs).map fun (j, rest) => (.ofJson j, rest)

/-- Reads a member of a rule, behind its key. No part may be given twice; what is unknown is passed
over. -/
def RuleDraft.readMember (fuel budget : Nat) (draft : RuleDraft) (key : String) (cs : List Char) :
    Except Fault (WithRest RuleDraft) := do
  match key with
  | "field" =>
    if draft.field.isSome then throw .shape
    let (field, cs) ← Json.readText? (← Json.readColon cs)
    return ({ draft with field := some field }, cs)
  | "type" =>
    if draft.tag.isSome then throw .shape
    let (tag, cs) ← Json.readText? (← Json.readColon cs)
    return ({ draft with tag := some tag }, cs)
  | "value" =>
    if draft.value.isSome then throw .shape
    let (value, cs) ← OrderedReference.read fuel budget (← Json.readColon cs)
    return ({ draft with value := some value }, cs)
  | _ => return (draft, ← Json.skipValue fuel (← Json.readColon cs))

/-- Reads a rule written as a list of its parts, behind the bracket. -/
def Rule.readParts (fuel budget : Nat) (cs : List Char) : Except Fault (WithRest Rule) := do
  let (field, cs) ← Json.readPart Json.readText? "" true cs
  let (tag, cs) ← Json.readPart Json.readText? "" false cs
  let (value, cs) ← Json.readPart (OrderedReference.read fuel budget) .null false cs
  return (⟨field, tag, value⟩, ← Json.closeArray cs)

/-- Reads a rule. -/
def Rule.read (fuel budget : Nat) (cs : List Char) : Except Fault (WithRest Rule) :=
  match Json.skipBlanks cs with
  | [] => .error .endOfText
  | '[' :: rest => if budget ≤ 1 then .error .malformed else Rule.readParts fuel (budget - 1) rest
  | '\x7b' :: rest =>
    if budget ≤ 1 then .error .malformed
    else (Json.readMembers (RuleDraft.readMember fuel (budget - 1)) fuel true ⟨none, none, none⟩
      rest).map fun (draft, rest) => (draft.finish, rest)
  | cs => .error (Json.misfit cs)

namespace RuleSet

/-- Reads a rule set, at the front of a text of at most `fuel` characters. -/
def read (fuel : Nat) (cs : List Char) : Except Fault (WithRest RuleSet) :=
  Json.readArray (Json.readArray (Rule.read fuel) fuel) fuel Json.nestingBudget cs

/-- Reads a text that holds a rule set. -/
def ofText (text : String) : Except Error RuleSet :=
  (Json.readText (read (text.length + 1)) text).mapError .undecodable

end RuleSet

end RuleFilter
