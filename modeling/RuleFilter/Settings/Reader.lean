import RuleFilter.Rule.Reader
import RuleFilter.Settings.Basic

set_option autoImplicit false

/-! # Reading settings

Settings are written as an object, in which nothing unknown and nothing twice may occur, or as a
list of their values in order. What is not given keeps its initial value. Limits are plain integers
that are not negative and fit 64 bits. -/

namespace RuleFilter

open Json (Fault WithRest)

namespace Settings

/-- Reads a text or null. -/
def readOptionalText (cs : List Char) : Except Fault (WithRest (Option String)) :=
  match Json.skipBlanks cs with
  | 'n' :: rest => (Json.readWord ['u', 'l', 'l'] rest).map (none, ·)
  | cs => (Json.readText? cs).map fun (s, rest) => (some s, rest)

/-- Reads a limit. -/
def readLimit (cs : List Char) : Except Fault (WithRest UInt64) :=
  match Json.skipBlanks cs with
  | [] => .error .endOfText
  | c :: rest =>
    if c = '-' || c.isDigit then do
      match ← Json.readNumber (c :: rest) with
      | (.signed n, rest) => if n.toInt < 0 then throw .shape else return (n.toUInt64, rest)
      | (.unsigned n, rest) => return (n, rest)
      | (.double _, _) => throw .shape
    else .error (Json.misfit (c :: rest))

/-- The settings met so far. -/
structure Draft where
  fieldNameTag : Option (Option String)
  queryKey : Option String
  maxRules : Option UInt64
  maxResults : Option UInt64

/-- What is missing keeps its initial value. -/
def Draft.finish (draft : Draft) : Settings :=
  ⟨draft.fieldNameTag.getD initial.fieldNameTag, draft.queryKey.getD initial.queryKey,
    draft.maxRules.getD initial.maxRules, draft.maxResults.getD initial.maxResults⟩

/-- Reads a setting, behind its key. -/
def Draft.readMember (draft : Draft) (key : String) (cs : List Char) :
    Except Fault (WithRest Draft) := do
  match key with
  | "field_name_tag" =>
    if draft.fieldNameTag.isSome then throw .shape
    let (tag, cs) ← readOptionalText (← Json.readColon cs)
    return ({ draft with fieldNameTag := some tag }, cs)
  | "query_key" =>
    if draft.queryKey.isSome then throw .shape
    let (key, cs) ← Json.readText? (← Json.readColon cs)
    return ({ draft with queryKey := some key }, cs)
  | "max_rules" =>
    if draft.maxRules.isSome then throw .shape
    let (max, cs) ← readLimit (← Json.readColon cs)
    return ({ draft with maxRules := some max }, cs)
  | "max_results" =>
    if draft.maxResults.isSome then throw .shape
    let (max, cs) ← readLimit (← Json.readColon cs)
    return ({ draft with maxResults := some max }, cs)
  | _ => throw .shape

/-- Reads settings written as a list, behind the bracket. -/
def readParts (cs : List Char) : Except Fault (WithRest Settings) := do
  let (tag, cs) ← Json.readPart readOptionalText initial.fieldNameTag true cs
  let (key, cs) ← Json.readPart Json.readText? initial.queryKey false cs
  let (maxRules, cs) ← Json.readPart readLimit initial.maxRules false cs
  let (maxResults, cs) ← Json.readPart readLimit initial.maxResults false cs
  return (⟨tag, key, maxRules, maxResults⟩, ← Json.closeArray cs)

/-- Reads settings, at the front of a text of at most `fuel` characters. -/
def read (fuel : Nat) (cs : List Char) : Except Fault (WithRest Settings) :=
  match Json.skipBlanks cs with
  | [] => .error .endOfText
  | '[' :: rest => readParts rest
  | '\x7b' :: rest =>
    (Json.readMembers Draft.readMember fuel true ⟨none, none, none, none⟩ rest).map
      fun (draft, rest) => (draft.finish, rest)
  | cs => .error (Json.misfit cs)

/-- Reads a text that holds settings. -/
def ofText (text : String) : Except Fault Settings := Json.readText (read (text.length + 1)) text

end Settings

end RuleFilter
