import RuleFilter.Schema.Grammar.Path

set_option autoImplicit false

/-! # Patterns

A pattern is what stands before the arrow of a choice, behind `let` and as an argument of a
closure. -/

namespace RuleFilter.Schema

open TokenReader

/-- The end of a range may be missing before what comes next. -/
def Lookahead.boundMissing : Lookahead := fun ts =>
  ts.isEmpty || Lookahead.anySign ["|", "=", ",", ";"] ts ||
    (Lookahead.sign ":" ts && !Lookahead.sign "::" ts) || Lookahead.word ["if"] ts

/-- Takes an end of a range of patterns, and tells whether there is one. -/
def rangeBound (read : PartReader) : TokenReader Bool := do
  if ← ahead .boundMissing then return false
  if ← ahead .literal then expectLiteral
  else if ← ahead .pathStart then
    let _ ← qualifiedPath read true
  else if ← acceptWord "const" then body read
  else failure
  return true

/-- Takes the sign of a range and its end, behind its start. -/
def rangeRest (read : PartReader) : TokenReader Form := do
  let closed ← if ← acceptSign "..=" then pure true
    else if ← acceptSign "..." then pure true
    else do expectSign ".."; pure false
  let ended ← rangeBound read
  if closed && !ended then failure
  return if ended then .other else .range

/-- Takes a field of a structure pattern. -/
def fieldPattern (read : PartReader) : TokenReader Unit := do
  let boxed ← acceptWord "box"
  let referred ← acceptWord "ref"
  let mutable ← acceptWord "mut"
  if boxed || referred || mutable then expect .name
  else
    let named ← accept .name
    unless named do
      match ← get with
      | .integer value false :: rest => if value < UInt32.size then set rest else failure
      | _ => failure
    if !named || (← aheadSign ":") then
      expectSign ":"
      let _ ← read .alternatives

def structurePatternFrom (read : PartReader) : Nat → TokenReader Unit
  | 0 => failure
  | fuel + 1 => do
    if ← atEnd then return
    let _ ← outerAttributes read
    if ← acceptSign ".." then return
    fieldPattern read
    if ← atEnd then return
    expectSign ","
    structurePatternFrom read fuel

/-- Takes a pattern that starts with a path. -/
def pathPattern (read : PartReader) : TokenReader Form := do
  let shape ← qualifiedPath read true
  if ← callsMacro shape then
    skip 1
    expect .anyGroup
    return .other
  else if ← ahead (.group .curly) then
    inside .curly do structurePatternFrom read ((← get).length + 1)
    return .other
  else if ← ahead (.group .round) then
    roundList read .alternatives
    return .other
  else if ← aheadSign ".." then rangeRest read
  else return .other

/-- Takes a name in a pattern, with a pattern it may stand for. -/
def namePattern (read : PartReader) : TokenReader Form := do
  let _ ← acceptWord "ref"
  let _ ← acceptWord "mut"
  expect (.nameOr ["self"])
  if ← acceptSign "@" then
    let _ ← read .pattern
  return .other

/-- A path rather than a name comes next in a pattern. -/
def Lookahead.patternPath : Lookahead := fun ts =>
  let after := ts.drop 1
  (Lookahead.name ts && (Lookahead.anySign ["::", "!", ".."] after ||
    Lookahead.group .curly after || Lookahead.group .round after)) ||
  (Lookahead.word ["self"] ts && Lookahead.sign "::" after) || Lookahead.anySign ["::", "<"] ts ||
  Lookahead.word ["Self", "super", "crate"] ts

/-- Takes a pattern without alternatives. -/
def patternPart (read : PartReader) : TokenReader Form := do
  if ← ahead .patternPath then pathPattern read
  else if ← acceptWord "_" then return .other
  else if ← acceptWord "box" then
    let _ ← read .pattern
    return .other
  else if (← aheadSign "-") || (← ahead .literal) || (← aheadWord "const") then
    if ← rangeBound read then
      if ← aheadSign ".." then rangeRest read else return .other
    else failure
  else if (← ahead .name) || (← ahead (.word ["ref", "mut", "self"])) then namePattern read
  else if ← acceptSign "&" then
    let _ ← acceptWord "mut"
    let _ ← read .pattern
    return .other
  else if ← ahead (.group .round) then
    roundList read .alternatives
    return .other
  else if ← ahead (.group .square) then
    let elements ← inside .square (commaList (read .alternatives))
    if elements.contains .range then failure
    return .other
  else if (← aheadSign "..") && !(← aheadSign "...") then
    let closed ← acceptSign "..="
    unless closed do expectSign ".."
    let ended ← rangeBound read
    if closed && !ended then failure
    return if ended then .range else .other
  else failure

def aheadBar : TokenReader Bool := do
  return (← aheadSign "|") && !(← ahead (.anySign ["||", "|="]))

def alternativesFrom (read : PartReader) : Nat → TokenReader Unit
  | 0 => failure
  | fuel + 1 => do
    if ← aheadBar then
      skip 1
      let _ ← read .pattern
      alternativesFrom read fuel

/-- Takes alternatives of a pattern; there may be a bar in front. -/
def alternativesPart (read : PartReader) : TokenReader Form := do
  let leading ← acceptSign "|"
  let first ← read .pattern
  let several := leading || (← aheadBar)
  alternativesFrom read ((← get).length + 1)
  return if several then .other else first

end RuleFilter.Schema
