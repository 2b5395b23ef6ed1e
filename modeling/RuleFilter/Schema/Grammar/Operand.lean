import RuleFilter.Schema.Grammar.Operator
import RuleFilter.Schema.Grammar.Type

set_option autoImplicit false

/-! # Operands

An operand is what operators join: a literal, a path, something in brackets, or an expression that
starts with a word of its own, with signs in front of it and calls, members and indices behind
it. -/

namespace RuleFilter.Schema

open TokenReader

/-- Takes a member of a value: a name or a number. -/
def takeMember : TokenReader Bool := do
  match ← get with
  | .integer value false :: rest => if value < UInt32.size then set rest; return false else failure
  | ts => if Lookahead.name ts then skip 1; return true else failure

/-- Splits characters at points. -/
def splitPoints : List Char → List (List Char)
  | [] => [[]]
  | '.' :: rest => [] :: splitPoints rest
  | c :: rest =>
    match splitPoints rest with
    | part :: parts => (c :: part) :: parts
    | [] => [[c]]

/-- A number of a member, as written. -/
def isMemberNumber (digits : List Char) : Bool :=
  match readInteger digits with
  | some (value, []) => value < UInt32.size
  | _ => false

/-- Takes what stands behind the point of a member: a name or number, `await`, arguments of a call.
Two numbers with a point between them look like one number. -/
def memberTrailer (read : PartReader) : TokenReader Unit := do
  let whole ← match ← get with
    | .decimal text :: rest =>
      set rest
      let ended := text.getLast? = some '.'
      let text := if ended then text.dropLast else text
      unless (splitPoints text).all isMemberNumber do failure
      pure !ended
    | _ => pure false
  if whole then return
  if ← acceptWord "await" then return
  let named ← takeMember
  let arguments ← if named && (← aheadSign "::") then
      skip 2
      genericArguments read
      pure true
    else pure false
  if arguments || (named && (← ahead (.group .round))) then
    roundList read (.expression true)

/-- Takes calls, members, indices and question marks behind an operand. -/
def trailersPart (read : PartReader) (left : Form) : TokenReader Form := do
  if ← ahead (.group .round) then
    roundList read (.expression true)
    read (.trailers .other)
  else if (← aheadSign ".") && !(← aheadSign "..") && left ≠ .range then
    skip 1
    memberTrailer read
    read (.trailers .other)
  else if ← ahead (.group .square) then
    let _ ← inside .square (read (.expression true))
    read (.trailers .other)
  else if (← aheadSign "?") && left ≠ .range then
    skip 1
    read (.trailers .other)
  else return left

/-- Takes an argument of a closure. -/
def closureArgument (read : PartReader) : TokenReader Unit := do
  let _ ← outerAttributes read
  let _ ← read .pattern
  if ← acceptSign ":" then
    let _ ← read (.type true)

def closureArgumentsFrom (read : PartReader) : Nat → TokenReader Unit
  | 0 => failure
  | fuel + 1 => do
    if ← acceptSign "|" then return
    closureArgument read
    if ← acceptSign "|" then return
    expectSign ","
    closureArgumentsFrom read fuel

/-- Takes a closure. -/
def closure (read : PartReader) (braces : Bool) : TokenReader Form := do
  let _ ← boundLifetimes read
  for word in ["const", "static", "async", "move"] do
    let _ ← acceptWord word
  expectSign "|"
  closureArgumentsFrom read ((← get).length + 1)
  if ← acceptSign "->" then
    let _ ← read (.type true)
    let _ ← block read
  else
    let _ ← read (.expression braces)
  return .other

/-- Takes a field of a structure. -/
def fieldValue (read : PartReader) : TokenReader Unit := do
  let _ ← outerAttributes read
  let named ← takeMember
  if !named || (← aheadSign ":") then
    expectSign ":"
    let _ ← read (.expression true)

def structureFieldsFrom (read : PartReader) : Nat → TokenReader Unit
  | 0 => failure
  | fuel + 1 => do
    if ← atEnd then return
    if ← acceptSign ".." then
      unless ← atEnd do
        let _ ← read (.expression true)
      return
    fieldValue read
    if ← atEnd then return
    expectSign ","
    structureFieldsFrom read fuel

/-- Takes a path, a macro call or a structure. -/
def pathOperand (read : PartReader) (braces : Bool) : TokenReader Form := do
  let shape ← qualifiedPath read true
  if ← callsMacro shape then
    skip 1
    let braced ← ahead (.group .curly)
    expect .anyGroup
    return if braced then .bracedCall else .other
  else if braces && (← ahead (.group .curly)) then
    inside .curly do structureFieldsFrom read ((← get).length + 1)
    return .other
  else return .other

/-- Takes elements in square brackets, or one that is repeated. -/
def arrayOperand (read : PartReader) : TokenReader Form := do
  inside .square do
    if ← atEnd then return
    let _ ← read (.expression true)
    if ← acceptSign ";" then
      let _ ← read (.expression true)
    else unless ← atEnd do
      expectSign ","
      let _ ← commaList (read (.expression true))
  return .other

/-- An expression may come next. -/
def Lookahead.expressionStart : Lookahead := fun ts =>
  let alone (sign : String) (longer : List String) : Bool :=
    Lookahead.sign sign ts && !Lookahead.anySign longer ts
  (Lookahead.anyName ts && !Lookahead.word ["as"] ts) || Lookahead.group .round ts ||
    Lookahead.group .square ts || Lookahead.group .curly ts || Lookahead.literal ts ||
    alone "!" ["!="] || alone "-" ["-=", "->"] || alone "*" ["*="] || alone "|" ["|="] ||
    alone "&" ["&="] || Lookahead.anySign ["..", "::", "#"] ts ||
    alone "<" ["<=", "<<="] || Lookahead.lifetime ts

/-- Takes an expression if one may come next. -/
def optionalExpression (read : PartReader) : TokenReader Form := do
  if ← ahead .expressionStart then
    let _ ← read (.expression true)
  return .other

/-- Takes the rest of a `break`: a label and a value. A labelled loop as the value needs
brackets. -/
def breakRest (read : PartReader) (braces : Bool) : TokenReader Form := do
  if ← accept .lifetime then
    if ← aheadSign ":" then failure
  if (← ahead .expressionStart) && (braces || !(← ahead (.group .curly))) then
    let _ ← read (.expression true)
  return .other

/-- Takes a condition with its block and what else there is. -/
def conditionalFrom (read : PartReader) : Nat → TokenReader Form
  | 0 => failure
  | fuel + 1 => do
    expectWord "if"
    let _ ← read (.expression false)
    let _ ← block read
    if ← acceptWord "else" then
      if ← aheadWord "if" then conditionalFrom read fuel
      else
        let _ ← block read
        return .block
    else return .block

/-- Takes a loop of any kind. -/
def loopOperand (read : PartReader) : TokenReader Form := do
  if ← acceptWord "while" then
    let _ ← read (.expression false)
  else if ← acceptWord "for" then
    let _ ← read .alternatives
    expectWord "in"
    let _ ← read (.expression false)
  else expectWord "loop"
  body read
  return .block

/-- Takes a choice by patterns. -/
def matchOperand (read : PartReader) : TokenReader Form := do
  expectWord "match"
  let _ ← read (.expression false)
  let _ ← inside .curly do
    innerAttributes read
    read .arms
  return .block

/-- Takes the arms of a choice. An arm that ends with a block needs no comma. -/
def armsPart (read : PartReader) : TokenReader Form := do
  if ← atEnd then return .other
  let _ ← outerAttributes read
  let _ ← read .alternatives
  if ← acceptWord "if" then
    let _ ← read (.expression true)
  expectSign "=>"
  let form ← read .statementExpression
  if form ≠ .block && !(← atEnd) then expectSign ","
  else
    let _ ← acceptSign ","
  read .arms

/-- Takes a loop or block behind a label. -/
def labelled (read : PartReader) : TokenReader Form := do
  expect .lifetime
  expectSign ":"
  if ← ahead (.group .curly) then
    body read
    return .block
  else loopOperand read

/-- Declarations of lifetimes come next, rather than a path that starts with a type in angle
brackets. -/
def Lookahead.lifetimesStart : Lookahead := fun ts =>
  let after := ts.drop 1
  let behind := ts.drop 2
  let separated := Lookahead.anySign [">", ",", "="] behind ||
    (Lookahead.sign ":" behind && !Lookahead.sign "::" behind)
  Lookahead.sign "<" ts && (Lookahead.anySign [">", "#"] after || Lookahead.word ["const"] after ||
    ((Lookahead.lifetime after || Lookahead.name after) && separated))

/-- A closure comes next. -/
def Lookahead.closureStart : Lookahead := fun ts =>
  let after := ts.drop 1
  Lookahead.sign "|" ts || Lookahead.word ["move", "static"] ts ||
    (Lookahead.word ["for"] ts && Lookahead.lifetimesStart after) ||
    (Lookahead.word ["const"] ts && !Lookahead.group .curly after) ||
    (Lookahead.word ["async"] ts && (Lookahead.sign "|" after || Lookahead.word ["move"] after))

/-- A block of its own kind comes next, behind a word. -/
def Lookahead.asyncBlock : Lookahead := fun ts =>
  Lookahead.word ["async"] ts && (Lookahead.group .curly (ts.drop 1) ||
    (Lookahead.word ["move"] (ts.drop 1) && Lookahead.group .curly (ts.drop 2)))

def Lookahead.tryBlock : Lookahead := fun ts =>
  Lookahead.word ["try"] ts && Lookahead.group .curly (ts.drop 1)

/-- Takes an operand that starts with a word. -/
def wordOperand (read : PartReader) (braces : Bool) (word : String) : TokenReader Form := do
  match word with
  | "break" => skip 1; breakRest read braces
  | "continue" =>
    skip 1
    let _ ← accept .lifetime
    return .other
  | "return" => skip 1; optionalExpression read
  | "yield" => skip 1; optionalExpression read
  | "become" =>
    skip 1
    let _ ← read (.expression true)
    return .other
  | "let" =>
    skip 1
    let _ ← read .alternatives
    expectSign "="
    let operand ← read (.operand braces)
    let _ ← read (.operators braces operand comparisonLevel)
    return .other
  | "if" => conditionalFrom read ((← get).length + 1)
  | "while" => loopOperand read
  | "for" => loopOperand read
  | "loop" => loopOperand read
  | "match" => matchOperand read
  | "unsafe" => skip 1; body read; return .block
  | "const" => skip 1; body read; return .block
  | "_" => skip 1; return .other
  | _ => failure

/-- Takes an operand without what may follow it. -/
def atom (read : PartReader) (braces : Bool) : TokenReader Form := do
  let tryPath := (← aheadWord "try") && (← ahead (.second (.anySign ["!", "::"])))
  let builtin := (← aheadWord "builtin") && (← ahead (.second (.sign "#")))
  match ← get with
  | .text value :: rest => set rest; return .text value
  | ts =>
    if Lookahead.literal ts then
      expectLiteral
      return .other
    else if Lookahead.asyncBlock ts then
      skip 1
      let _ ← acceptWord "move"
      let _ ← block read
      return .other
    else if Lookahead.tryBlock ts then
      skip 1
      let _ ← block read
      return .block
    else if Lookahead.closureStart ts then closure read braces
    else if builtin then
      skip 2
      expect .name
      let _ ← takeGroup .round
      return .other
    else if Lookahead.pathStart ts || tryPath then pathOperand read braces
    else if Lookahead.group .round ts then
      roundList read (.expression true)
      return .other
    else if Lookahead.group .square ts then arrayOperand read
    else if Lookahead.group .curly ts then
      body read
      return .block
    else if Lookahead.sign ".." ts then rangeTail read braces
    else if Lookahead.lifetime ts then labelled read
    else match ts with
      | .name word :: _ => wordOperand read braces word
      | _ => failure

/-- Takes an operand. -/
def operandPart (read : PartReader) (braces : Bool) : TokenReader Form := do
  let attributed ← outerAttributes read
  if ← acceptSign "&" then
    let qualifier := ["const", "mut"]
    if (← aheadWord "raw") && (← ahead (.second (.word qualifier))) then
      skip 2
    else
      let _ ← acceptWord "mut"
    let _ ← read (.operand braces)
    return .other
  else if ← ahead (.anySign ["*", "!", "-"]) then
    skip 1
    let _ ← read (.operand braces)
    return .other
  else
    let form ← read (.trailers (← atom read braces))
    if attributed && form = .range then failure
    return form

end RuleFilter.Schema
