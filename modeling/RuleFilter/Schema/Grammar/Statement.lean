import RuleFilter.Schema.Grammar.Operand
import RuleFilter.Schema.Grammar.Pattern

set_option autoImplicit false

/-! # Statements

A block holds statements. One that ends with a block needs no semicolon behind it. Declarations are
passed over by where they end. -/

namespace RuleFilter.Schema

open TokenReader

/-- An expression that ends with a block comes next. -/
def Lookahead.blockStart : Lookahead := fun ts =>
  let after := ts.drop 1
  Lookahead.word ["if", "while", "loop", "match", "unsafe"] ts || Lookahead.tryBlock ts ||
    (Lookahead.word ["for"] ts && !Lookahead.closureStart ts) ||
    (Lookahead.word ["const"] ts && Lookahead.group .curly after) || Lookahead.group .curly ts ||
    Lookahead.lifetime ts

/-- Takes an expression as a statement: one that ends with a block ends there, unless a member or a
question mark follows. -/
def statementExpressionPart (read : PartReader) : TokenReader Form := do
  let attributed ← outerAttributes read
  if ← ahead .blockStart then
    let form ← atom read true
    if ((← aheadSign ".") && !(← aheadSign "..")) || (← aheadSign "?") then
      let operand ← read (.trailers form)
      read (.operators true operand 0)
    else return form
  else
    let operand ← read (.operand true)
    if attributed && operand = .range then failure
    read (.operators true operand 0)

/-- A declaration comes next. -/
def Lookahead.declarationStart : Lookahead := fun ts =>
  let after := ts.drop 1
  let behind := ts.drop 2
  let functionWords := ["unsafe", "extern", "fn"]
  let word (words : List String) : Bool := Lookahead.word words ts
  let next (words : List String) : Bool := Lookahead.word words after
  word ["pub", "extern", "use", "fn", "mod", "type", "struct", "enum", "trait", "impl", "macro"] ||
    (word ["crate"] && !Lookahead.sign "::" after) ||
    (word ["static"] && (next ["mut"] || Lookahead.name after)) ||
    (word ["const"] && !(Lookahead.group .curly after || next ["static", "move"] ||
      Lookahead.sign "|" after || (next ["async"] && !Lookahead.word functionWords behind))) ||
    (word ["unsafe"] && !Lookahead.group .curly after) ||
    (word ["async"] && next functionWords) ||
    (word ["union"] && Lookahead.name after) || (word ["auto"] && next ["trait"]) ||
    (word ["default"] && next ["unsafe", "impl"])

/-- Passes over a declaration: up to a semicolon or, unless it has a value, up to a block. -/
def passDeclaration (valued : Bool) : Nat → TokenReader Unit
  | 0 => failure
  | fuel + 1 => do
    if ← acceptSign ";" then return
    else if ← atEnd then failure
    else
      let atBlock ← accept (.group .curly)
      unless atBlock do skip 1
      if atBlock && !valued then return
      passDeclaration valued fuel

/-- What follows the path and the exclamation mark of a macro call at the start of a statement. -/
def macroRest? (ts : List Token) : Option (List Token) := do
  let (_, rest) ← plainPath.run ts
  if Lookahead.sign "!" rest then return rest.drop 1 else none

/-- Takes the declaration of a local variable. -/
def localVariable (read : PartReader) : TokenReader Unit := do
  expectWord "let"
  let _ ← read .pattern
  if ← acceptSign ":" then
    let _ ← read (.type true)
  if ← acceptSign "=" then
    let before ← get
    let _ ← read (.expression true)
    let taken := before.take (before.length - (← get).length)
    let braced := match taken.getLast? with
      | some (.group .curly _) => true
      | _ => false
    unless braced do
      if ← acceptWord "else" then
        let _ ← block read
  expectSign ";"

/-- Takes a statement, and tells whether another one may follow. -/
def statement (read : PartReader) : TokenReader Bool := do
  let _ ← outerAttributes read
  let called := macroRest? (← get)
  let declaresMacro := called.any fun ts => Lookahead.name ts || Lookahead.word ["try"] ts
  let callsBlock := called.any fun ts =>
    let after := ts.drop 1
    Lookahead.group .curly ts &&
      !((Lookahead.sign "." after && !Lookahead.sign ".." after) || Lookahead.sign "?" after)
  if callsBlock then
    set (called.getD [])
    skip 1
    let _ ← acceptSign ";"
    return true
  else if ← aheadWord "let" then
    localVariable read
    return true
  else if declaresMacro || (← ahead .declarationStart) then
    let valued ← ahead (.word ["const", "static", "type", "use"])
    let valued := valued && !(← ahead (.second (.word ["fn", "unsafe", "extern", "async"])))
    passDeclaration valued ((← get).length + 1)
    return true
  else
    let form ← read .statementExpression
    if ← acceptSign ";" then return true
    return form = .block || form = .bracedCall

/-- Takes all statements of a block. -/
def statementsPart (read : PartReader) : TokenReader Form := do
  modify (·.dropWhile fun t => match t with | .sign ';' _ => true | _ => false)
  if ← atEnd then return .other
  let complete ← statement read
  if ← atEnd then return .other
  if complete then read .statements else failure

end RuleFilter.Schema
