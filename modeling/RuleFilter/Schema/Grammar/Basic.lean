import RuleFilter.Schema.Grammar.Statement

set_option autoImplicit false

/-! # Attributes and the grammar as a whole

The value of an attribute is a literal or an expression. With it all parts are there, and the circle
is closed: every turn from part to part uses up fuel. -/

namespace RuleFilter.Schema

open TokenReader

/-! ## Values -/

/-- Takes a value of an attribute: a literal that is all there is, or an expression. -/
def valuePart (read : PartReader) : TokenReader Form := do
  match ← get with
  | [.text value] => skip 1; return .text value
  | ts =>
    if Lookahead.sign "#" ts && Lookahead.group .square (ts.drop 1) then failure
    read (.expression true)

/-- Takes the path of an attribute. -/
def attributePath : TokenReader (List String) := do
  if ← acceptWord "unsafe" then return ["unsafe"] else plainPath

/-- Takes an attribute: a path alone, with a value or with a list. -/
def attributePart (read : PartReader) : TokenReader Form := do
  let _ ← attributePath
  if ← acceptSign "=" then valuePart read
  else
    let _ ← accept .anyGroup
    return .other

/-! ## Closing the circle -/

/-- Reads a part of the grammar, given a reader for the parts it has. -/
def partStep (read : PartReader) : PartReader
  | .expression braces => do
    let operand ← read (.operand braces)
    read (.operators braces operand 0)
  | .operand braces => operandPart read braces
  | .operators braces left least => operatorsPart read braces left least
  | .rightOperators braces operand level => rightOperatorsPart read braces operand level
  | .trailers left => trailersPart read left
  | .statementExpression => statementExpressionPart read
  | .statements => statementsPart read
  | .arms => armsPart read
  | .pattern => patternPart read
  | .alternatives => alternativesPart read
  | .type plus => typePart read plus
  | .bound => do
    let _ ← bound read true
    return .other
  | .attribute => attributePart read

/-- Reads a part of the grammar with some fuel. -/
def readPart : Nat → PartReader
  | 0 => fun _ => failure
  | fuel + 1 => partStep (readPart fuel)

end RuleFilter.Schema
