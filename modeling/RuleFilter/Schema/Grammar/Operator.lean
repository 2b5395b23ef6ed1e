import RuleFilter.Schema.Grammar.Part

set_option autoImplicit false

/-! # Operators

An expression is operands with operators between them. How tightly an operator binds decides what
its right operand is, comparisons have no chains, and a range is no operand. -/

namespace RuleFilter.Schema

open TokenReader

/-- How tightly operators bind. -/
def assignmentLevel : Nat := 1
def rangeLevel : Nat := 2
def comparisonLevel : Nat := 6
def castLevel : Nat := 13

/-- The operators between two operands with how tightly they bind, longer ones first. -/
def binaryOperators : List (String × Nat) :=
  ["+=", "-=", "*=", "/=", "%=", "^=", "&=", "|=", "<<=", ">>="].map (·, assignmentLevel) ++
    [("&&", 4), ("||", 3), ("<<", 10), (">>", 10)] ++
    ["==", "<=", "!=", ">="].map (·, comparisonLevel) ++
    [("+", 11), ("-", 11), ("*", 12), ("/", 12), ("%", 12), ("^", 8), ("&", 9), ("|", 7)] ++
    ["<", ">"].map (·, comparisonLevel)

/-- The operator that comes next. -/
def binaryOperator? (ts : List Token) : Option (String × Nat) :=
  binaryOperators.find? fun (sign, _) => Lookahead.sign sign ts

/-- An assignment comes next. -/
def Lookahead.assignment : Lookahead := fun ts =>
  Lookahead.sign "=" ts && !Lookahead.sign "=>" ts

/-- How tightly what comes next binds. -/
def nextLevel (ts : List Token) : Nat :=
  match binaryOperator? ts with
  | some (_, level) => level
  | none =>
    if Lookahead.assignment ts then assignmentLevel
    else if Lookahead.sign ".." ts then rangeLevel
    else if Lookahead.word ["as"] ts then castLevel
    else 0

/-- Takes the right operand of an operator. -/
def rightOperand (read : PartReader) (braces : Bool) (level : Nat) : TokenReader Unit := do
  let operand ← read (.operand braces)
  let _ ← read (.rightOperators braces operand level)

/-- Takes operators that bind tighter than the one whose right operand this is. Assignments group to
the right. -/
def rightOperatorsPart (read : PartReader) (braces : Bool) (operand : Form) (level : Nat) :
    TokenReader Form := do
  let ts ← get
  let next := nextLevel ts
  if level < next || (next = level && level = assignmentLevel) then
    let operand ← read (.operators braces operand next)
    if (← get).length = ts.length then return operand
    else read (.rightOperators braces operand level)
  else return operand

/-- The end of a range may be missing before what comes next. -/
def Lookahead.rangeEnd (braces : Bool) : Lookahead := fun ts =>
  ts.isEmpty || (Lookahead.sign "." ts && !Lookahead.sign ".." ts) ||
    Lookahead.anySign [",", ";", "?", "=>", "=", "+", "/", "%", "^", ">", "<=", "!=", "-=", "*=",
      "&=", "|=", "<<="] ts ||
    Lookahead.word ["as"] ts || (!braces && Lookahead.group .curly ts)

/-- Takes the sign of a range and its end. -/
def rangeTail (read : PartReader) (braces : Bool) : TokenReader Form := do
  if ← acceptSign "..=" then rightOperand read braces rangeLevel
  else if ← aheadSign "..." then failure
  else
    expectSign ".."
    unless ← ahead (.rangeEnd braces) do rightOperand read braces rangeLevel
  return .range

/-- Takes the type of a cast, which nothing may follow that follows an operand. -/
def castType (read : PartReader) : TokenReader Unit := do
  let _ ← read (.type false)
  let trailing := ((← aheadSign ".") && !(← aheadSign "..")) || (← aheadSign "?") ||
    (← ahead (.group .square)) || (← ahead (.group .round))
  if trailing then failure

/-- Takes operators with their right operands, behind an operand. Comparisons have no chains, and a
range is no operand. -/
def operatorsPart (read : PartReader) (braces : Bool) (left : Form) (least : Nat) :
    TokenReader Form := do
  let ts ← get
  if left = .range then return left
  match binaryOperator? ts with
  | some (sign, level) =>
    if level < least then return left
    let isComparison := level = comparisonLevel
    if isComparison && left = .comparison then failure
    skip sign.length
    rightOperand read braces level
    read (.operators braces (if isComparison then .comparison else .other) least)
  | none =>
    if least ≤ assignmentLevel && (← ahead .assignment) then
      skip 1
      rightOperand read braces assignmentLevel
      read (.operators braces .other least)
    else if least ≤ rangeLevel && (← aheadSign "..") then
      let form ← rangeTail read braces
      read (.operators braces form least)
    else if least ≤ castLevel && (← aheadWord "as") then
      skip 1
      castType read
      read (.operators braces .other least)
    else return left

end RuleFilter.Schema
