import RuleFilter.Schema.Grammar.Part

set_option autoImplicit false

/-! # Paths

A path is names with `::` between them. A name may have arguments in angle brackets, and the whole
may start with a type in angle brackets instead of a name. -/

namespace RuleFilter.Schema

open TokenReader

/-- What matters of a path. -/
structure PathShape where
  /-- It starts with a type in angle brackets. -/
  qualified : Bool
  /-- It is one name, without a sign in front. -/
  single : Bool
  /-- No name of it has arguments. -/
  plain : Bool
  /-- The last name has no arguments. -/
  isOpen : Bool

/-- Takes a block that stands for a constant, or a constant. -/
def constantArgument (read : PartReader) : TokenReader Unit := do
  if ← ahead .literal then expectLiteral
  else if ← accept .name then return
  else inside .curly do
    innerAttributes read
    let _ ← read .statements

/-- Takes bounds of an associated type, up to a comma or the closing angle bracket. -/
def constraintBoundsFrom (read : PartReader) : Nat → TokenReader Unit
  | 0 => failure
  | fuel + 1 => do
    if ← ahead (.anySign [",", ">"]) then return
    let _ ← read .bound
    if ← acceptSign "+" then constraintBoundsFrom read fuel

/-- Takes an argument of a path: a lifetime, a constant, a type or what an associated type is. -/
def genericArgument (read : PartReader) : TokenReader Unit := do
  if (← ahead .lifetime) && !(← ahead (.second (.sign "+"))) then skip 1
  else if (← ahead .literal) || (← ahead (.group .curly)) then constantArgument read
  else
    let form ← read (.type true)
    if form = .name then
      if ← acceptSign "=" then
        if (← ahead .literal) || (← ahead (.group .curly)) then constantArgument read
        else let _ ← read (.type true)
      else if ← acceptSign ":" then constraintBoundsFrom read ((← get).length + 1)

def genericArgumentsFrom (read : PartReader) : Nat → TokenReader Unit
  | 0 => failure
  | fuel + 1 => do
    if ← acceptSign ">" then return
    genericArgument read
    if ← acceptSign ">" then return
    expectSign ","
    genericArgumentsFrom read fuel

/-- Takes arguments in angle brackets. -/
def genericArguments (read : PartReader) : TokenReader Unit := do
  expectSign "<"
  genericArgumentsFrom read ((← get).length + 1)

/-- Takes a name of a path, and tells whether it has arguments. In an expression arguments need a
sign in front, since an angle bracket compares. -/
def pathSegment (read : PartReader) (inExpression : Bool) : TokenReader Bool := do
  if ← accept (.word ["super", "self", "crate", "try"]) then return false
  expect (.nameOr ["Self"])
  let angle := (← aheadSign "<") && !(← ahead (.anySign ["<=", "<<="]))
  let marked := (← aheadSign "::") && (← ahead (.third (.sign "<")))
  if (!inExpression && angle) || marked then
    let _ ← acceptSign "::"
    genericArguments read
    return true
  return false

/-- Takes further names of a path. -/
def pathRest (read : PartReader) (inExpression : Bool) : Nat → PathShape → TokenReader PathShape
  | 0, _ => failure
  | fuel + 1, shape => do
    if (← aheadSign "::") && !(← ahead (.third (.group .round))) then
      skip 2
      let arguments ← pathSegment read inExpression
      pathRest read inExpression fuel
        { shape with single := false, plain := shape.plain && !arguments, isOpen := !arguments }
    else return shape

/-- Takes a path. -/
def path (read : PartReader) (inExpression : Bool) : TokenReader PathShape := do
  let leading ← acceptSign "::"
  let arguments ← pathSegment read inExpression
  pathRest read inExpression ((← get).length + 1) ⟨false, !leading, !arguments, !arguments⟩

/-- Takes the names behind a type in angle brackets. -/
def qualifiedRest (read : PartReader) (inExpression : Bool) : Nat → TokenReader PathShape
  | 0 => failure
  | fuel + 1 => do
    let arguments ← pathSegment read inExpression
    if ← acceptSign "::" then qualifiedRest read inExpression fuel
    else return ⟨true, false, false, !arguments⟩

/-- Takes a path, which may start with a type in angle brackets. -/
def qualifiedPath (read : PartReader) (inExpression : Bool) : TokenReader PathShape := do
  if ← acceptSign "<" then
    let _ ← read (.type true)
    if ← acceptWord "as" then
      let _ ← path read false
    expectSign ">"
    expectSign "::"
    qualifiedRest read inExpression ((← get).length + 1)
  else path read inExpression

/-- A path comes next. -/
def Lookahead.pathStart : Lookahead := fun ts =>
  Lookahead.nameOr pathWords ts || Lookahead.anySign ["::", "<"] ts

/-- A macro is called with the path before. -/
def callsMacro (shape : PathShape) : TokenReader Bool := do
  return !shape.qualified && shape.plain && (← aheadSign "!") && !(← aheadSign "!=")

end RuleFilter.Schema
