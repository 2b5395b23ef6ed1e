import RuleFilter.Schema.Grammar.Path

set_option autoImplicit false

/-! # Types

A type that starts with a path may turn out to be the first of several bounds, with plus signs
between them, where the place allows several. -/

namespace RuleFilter.Schema

open TokenReader

/-- Takes lifetimes in angle brackets behind `for`. -/
def boundLifetimesFrom (read : PartReader) : Nat → TokenReader Unit
  | 0 => failure
  | fuel + 1 => do
    if ← acceptSign ">" then return
    let _ ← outerAttributes read
    expect .lifetime
    if ← acceptSign ">" then return
    expectSign ","
    boundLifetimesFrom read fuel

def boundLifetimes (read : PartReader) : TokenReader Bool := do
  if ← acceptWord "for" then
    expectSign "<"
    boundLifetimesFrom read ((← get).length + 1)
    return true
  else return false

/-- Takes the type a function returns, if one is given. -/
def returnType (read : PartReader) : TokenReader Form := do
  if ← acceptSign "->" then read (.type false) else return .other

/-- Takes types in round brackets that are arguments of a path, and tells whether names may
follow. -/
def roundArguments (read : PartReader) : TokenReader Bool := do
  roundList read (.type true)
  let arrow ← aheadSign "->"
  let form ← returnType read
  return !arrow || form = .bracketed

def aheadRoundArguments : TokenReader Bool := do
  return (← ahead (.group .round)) || ((← aheadSign "::") && (← ahead (.third (.group .round))))

/-- Takes the path of a type, whose last name may have arguments in round brackets. -/
def typePathRest (read : PartReader) : Nat → PathShape → TokenReader PathShape
  | 0, _ => failure
  | fuel + 1, shape => do
    if shape.isOpen && (← aheadRoundArguments) then
      let _ ← acceptSign "::"
      let shape := { shape with single := false, plain := false, isOpen := false }
      if ← roundArguments read then
        typePathRest read fuel (← pathRest read false ((← get).length + 1) shape)
      else return shape
    else return shape

def typePath (read : PartReader) : TokenReader PathShape := do
  typePathRest read ((← get).length + 1) (← qualifiedPath read false)

/-- Takes the path of a bound with what may stand in front of it. -/
def traitBound (read : PartReader) (mayBeConst : Bool) : TokenReader Unit := do
  let quantified ← boundLifetimes read
  if ← ahead (.group .square) then
    inside .square (expectWord "const")
    unless mayBeConst do failure
  else if ← acceptWord "const" then
    unless mayBeConst do failure
  let optional ← acceptSign "?"
  if optional && !quantified then
    let _ ← boundLifetimes read
  let shape ← path read false
  if shape.isOpen && (← aheadRoundArguments) then
    let _ ← acceptSign "::"
    let _ ← roundArguments read

/-- Takes a bound, and tells whether it is more than a lifetime. -/
def bound (read : PartReader) (mayBeConst : Bool) : TokenReader Bool := do
  if ← accept .lifetime then return false
  if ← ahead (.group .round) then inside .round (traitBound read mayBeConst)
  else traitBound read mayBeConst
  return true

/-- A bound may come next. -/
def Lookahead.boundStart : Lookahead := fun ts =>
  Lookahead.anyName ts || Lookahead.anySign ["::", "?"] ts || Lookahead.lifetime ts ||
    Lookahead.group .round ts

/-- Takes names and lifetimes in angle brackets, behind the opening one. -/
def capturesFrom : Nat → TokenReader Unit
  | 0 => failure
  | fuel + 1 => do
    if ← acceptSign ">" then return
    expect fun ts => Lookahead.lifetime ts || Lookahead.nameOr ["Self"] ts
    if ← acceptSign ">" then return
    expectSign ","
    capturesFrom fuel

/-- Takes bounds with plus signs between them, and tells whether one is more than a lifetime. A type
that is known by its bounds alone may name what it captures, and bounds of it may be constant. -/
def boundsFrom (read : PartReader) (plus known : Bool) : Nat → TokenReader Bool
  | 0 => failure
  | fuel + 1 => do
    let captures := known && (← aheadWord "use")
    if captures then
      skip 1
      expectSign "<"
      capturesFrom ((← get).length + 1)
    let found ← if captures then pure false else bound read known
    unless plus do return found
    unless ← acceptSign "+" do return found
    let more := (← ahead .boundStart) || (known && (← ahead (.group .square)))
    unless more do return found
    return (← boundsFrom read plus known fuel) || found

def someBounds (read : PartReader) (plus known : Bool) : TokenReader Form := do
  if ← boundsFrom read plus known ((← get).length + 1) then return .other else failure

/-- Takes bounds that follow a first one, each behind a plus sign. -/
def furtherBoundsFrom (read : PartReader) : Nat → TokenReader Unit
  | 0 => failure
  | fuel + 1 => do
    if ← acceptSign "+" then
      let _ ← bound read false
      furtherBoundsFrom read fuel

def furtherBounds (read : PartReader) : TokenReader Form := do
  furtherBoundsFrom read ((← get).length + 1)
  return .other

/-- Takes bounds behind a path that is the first one; there may be a plus sign at the end. -/
def pathBoundsFrom (read : PartReader) : Nat → TokenReader Form
  | 0 => failure
  | fuel + 1 => do
    if ← acceptSign "+" then
      if ← ahead .boundStart then
        let _ ← bound read false
        pathBoundsFrom read fuel
      else return .other
    else return .other

/-- Takes a type in round brackets, or several. -/
def roundType (read : PartReader) (plus : Bool) : TokenReader Form := do
  let inner ← takeGroup .round
  if inner.isEmpty then return .other
  else if Lookahead.lifetime inner then
    let some _ := readAll inner (someBounds read true false) | failure
    return .bracketed
  else if Lookahead.sign "?" inner then
    let some _ := readAll inner (traitBound read false) | failure
    furtherBounds read
  else
    let some (form, several) := readAll inner (do
      let form ← read (.type true)
      let several ← aheadSign ","
      if several then
        skip 1
        let _ ← commaList (read (.type true))
      return (form, several)) | failure
    if several then return .other
    let isBound := form = .name || form = .path || form = .bound
    if plus && isBound && (← aheadSign "+") then furtherBounds read
    else return .bracketed

/-- Takes arguments of a function type. Only the first may be `self`, and three points, which stand
for any more, end them. -/
def functionArgumentsFrom (read : PartReader) (first : Bool) : Nat → TokenReader Unit
  | 0 => failure
  | fuel + 1 => do
    if ← atEnd then return
    let _ ← outerAttributes read
    let mutable := first && (← aheadWord "mut") && (← ahead (.second (.word ["self"])))
    if mutable then skip 1
    let named ← ahead (.nameOr (if first then ["_", "self"] else ["_"]))
    let named := named && (← ahead (.second (.sign ":"))) && !(← ahead (.second (.sign "::")))
    if named then skip 2
    if ← acceptSign "..." then
      let _ ← acceptSign ","
      return
    if mutable && !named then skip 1
    else
      let _ ← read (.type true)
    if ← atEnd then return
    expectSign ","
    functionArgumentsFrom read false fuel

/-- Takes a function type. -/
def functionType (read : PartReader) : TokenReader Form := do
  let _ ← acceptWord "unsafe"
  if ← acceptWord "extern" then
    match ← get with
    | .text _ :: rest => set rest
    | _ => pure ()
  expectWord "fn"
  inside .round do functionArgumentsFrom read true ((← get).length + 1)
  let _ ← returnType read
  return .other

/-- Takes a type that starts with a path. -/
def pathType (read : PartReader) (plus quantified : Bool) : TokenReader Form := do
  let shape ← typePath read
  if shape.qualified then return .other
  if ← callsMacro shape then
    skip 1
    expect .anyGroup
    return .other
  if quantified || (plus && (← aheadSign "+")) then
    let single := !(← aheadSign "+")
    let _ ← if plus then pathBoundsFrom read ((← get).length + 1) else pure .other
    return if single then .bound else .other
  return if shape.single then .name else .path

/-- Takes a type. With `plus` it may be several bounds. -/
def typePart (read : PartReader) (plus : Bool) : TokenReader Form := do
  let quantified ← boundLifetimes read
  if quantified then
    unless ← ahead (.nameOr ("fn" :: "unsafe" :: "extern" :: pathWords)) do failure
  if ← ahead (.group .round) then roundType read plus
  else if ← ahead (.word ["fn", "unsafe", "extern"]) then functionType read
  else if ← ahead .pathStart then pathType read plus quantified
  else if ← acceptWord "dyn" then
    let _ ← acceptSign "*"
    someBounds read plus false
  else if ← ahead (.group .square) then
    inside .square do
      let _ ← read (.type true)
      if ← acceptSign ";" then
        let _ ← read (.expression true)
    return .other
  else if ← acceptSign "*" then
    expect (.word ["const", "mut"])
    let _ ← read (.type false)
    return .other
  else if ← acceptSign "&" then
    let _ ← accept .lifetime
    let _ ← acceptWord "mut"
    let _ ← read (.type false)
    return .other
  else if ← acceptSign "!" then return .other
  else if ← acceptWord "impl" then someBounds read plus true
  else if ← acceptWord "_" then return .other
  else if ← ahead .lifetime then someBounds read true false
  else failure

end RuleFilter.Schema
