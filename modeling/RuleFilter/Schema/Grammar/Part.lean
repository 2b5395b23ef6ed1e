import RuleFilter.Schema.TokenReader

set_option autoImplicit false

/-! # Parts of the grammar

The value of an attribute's item is an expression of the language that declares the structures. What
it means is of no interest here, except where it is a single text; but where it ends is, and whether
it is one at all. So the readers of the grammar pass over expressions, types, patterns and
statements and answer no more than the form of what they have passed.

The parts refer to each other in many ways. The reader of a part is written over `read`, which reads
any part named by a `Part`, and `readPart` closes the circle once all parts are there. Attributes
and blocks, which may stand in front of or inside many parts, are here. -/

namespace RuleFilter.Schema

open TokenReader

/-- What matters of something passed over. -/
inductive Form where
  /-- A text on its own. -/
  | text (value : String)
  /-- An expression that ends with a block and needs no separator behind it. -/
  | block
  /-- A macro call with braces. -/
  | bracedCall
  /-- A range; of patterns, one that is open at an end. -/
  | range
  | comparison
  /-- A type that is a name, possibly with arguments in angle brackets. -/
  | name
  /-- A type that is any other path, none qualified by a type. -/
  | path
  /-- A type that is one bound. -/
  | bound
  /-- A type in brackets. -/
  | bracketed
  | other
deriving DecidableEq, Inhabited

/-- The parts of the grammar that others refer to. `braces` tells whether a brace behind a path
belongs to the expression. -/
inductive Part where
  | expression (braces : Bool)
  | operand (braces : Bool)
  /-- Operators, at least as tight as `least`, with their right operands. -/
  | operators (braces : Bool) (left : Form) (least : Nat)
  /-- What else the right operand of an operator has. -/
  | rightOperators (braces : Bool) (operand : Form) (operator : Nat)
  | trailers (left : Form)
  /-- An expression that ends where a statement would. -/
  | statementExpression
  | statements
  | arms
  | pattern
  | alternatives
  /-- A type; with `plus` it may be several bounds. -/
  | type (plus : Bool)
  /-- A bound of an associated type. -/
  | bound
  /-- An attribute without its mark and brackets. -/
  | attribute

/-- A reader for the parts of the grammar. -/
abbrev PartReader := Part → TokenReader Form

/-- Takes parts in round brackets, with commas between them. -/
def roundList (read : PartReader) (part : Part) : TokenReader Unit := do
  let _ ← inside .round (commaList (read part))

/-! ## Attributes -/

/-- Takes attributes in front of something, and tells whether there were any. -/
def outerAttributesFrom (read : PartReader) : Nat → TokenReader Bool
  | 0 => failure
  | fuel + 1 => do
    if ← acceptSign "#" then
      let _ ← inside .square (read .attribute)
      let _ ← outerAttributesFrom read fuel
      return true
    else return false

def outerAttributes (read : PartReader) : TokenReader Bool := do
  outerAttributesFrom read ((← get).length + 1)

/-- Takes the attributes at the start of a block. -/
def innerAttributesFrom (read : PartReader) : Nat → TokenReader Unit
  | 0 => failure
  | fuel + 1 => do
    if (← aheadSign "#") && (← ahead (.second (.sign "!"))) then
      skip 2
      let _ ← inside .square (read .attribute)
      innerAttributesFrom read fuel

def innerAttributes (read : PartReader) : TokenReader Unit := do
  innerAttributesFrom read ((← get).length + 1)

/-! ## Blocks -/

/-- Takes a block without attributes at its start. -/
def block (read : PartReader) : TokenReader Form := inside .curly (read .statements)

/-- Takes a block behind a word, with attributes at its start. -/
def body (read : PartReader) : TokenReader Unit :=
  inside .curly do
    innerAttributes read
    let _ ← read .statements

end RuleFilter.Schema
