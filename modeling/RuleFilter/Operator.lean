set_option autoImplicit false

/-! # Operators

The closed vocabulary of comparisons. Every operator has a tag, and a tag with `!` in front asks for
the opposite. -/

namespace RuleFilter

/-- The comparison a rule makes. -/
inductive Operator where
  | equal
  | equalFold
  | less
  | lessOrEqual
  | greater
  | greaterOrEqual
  | regexp
  | contains
  | startsWith
  | endsWith
deriving DecidableEq, Inhabited

namespace Operator

/-- All operators, in the order their tags are listed. -/
def all : List Operator :=
  [equal, equalFold, less, lessOrEqual, greater, greaterOrEqual, regexp, contains, startsWith,
    endsWith]

/-- The tag of an operator. -/
def tag : Operator → String
  | equal => "=="
  | equalFold => "=~"
  | less => "<"
  | lessOrEqual => "<="
  | greater => ">"
  | greaterOrEqual => ">="
  | regexp => "regexp"
  | contains => "~="
  | startsWith => "^="
  | endsWith => "$="

/-- The character that negates a tag. -/
def negation : Char := '!'

/-- The tag of the opposite of an operator. -/
def negatedTag (op : Operator) : String := String.ofList (negation :: op.tag.toList)

/-- The operator orders its candidate against a number. -/
def isOrdering : Operator → Bool
  | less | lessOrEqual | greater | greaterOrEqual => true
  | _ => false

/-- The operator compares its candidate with a text. -/
def isTextual : Operator → Bool
  | equalFold | regexp | contains | startsWith | endsWith => true
  | _ => false

/-- The operator of a tag without negation. -/
def ofTag? (tag : String) : Option Operator := all.find? (·.tag = tag)

end Operator

/-- What a tag with at most one negation asks for. -/
structure OperatorTag where
  negated : Bool
  operator : Operator
deriving DecidableEq

/-- Reads a tag. One leading negation is taken off; what is left has to be an operator's tag. -/
def OperatorTag.ofText? (text : String) : Option OperatorTag :=
  match text.toList with
  | c :: rest =>
    if c = Operator.negation then (Operator.ofTag? (String.ofList rest)).map (⟨true, ·⟩)
    else (Operator.ofTag? text).map (⟨false, ·⟩)
  | [] => none

end RuleFilter
