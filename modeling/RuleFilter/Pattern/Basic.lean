import RuleFilter.Pattern.Automaton
import RuleFilter.Pattern.Meaning
import RuleFilter.Pattern.Reader
import RuleFilter.Pattern.Size

set_option autoImplicit false

/-! # Patterns

A pattern is read, given its meaning and turned into an automaton once; then any number of texts can
be searched with it. -/

namespace RuleFilter

/-- A pattern ready to search texts. -/
structure Pattern where
  automaton : Pattern.Automaton
deriving Inhabited

namespace Pattern

/-- The expression a text writes, if it is a pattern and not too large. -/
def expressionOf? (text : String) : Option Expression := do
  let tree ← Tree.ofText? text
  let (e, _) ← tree.toExpression .initial
  if e.fits then return e else none

/-- Reads a pattern. -/
def ofText? (text : String) : Option Pattern :=
  (expressionOf? text).map fun e => ⟨.ofExpression e⟩

/-- Some part of the text matches. -/
def isMatch (p : Pattern) (text : String) : Bool := p.automaton.isMatch text

end Pattern

end RuleFilter
