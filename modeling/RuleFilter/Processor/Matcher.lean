import RuleFilter.Path
import RuleFilter.Predicate
import RuleFilter.Rule.Basic

set_option autoImplicit false

/-! # Matchers

A rule set made ready: every rule is a path with a predicate. An element matches when every group
has a rule that holds. Groups and the rules in them are tried in order and no further than the
answer needs; an error met on the way is the answer. -/

namespace RuleFilter

/-- A rule made ready. -/
structure Condition where
  path : FieldPath
  predicate : Predicate

namespace Condition

/-- Makes a rule ready. -/
def ofRule (rule : Rule) : Except Error Condition :=
  (Predicate.ofTag rule.tag rule.value).map fun p => ⟨⟨rule.field⟩, p⟩

/-- The condition holds for an element. Where the path leads to nothing it does not, negated or
not. -/
def holds (c : Condition) (source : Option String) (root : Value) : Except Error Bool :=
  match c.path.resolve source root with
  | .error e => .error e
  | .ok none => .ok false
  | .ok (some v) => c.predicate.test v

end Condition

/-- A rule set made ready, with the alias source for its paths. -/
structure Matcher where
  groups : List (List Condition)
  source : Option String

namespace Matcher

/-- Some condition holds; the first that does ends the search. -/
def anyHolds (source : Option String) (root : Value) : List Condition → Except Error Bool
  | [] => .ok false
  | c :: cs =>
    match c.holds source root with
    | .ok false => anyHolds source root cs
    | decided => decided

/-- Every group has a condition that holds; the first that has none ends the search. -/
def allHold (source : Option String) (root : Value) : List (List Condition) → Except Error Bool
  | [] => .ok true
  | group :: groups =>
    match anyHolds source root group with
    | .ok true => allHold source root groups
    | decided => decided

/-- The element matches. -/
def accepts (m : Matcher) (root : Value) : Except Error Bool := allHold m.source root m.groups

/-- How many elements match, or the first error met. -/
def count (m : Matcher) : List Value → Except Error Nat
  | [] => .ok 0
  | v :: vs => do
    let matched ← m.accepts v
    let rest ← m.count vs
    return if matched then rest + 1 else rest

/-- Which elements match, or the first error met. -/
def scan (m : Matcher) : List Value → Except Error (List Bool)
  | [] => .ok []
  | v :: vs => do
    let matched ← m.accepts v
    let rest ← m.scan vs
    return matched :: rest

/-- The number of conditions in all groups. -/
def ruleCount (m : Matcher) : Nat := m.groups.flatten.length

end Matcher

end RuleFilter
