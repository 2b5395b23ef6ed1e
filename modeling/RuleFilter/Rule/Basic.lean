import RuleFilter.Json.Printer
import RuleFilter.Operator
import RuleFilter.Reference.Basic

set_option autoImplicit false

/-! # Rules

A rule names a part of an element, an operator and a reference. Rules are grouped: one rule of a
group has to hold, and that in every group. The operator is kept as the tag that was given, which
may be none that exists; building a matcher decides. -/

namespace RuleFilter

/-- A rule. -/
structure Rule where
  field : String
  /-- The operator's tag. -/
  tag : String
  value : OrderedReference

/-- Rules of which one has to hold. -/
abbrev RuleGroup := List Rule

/-- Groups each of which has to hold. -/
abbrev RuleSet := List RuleGroup

namespace Rule

instance : Inhabited Rule := ⟨⟨"", "", .null⟩⟩

/-- The rule of an operator. -/
def ofOperator (field : String) (op : Operator) (value : OrderedReference) : Rule :=
  ⟨field, op.tag, value⟩

/-- The rule of the opposite of an operator. -/
def ofNegated (field : String) (op : Operator) (value : OrderedReference) : Rule :=
  ⟨field, op.negatedTag, value⟩

/-- Equality by that of references. -/
def beq (a b : Rule) : Bool := a.field == b.field && a.tag == b.tag && a.value == b.value

instance : BEq Rule := ⟨beq⟩

/-- The document of a rule. -/
def toJson (rule : Rule) : Json :=
  .object [("field", .string rule.field), ("type", .string rule.tag),
    ("value", rule.value.reference.toJson)]

end Rule

namespace RuleSet

/-- The number of rules in all groups. -/
def ruleCount (rules : RuleSet) : Nat := rules.flatten.length

/-- The document of a rule set. -/
def toJson (rules : RuleSet) : Json :=
  .array (rules.map fun group => .array (group.map Rule.toJson))

/-- The text of a rule set. A number that is not finite is written as null. -/
def toText (rules : RuleSet) : String := (toJson rules).text

end RuleSet

end RuleFilter
