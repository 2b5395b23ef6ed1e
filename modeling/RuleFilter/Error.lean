import RuleFilter.Json.Reader
import RuleFilter.Operator
import RuleFilter.Reference.Basic
import RuleFilter.Value.Basic

set_option autoImplicit false

/-! # What can go wrong

One cause for each way in which building or applying rules fails, with what is needed to name the
culprit, and one place for the wording. -/

namespace RuleFilter

/-- A setting that is out of bounds. -/
inductive SettingFault where
  | emptyFieldNameTag
  | emptyQueryKey
  | noRules
  | resultsOutOfRange
deriving DecidableEq

/-- The most elements a processor may be set to keep. -/
def resultLimit : UInt64 := 2147483647

namespace SettingFault

/-- The name of the setting. -/
def option : SettingFault → String
  | emptyFieldNameTag => "field_name_tag"
  | emptyQueryKey => "query_key"
  | noRules => "max_rules"
  | resultsOutOfRange => "max_results"

/-- What the setting has to be. -/
def reason : SettingFault → String
  | emptyFieldNameTag => "must not be empty"
  | emptyQueryKey => "must not be empty"
  | noRules => "must be at least 1"
  | resultsOutOfRange => "must be between 1 and " ++ toString resultLimit.toNat

end SettingFault

/-- Why an operation failed. -/
inductive Error where
  /-- No operator has the tag. -/
  | unknownOperator (tag : String)
  /-- The operator needs another kind of reference. -/
  | invalidReference (operator : Operator) (expected found : Reference.Kind)
  /-- The reference of a `regexp` rule is no pattern. -/
  | invalidPattern
  | invalidSetting (fault : SettingFault)
  /-- The document to filter is no array. -/
  | notACollection (found : Json.Kind)
  /-- A path goes on from a scalar or a list. -/
  | scalarTraversal (path segment : String) (found : Value.Kind)
  /-- A path names a field that queries may not read. -/
  | privateField (path field : String)
  /-- The element itself is nil. -/
  | nilElement (path : String)
  /-- The operator needs a text as its candidate. -/
  | notText (operator : Operator) (found : Value.Kind)
  | tooManyRules (count : Nat) (max : UInt64)
  | invalidWindow (length max : UInt64)
  /-- The text does not hold rules. -/
  | undecodable (fault : Json.Fault)
deriving DecidableEq

/-- The stages at which operations fail. -/
inductive ErrorKind where
  | construction
  | inputShape
  | navigation
  | evaluation
  | limit
  | decode
deriving DecidableEq

namespace Error

/-- The stage at which the error arises. -/
def kind : Error → ErrorKind
  | unknownOperator _ | invalidReference _ _ _ | invalidPattern | invalidSetting _ => .construction
  | notACollection _ => .inputShape
  | scalarTraversal _ _ _ | privateField _ _ | nilElement _ => .navigation
  | notText _ _ => .evaluation
  | tooManyRules _ _ | invalidWindow _ _ => .limit
  | undecodable _ => .decode

/-- The wording, of which patterns and texts that cannot be read have none. -/
def message? : Error → Option String
  | unknownOperator tag => some ("unknown filter operator '" ++ tag ++ "'")
  | invalidReference op expected found =>
    some ("operator '" ++ op.tag ++ "' requires a " ++ expected.name ++ " reference value, got " ++
      found.name)
  | invalidPattern => none
  | invalidSetting fault => some ("invalid " ++ fault.option ++ " setting: " ++ fault.reason)
  | notACollection found => some ("expected an array of elements, got " ++ found.name)
  | scalarTraversal path segment found =>
    some ("cannot descend into " ++ found.name ++ " value at '" ++ segment ++ "' in path '"
      ++ path ++ "'")
  | privateField path field =>
    some ("field '" ++ field ++ "' in path '" ++ path ++ "' is not accessible")
  | nilElement path => some ("cannot resolve path '" ++ path ++ "' on a nil element")
  | notText op found =>
    some ("operator '" ++ op.tag ++ "' requires a string value, got " ++ found.name)
  | tooManyRules count max =>
    some ("too many rules: " ++ toString count ++ " exceeds the maximum of " ++ toString max.toNat)
  | invalidWindow length max =>
    some ("invalid window length " ++ toString length.toNat ++ ": must be between 1 and " ++
      toString max.toNat)
  | undecodable _ => none

end Error

end RuleFilter
