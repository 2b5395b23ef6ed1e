import RuleFilter.Double.Decimal
import RuleFilter.Text.Quoted
import RuleFilter.Value.Basic

set_option autoImplicit false

/-! # Describing values

The text by which a value is shown in diagnostics: its kind with its content in parentheses. Of a
record only the declared names of its fields are shown. -/

namespace RuleFilter

/-- Doubles show a fraction from `10⁻⁴` up to `10¹⁶`, and a power of ten beyond, with a sign only if
it is negative. -/
def Double.descriptionLayout : NumeralLayout := ⟨-4, 16, false, .away⟩

def Double.describe : Double → String
  | nan => "NaN"
  | infinity true => "-inf"
  | infinity false => "inf"
  | finite negative m => descriptionLayout.text negative m

def Number.describe : Number → String
  | signed n => "I64(" ++ toString n.toInt ++ ")"
  | unsigned n => "U64(" ++ toString n.toNat ++ ")"
  | double x => "F64(" ++ x.describe ++ ")"

namespace Value

/-- Texts in brackets with commas between them. -/
def bracketed (texts : List String) : String := "[" ++ ", ".intercalate texts ++ "]"

mutual

def describe : Value → String
  | nil => "Nil"
  | bool b => "Bool(" ++ toString b ++ ")"
  | number n => "Number(" ++ n.describe ++ ")"
  | string s => "String(" ++ Text.quoted s ++ ")"
  | list items => "List(" ++ bracketed (describeList items) ++ ")"
  | map entries => "Map(" ++ bracketed (describeEntries entries) ++ ")"
  | record _ fields => "Record(" ++ bracketed (fields.map (Text.quoted ·.1.name)) ++ ")"

def describeList : List Value → List String
  | [] => []
  | v :: vs => v.describe :: describeList vs

def describeEntries : List (String × Value) → List String
  | [] => []
  | (k, v) :: rest => ("(" ++ Text.quoted k ++ ", " ++ v.describe ++ ")") :: describeEntries rest

end

end Value

end RuleFilter
