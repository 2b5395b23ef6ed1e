import RuleFilter.Error
import RuleFilter.Pattern.Basic
import RuleFilter.Reference.Comparison
import RuleFilter.Text.Fold
import RuleFilter.Text.Search

set_option autoImplicit false

/-! # Predicates

An operator with its reference, checked once and then tested against many candidates. The reference
is checked first, when the predicate is built; of a candidate the kind is known only when it is
tested. A nil candidate satisfies no predicate but equality with null, and the operators on text,
patterns apart, refuse candidates of any other kind. -/

namespace RuleFilter

/-- The operators that put a candidate in order. -/
inductive OrderTest where
  | less
  | lessOrEqual
  | greater
  | greaterOrEqual
deriving DecidableEq

/-- The test holds for an order. -/
def OrderTest.accepts : OrderTest → Ordering → Bool
  | less, o => o == .lt
  | lessOrEqual, o => o == .lt || o == .eq
  | greater, o => o == .gt
  | greaterOrEqual, o => o == .gt || o == .eq

def OrderTest.operator : OrderTest → Operator
  | less => .less
  | lessOrEqual => .lessOrEqual
  | greater => .greater
  | greaterOrEqual => .greaterOrEqual

/-- The operators that test a text, and its candidates only. -/
inductive TextTest where
  /-- The folded candidate is the folded reference. -/
  | equalFold
  | contains
  | startsWith
  | endsWith
deriving DecidableEq

def TextTest.operator : TextTest → Operator
  | equalFold => .equalFold
  | contains => .contains
  | startsWith => .startsWith
  | endsWith => .endsWith

/-- The test holds for a candidate and a reference. -/
def TextTest.holds : TextTest → (candidate reference : String) → Bool
  | equalFold, s, t => Text.fold s == Text.fold t
  | contains, s, t => Text.contains s t
  | startsWith, s, t => Text.startsWith s t
  | endsWith, s, t => Text.endsWith s t

/-- A test of candidate values. -/
inductive Predicate where
  | equal (reference : Reference)
  | order (test : OrderTest) (reference : Double)
  | text (test : TextTest) (reference : String)
  | pattern (pattern : Pattern)
  | not (inner : Predicate)

namespace Predicate

/-- The operator of the predicate, whether negated or not. -/
def operator : Predicate → Operator
  | equal _ => .equal
  | order test _ => test.operator
  | text test _ => test.operator
  | pattern _ => .regexp
  | not inner => inner.operator

def isNegated : Predicate → Bool
  | not _ => true
  | _ => false

/-! ## Construction -/

/-- The number an ordering operator needs. -/
def numberFor (op : Operator) (reference : Reference) : Except Error Double :=
  match reference with
  | .number x => .ok x
  | r => .error (.invalidReference op .number r.kind)

/-- The text an operator on text needs. -/
def textFor (op : Operator) (reference : Reference) : Except Error String :=
  match reference with
  | .string s => .ok s
  | r => .error (.invalidReference op .string r.kind)

/-- The predicate of an operator. -/
def ofOperator (op : Operator) (reference : Reference) : Except Error Predicate :=
  let ordered (test : OrderTest) := (numberFor op reference).map (order test)
  let textual (test : TextTest) := (textFor op reference).map (text test)
  match op with
  | .equal => .ok (equal reference)
  | .less => ordered .less
  | .lessOrEqual => ordered .lessOrEqual
  | .greater => ordered .greater
  | .greaterOrEqual => ordered .greaterOrEqual
  | .equalFold => textual .equalFold
  | .contains => textual .contains
  | .startsWith => textual .startsWith
  | .endsWith => textual .endsWith
  | .regexp => do
    match Pattern.ofText? (← textFor op reference) with
    | some p => return pattern p
    | none => throw .invalidPattern

/-- The predicate of a tag and a reference. -/
def ofTag (tag : String) (reference : Reference) : Except Error Predicate :=
  match OperatorTag.ofText? tag with
  | none => .error (.unknownOperator tag)
  | some t => (ofOperator t.operator reference).map fun p => if t.negated then not p else p

/-! ## Evaluation -/

/-- Tests a candidate. -/
def test : Predicate → Value → Except Error Bool
  | equal reference, v => .ok (v.equals reference)
  | order t reference, v =>
    .ok (((v.operand?.bind (·.compare reference)).map t.accepts).getD false)
  | pattern p, v => .ok ((v.string?.map p.isMatch).getD false)
  | text t reference, v =>
    match v with
    | .string s => .ok (t.holds s reference)
    | .nil => .ok false
    | v => .error (.notText t.operator v.kind)
  | not inner, v => (inner.test v).map (!·)

end Predicate

end RuleFilter
