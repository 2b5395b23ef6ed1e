import RuleFilter.Text.CharSet

set_option autoImplicit false

/-! # Regular expressions

The meaning of a pattern is a regular expression over sets of characters, with conditions on the
place between two characters. Expressions are built by constructors that simplify: characters in a
row become one literal, rows in a row and alternatives of alternatives are flattened, alternatives
that read one character each become one set, and rows that start alike share their start. None of
this changes what matches, but it decides how large the automaton of the pattern is. -/

namespace RuleFilter.Pattern

/-- A condition on a place in a text. The conditions on words come in two kinds, by whether only
ASCII characters can be part of a word. -/
inductive Look where
  | textStart
  | textEnd
  | lineStart
  | lineEnd
  | lineStartCrlf
  | lineEndCrlf
  | wordBoundary (ascii : Bool)
  | notWordBoundary (ascii : Bool)
  | wordStart (ascii : Bool)
  | wordEnd (ascii : Bool)
  | wordStartHalf (ascii : Bool)
  | wordEndHalf (ascii : Bool)
deriving DecidableEq

/-- A regular expression. -/
inductive Expression where
  | empty
  /-- One or more characters in a row. -/
  | literal (text : List Char)
  /-- One character of a set, which holds no single character. -/
  | chars (set : CharSet)
  | look (condition : Look)
  | concat (items : List Expression)
  | alternation (branches : List Expression)
  | repetition (inner : Expression) (least : Nat) (most : Option Nat) (greedy : Bool)
  | capture (inner : Expression)
deriving Inhabited

namespace Expression

/-- What matches nothing. -/
def fail : Expression := chars .empty

/-! ## Lengths -/

mutual

/-- Every match is empty. -/
def isEmptyOnly : Expression → Bool
  | empty => true
  | literal _ => false
  | chars _ => false
  | look _ => true
  | concat items => isEmptyOnlyAll items
  | alternation branches => isEmptyOnlyAll branches
  | repetition inner _ most _ => most = some 0 || inner.isEmptyOnly
  | capture inner => inner.isEmptyOnly

def isEmptyOnlyAll : List Expression → Bool
  | [] => true
  | e :: es => e.isEmptyOnly && isEmptyOnlyAll es

end

mutual

/-- The length of the shortest match, unless some part of the expression matches nothing. -/
def leastLength : Expression → Option Nat
  | empty => some 0
  | literal text => some text.length
  | chars set => if set.isEmpty then none else some 1
  | look _ => some 0
  | concat items => leastLengthAll items
  | alternation branches => leastLengthAny branches
  | repetition inner least _ _ => inner.leastLength.map (least * ·)
  | capture inner => inner.leastLength

def leastLengthAll : List Expression → Option Nat
  | [] => some 0
  | e :: es => do return (← e.leastLength) + (← leastLengthAll es)

def leastLengthAny : List Expression → Option Nat
  | [] => none
  | [e] => e.leastLength
  | e :: es => do return min (← e.leastLength) (← leastLengthAny es)

end

/-- Every match has a character. -/
def isLong (e : Expression) : Bool := e.leastLength.any (0 < ·)

/-! ## Likeness -/

mutual

/-- The expressions are the same. A capture is like no other. -/
def isLike : Expression → Expression → Bool
  | empty, empty => true
  | literal text, literal text' => text = text'
  | chars set, chars set' => set = set'
  | look condition, look condition' => condition = condition'
  | concat items, concat items' => isLikeAll items items'
  | alternation branches, alternation branches' => isLikeAll branches branches'
  | repetition inner least most greedy, repetition inner' least' most' greedy' =>
    least = least' && most = most' && greedy = greedy' && inner.isLike inner'
  | _, _ => false

def isLikeAll : List Expression → List Expression → Bool
  | [], [] => true
  | e :: es, e' :: es' => e.isLike e' && isLikeAll es es'
  | _, _ => false

end

/-- How many items at the start two rows have in common. -/
def commonItems : List Expression → List Expression → Nat
  | e :: es, e' :: es' => if e.isLike e' then commonItems es es' + 1 else 0
  | _, _ => 0

/-! ## Sets, rows and repetitions -/

/-- Code points that are no characters. -/
def surrogates : CharSet := ⟨[(0xD800, 0xDFFF)]⟩

/-- One character of a set; a single character is a literal. -/
def ofSet (set : CharSet) : Expression :=
  let set := set.diff surrogates
  match set.ranges with
  | [(lo, hi)] => if lo = hi then literal [Char.ofNat lo] else chars set
  | _ => chars set

/-- A repetition of what is always empty needs one turn at most; no turns are the empty expression
and one turn is the expression itself. -/
def repeated (inner : Expression) (least : Nat) (most : Option Nat) (greedy : Bool) : Expression :=
  let (least, most) :=
    if inner.isEmptyOnly then (min least 1, some (min (most.getD 1) 1)) else (least, most)
  if least = 0 ∧ most = some 0 then empty
  else if least = 1 ∧ most = some 1 then inner
  else repetition inner least most greedy

/-- The items of an expression in a row; an empty one has none. -/
def items : Expression → List Expression
  | empty => []
  | concat es => es
  | e => [e]

/-- Joins literals in a row. -/
def joinLiterals : List Expression → List Expression
  | [] => []
  | literal text :: es =>
    match joinLiterals es with
    | literal text' :: es => literal (text ++ text') :: es
    | es => literal text :: es
  | e :: es => e :: joinLiterals es

/-- Expressions in a row. -/
def sequence (es : List Expression) : Expression :=
  match joinLiterals (es.flatMap items) with
  | [] => empty
  | [e] => e
  | es => concat es

/-! ## Alternatives -/

/-- The branches of an expression. -/
def branches : Expression → List Expression
  | alternation es => es
  | e => [e]

/-- The character of a literal of one character. -/
def singleton? : Expression → Option Char
  | literal [c] => some c
  | _ => none

/-- The set of an expression that is one. -/
def set? : Expression → Option CharSet
  | chars set => some set
  | _ => none

/-- The set of characters that branches of a single character each stand for together. The branches
are all literals or all sets. -/
def unionOf? (branches : List Expression) : Option CharSet :=
  let singletons := (branches.mapM singleton?).map fun cs => cs.map fun c => (c.toNat, c.toNat)
  let sets := (branches.mapM set?).map fun sets => sets.flatMap (·.ranges)
  (singletons <|> sets).map CharSet.ofRanges

/-- The items of a row of several. -/
def row? : Expression → Option (List Expression)
  | concat es => some es
  | _ => none

/-- Takes the common start off branches that are all rows. -/
def liftStart? (branches : List Expression) : Option (List Expression × List Expression) := do
  match ← branches.mapM row? with
  | [] => none
  | first :: others =>
    let length := others.foldl (fun n es => min n (commonItems first es)) first.length
    if length = 0 then none
    else return (first.take length, (first :: others).map fun es => sequence (es.drop length))

mutual

/-- The number of parts. -/
def weight : Expression → Nat
  | concat items => weightAll items + 1
  | alternation branches => weightAll branches + 1
  | repetition inner _ _ _ => inner.weight + 1
  | capture inner => inner.weight + 1
  | _ => 1

def weightAll : List Expression → Nat
  | [] => 0
  | e :: es => e.weight + weightAll es

end

/-- Alternatives, of which `fuel` times a common start is taken out. -/
def chooseFrom : Nat → List Expression → Expression
  | 0, es => alternation es
  | fuel + 1, es =>
    match es.flatMap branches with
    | [] => fail
    | [e] => e
    | es =>
      match unionOf? es, liftStart? es with
      | some set, _ => ofSet set
      | none, some (start, ends) => sequence (start ++ [chooseFrom fuel ends])
      | none, none => alternation es

/-- Alternatives. Taking out a start leaves fewer parts, so the parts are enough fuel. -/
def choice (es : List Expression) : Expression := chooseFrom (weightAll es + 1) es

/-! ## Anchors -/

mutual

/-- Every match starts where the condition holds. -/
def startsAt (condition : Look) : Expression → Bool
  | look condition' => condition = condition'
  | concat items => startsAtAny condition items
  | alternation branches => startsAtAll condition branches
  | repetition inner least _ _ => 0 < least && inner.startsAt condition
  | capture inner => inner.startsAt condition
  | _ => false

/-- So does a row, if an item does before which all matches are empty. -/
def startsAtAny (condition : Look) : List Expression → Bool
  | [] => false
  | e :: es => e.startsAt condition || (e.isEmptyOnly && startsAtAny condition es)

def startsAtAll (condition : Look) : List Expression → Bool
  | [] => true
  | e :: es => e.startsAt condition && startsAtAll condition es

end

mutual

/-- Every match ends where the condition holds. -/
def endsAt (condition : Look) : Expression → Bool
  | look condition' => condition = condition'
  | concat items => endsAtAny condition items
  | alternation branches => endsAtAll condition branches
  | repetition inner least _ _ => 0 < least && inner.endsAt condition
  | capture inner => inner.endsAt condition
  | _ => false

/-- So does a row, if an item does behind which all matches are empty. -/
def endsAtAny (condition : Look) : List Expression → Bool
  | [] => false
  | e :: es => endsAtAny condition es || (e.endsAt condition && isEmptyOnlyAll es)

def endsAtAll (condition : Look) : List Expression → Bool
  | [] => true
  | e :: es => e.endsAt condition && endsAtAll condition es

end

end Expression

end RuleFilter.Pattern
