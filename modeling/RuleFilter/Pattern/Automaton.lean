import RuleFilter.Pattern.Expression

set_option autoImplicit false

/-! # Automata

An expression becomes an automaton whose states read a character of a set, go two ways, or test a
condition on their place. It is built from the end: `compile` takes the state to continue with and
answers the state to start from. A text is searched by following all states at once, so the time is
bounded by the product of the lengths of pattern and text, whatever the pattern. -/

namespace RuleFilter.Pattern

/-- A state of an automaton, with the numbers of the states it leads to. -/
inductive State where
  | accept
  | read (set : CharSet) (next : Nat)
  | fork (left right : Nat)
  | test (condition : Look) (next : Nat)
deriving Inhabited

/-- An automaton under construction. -/
abbrev States := Array State

/-- Adds a state. -/
def States.add (states : States) (state : State) : Nat × States := (states.size, states.push state)

/-! ## Construction -/

/-- Adds `count` copies in a row of what `build` builds, before `next`. -/
def repeatBuild (build : Nat → States → Nat × States) : Nat → Nat → States → Nat × States
  | 0, next, states => (next, states)
  | count + 1, next, states =>
    let (next, states) := build next states
    repeatBuild build count next states

/-- Adds up to `count` copies in a row, each of which may be left out with those after it. -/
def optionalBuild (build : Nat → States → Nat × States) (done : Nat) :
    Nat → Nat → States → Nat × States
  | 0, next, states => (next, states)
  | count + 1, next, states =>
    let (inner, states) := build next states
    let (next, states) := states.add (.fork inner done)
    optionalBuild build done count next states

/-- Adds any number of turns before `next`. -/
def loopBuild (build : Nat → States → Nat × States) (next : Nat) (states : States) : Nat × States :=
  let (entry, states) := states.add (.fork next next)
  let (inner, states) := build entry states
  (entry, states.setIfInBounds entry (.fork inner next))

/-- Adds a state for each character in a row. -/
def literalBuild : List Char → Nat → States → Nat × States
  | [], next, states => (next, states)
  | c :: cs, next, states =>
    let (next, states) := literalBuild cs next states
    states.add (.read (.singleton c) next)

mutual

/-- Adds the states of an expression before `next`. -/
def compile : Expression → Nat → States → Nat × States
  | .empty, next, states => (next, states)
  | .literal text, next, states => literalBuild text next states
  | .chars set, next, states => states.add (.read set next)
  | .look condition, next, states => states.add (.test condition next)
  | .concat items, next, states => compileAll items next states
  | .alternation branches, next, states => compileAny branches next states
  | .repetition inner least most _, next, states =>
    let (next, states) := match most with
      | none => loopBuild (compile inner) next states
      | some most => optionalBuild (compile inner) next (most - least) next states
    repeatBuild (compile inner) least next states
  | .capture inner, next, states => compile inner next states

/-- Adds the states of expressions in a row. -/
def compileAll : List Expression → Nat → States → Nat × States
  | [], next, states => (next, states)
  | e :: es, next, states =>
    let (next, states) := compileAll es next states
    compile e next states

/-- Adds the states of alternatives. -/
def compileAny : List Expression → Nat → States → Nat × States
  | [], next, states => states.add (.read .empty next)
  | [e], next, states => compile e next states
  | e :: es, next, states =>
    let (left, states) := compile e next states
    let (right, states) := compileAny es next states
    states.add (.fork left right)

end

/-- An automaton: its states and the one it starts in. -/
structure Automaton where
  states : States
  start : Nat
deriving Inhabited

/-- The automaton of an expression. -/
def Automaton.ofExpression (e : Expression) : Automaton :=
  let (start, states) := compile e 0 #[.accept]
  ⟨states, start⟩

/-! ## Conditions -/

/-- The character is part of a word. -/
def isWordChar (ascii : Bool) : Option Char → Bool
  | none => false
  | some c => if ascii then CharSet.asciiWord.contains c else CharSet.word.contains c

/-- The condition holds between two characters; there is none before the start and after the end. -/
def Look.holds (before after : Option Char) : Look → Bool
  | textStart => before.isNone
  | textEnd => after.isNone
  | lineStart => before.isNone || before = some '\n'
  | lineEnd => after.isNone || after = some '\n'
  | lineStartCrlf =>
    before.isNone || before = some '\n' || (before = some '\r' && after ≠ some '\n')
  | lineEndCrlf =>
    after.isNone || after = some '\r' || (after = some '\n' && before ≠ some '\r')
  | wordBoundary ascii => isWordChar ascii before != isWordChar ascii after
  | notWordBoundary ascii => isWordChar ascii before == isWordChar ascii after
  | wordStart ascii => !isWordChar ascii before && isWordChar ascii after
  | wordEnd ascii => isWordChar ascii before && !isWordChar ascii after
  | wordStartHalf ascii => !isWordChar ascii before
  | wordEndHalf ascii => !isWordChar ascii after

/-! ## Search -/

namespace Automaton

/-- What can be reached without reading: which states have been seen, which of them read a
character, and whether the accepting one is among them. -/
structure Reach where
  seen : Array Bool
  readers : List (CharSet × Nat)
  accepted : Bool

/-- Follows the states of a worklist, between two given characters. Every state is followed once and
adds at most two to the list, which bounds the fuel. -/
def follow (a : Automaton) (before after : Option Char) : Nat → List Nat → Reach → Reach
  | 0, _, reach => reach
  | _ + 1, [], reach => reach
  | fuel + 1, id :: work, reach =>
    if reach.seen.getD id true then a.follow before after fuel work reach
    else
      let reach := { reach with seen := reach.seen.setIfInBounds id true }
      match a.states[id]? with
      | some .accept => { reach with accepted := true }
      | some (.read set next) =>
        a.follow before after fuel work { reach with readers := (set, next) :: reach.readers }
      | some (.fork left right) => a.follow before after fuel (left :: right :: work) reach
      | some (.test condition next) =>
        if condition.holds before after then a.follow before after fuel (next :: work) reach
        else a.follow before after fuel work reach
      | none => a.follow before after fuel work reach

/-- What is reached from active states and a match that starts here. -/
def reach (a : Automaton) (before after : Option Char) (active : List Nat) : Reach :=
  a.follow before after (2 * a.states.size + active.length + 2) (active ++ [a.start])
    ⟨Array.replicate a.states.size false, [], false⟩

/-- Searches the rest of a text. `active` are the states reached by what has been read; a match may
also start here. -/
def search (a : Automaton) (before : Option Char) (active : List Nat) : List Char → Bool
  | [] => (a.reach before none active).accepted
  | c :: cs =>
    let reached := a.reach before (some c) active
    reached.accepted ||
      a.search (some c)
        (reached.readers.filterMap fun (set, next) => if set.contains c then some next else none) cs

/-- Some part of the text matches. -/
def isMatch (a : Automaton) (text : String) : Bool := a.search none [] text.toList

end Automaton

end RuleFilter.Pattern
