import RuleFilter.Pattern.Expression
import Std.Data.HashMap

set_option autoImplicit false

/-! # The size of a pattern

A pattern is refused when its automaton over the bytes of a text would take more memory than
`sizeLimit`, read forward or backward. The automata themselves are not built: what an expression
adds to one is computed as an extent, a number of states and of bytes of memory.

Every state takes a fixed amount. A state that branches takes more for each branch, and a state that
tells bytes apart takes more for each range of bytes. A set of characters beyond ASCII is spelled
out in sequences of byte ranges, one for each way the encodings of its characters run: forward,
equal endings are shared, and backward, equal beginnings are. Alternatives that are all literals
share their equal beginnings in both directions.

Backward, a state is looked up for sharing in a small table that forgets, and its place there
depends on the numbers of states, so the copies of a set may differ in size. An expression is
therefore laid out after what stands before it (`Layout.place`), until the limit is reached. -/

namespace RuleFilter.Pattern

/-- The memory an automaton may take. -/
def sizeLimit : Nat := 10 * 1024 * 1024

/-- The memory of a state, of a branch and of a range of bytes. -/
def stateSize : Nat := 32

def branchSize : Nat := 4

def transitionSize : Nat := 8

/-- What a part of an automaton takes. -/
structure Extent where
  states : Nat
  memory : Nat
deriving DecidableEq, Inhabited

namespace Extent

def zero : Extent := ⟨0, 0⟩

def add (a b : Extent) : Extent := ⟨a.states + b.states, a.memory + b.memory⟩

/-- Several copies. -/
def scale (n : Nat) (a : Extent) : Extent := ⟨n * a.states, n * a.memory⟩

/-- States that do not branch. -/
def plain (n : Nat) : Extent := ⟨n, n * stateSize⟩

/-- A state with branches. -/
def fork (branches : Nat) : Extent := ⟨1, stateSize + branches * branchSize⟩

/-- A state that tells ranges of bytes apart. -/
def table (ranges : Nat) : Extent := ⟨1, stateSize + ranges * transitionSize⟩

def sum (extents : List Extent) : Extent := extents.foldl add zero

end Extent

/-! ## Byte sequences -/

/-- A row of byte ranges. -/
abbrev ByteSequence := List (Nat × Nat)

/-- The bytes of a code point in UTF-8. -/
def bytesOf (n : Nat) : List Nat :=
  if n ≤ 0x7F then [n]
  else if n ≤ 0x7FF then [0xC0 + n / 64, 0x80 + n % 64]
  else if n ≤ 0xFFFF then [0xE0 + n / 4096, 0x80 + n / 64 % 64, 0x80 + n % 64]
  else [0xF0 + n / 262144, 0x80 + n / 4096 % 64, 0x80 + n / 64 % 64, 0x80 + n % 64]

/-- The sequences of the encodings of the code points `lo` to `hi`. A range is cut at the
surrogates, where the length of the encoding changes, and where a byte would not run through its
whole range while an earlier one changes. -/
def sequencesOf : Nat → Nat → Nat → List ByteSequence
  | 0, _, _ => []
  | fuel + 1, lo, hi =>
    if hi < lo then []
    else if lo < 0xE000 ∧ 0xD7FF < hi then
      sequencesOf fuel lo 0xD7FF ++ sequencesOf fuel 0xE000 hi
    else if 0xD800 ≤ lo ∧ hi ≤ 0xDFFF then []
    else match [0x7F, 0x7FF, 0xFFFF].find? (fun last => lo ≤ last && last < hi) with
      | some last => sequencesOf fuel lo last ++ sequencesOf fuel (last + 1) hi
      | none =>
        if hi ≤ 0x7F then [[(lo, hi)]]
        else
          let cut (block : Nat) : Option Nat :=
            if lo / block = hi / block then none
            else if lo % block ≠ 0 then some (lo / block * block + block - 1)
            else if hi % block ≠ block - 1 then some (hi / block * block - 1)
            else none
          match [64, 4096, 262144].findSome? cut with
          | some last => sequencesOf fuel lo last ++ sequencesOf fuel (last + 1) hi
          | none => [(bytesOf lo).zip (bytesOf hi)]

/-- The sequences of a set, in order. -/
def byteSequences (set : CharSet) : List ByteSequence :=
  set.ranges.flatMap fun (lo, hi) => sequencesOf 64 lo hi

/-! ## Sets, forward -/

/-- States by their transitions. -/
abbrev StateTable := Std.HashMap (List (Nat × Nat × Nat)) Nat

/-- The state with given transitions, entered in the table if it is new. The final state is zero. -/
def intern (transitions : List (Nat × Nat × Nat)) (table : StateTable) : Nat × StateTable :=
  match table[transitions]? with
  | some id => (id, table)
  | none => (table.size + 1, table.insert transitions (table.size + 1))

/-- Groups sequences in a row that start with the same range. -/
def groupByHead : List ByteSequence → List ((Nat × Nat) × List ByteSequence)
  | [] => []
  | [] :: rest => groupByHead rest
  | (range :: tail) :: rest =>
    match groupByHead rest with
    | (range', tails) :: groups =>
      if range = range' then (range, tail :: tails) :: groups
      else (range, [tail]) :: (range', tails) :: groups
    | [] => [(range, [tail])]

/-- Enters the states of sequences whose equal endings are shared; sequences have at most `fuel`
ranges. -/
def internAll : Nat → List ByteSequence → StateTable → Nat × StateTable
  | 0, _, table => (0, table)
  | fuel + 1, sequences, table =>
    if sequences.all List.isEmpty then (0, table)
    else
      let (transitions, table) := (groupByHead sequences).foldl
        (fun (done, table) (range, tails) =>
          let (next, table) := internAll fuel tails table
          ((range.1, range.2, next) :: done, table))
        (([] : List (Nat × Nat × Nat)), table)
      intern transitions.reverse table

/-- The extent of a set beyond ASCII, read forward. -/
def forwardExtent (set : CharSet) : Extent :=
  let (_, table) := internAll 5 (byteSequences set) ∅
  table.fold (fun extent transitions _ => extent.add (.table transitions.length)) (.plain 1)

/-! ## Sets, backward -/

/-- Something remembered: a state that leads to `target` over a range of bytes. -/
structure Remembered where
  target : Nat
  range : Nat × Nat
  state : Nat

/-- What is remembered, by place. -/
abbrev Memory := Array (Option Remembered)

/-- The number of places. -/
def memoryPlaces : Nat := 1000

/-- The place of a state with a given target and range. Only one state is remembered at a place. -/
def memoryPlace (target : Nat) (range : Nat × Nat) : Nat :=
  let mix (h : UInt64) (n : Nat) : UInt64 := (h ^^^ n.toUInt64) * 1099511628211
  (mix (mix (mix 14695981039346656037 target) range.1) range.2).toNat % memoryPlaces

/-- The state remembered for a target and a range. -/
def Memory.recall (memory : Memory) (target : Nat) (range : Nat × Nat) : Option Nat :=
  match memory.getD (memoryPlace target range) none with
  | some known => if known.target = target ∧ known.range = range then some known.state else none
  | none => none

/-- Remembers a state in its place. -/
def Memory.remember (memory : Memory) (entry : Remembered) : Memory :=
  memory.setIfInBounds (memoryPlace entry.target entry.range) (some entry)

/-- Adds the states of a sequence, of which there are `states` so far, in front of `target`. States
that are remembered are not added again. -/
def addSequence (states target : Nat) (memory : Memory) : ByteSequence → Nat × Memory
  | [] => (states, memory)
  | range :: rest =>
    match memory.recall target range with
    | some known => addSequence states known memory rest
    | none => addSequence (states + 1) states (memory.remember ⟨target, range, states⟩) rest

/-- Adds the states of sequences, which all start in front of `target`. -/
def addSequences (target : Nat) : Nat → Memory → List ByteSequence → Nat
  | states, _, [] => states
  | states, memory, s :: rest =>
    let (states, memory) := addSequence states target memory s
    addSequences target states memory rest

/-- Lays out a set beyond ASCII, given by its sequences, after what stands before. -/
def spell (sequences : List ByteSequence) (before : Extent) : Extent :=
  let start := before.states + 2
  let states := addSequences (before.states + 1) start (Array.replicate memoryPlaces none) sequences
  ((before.add (.fork sequences.length)).add (.plain 1)).add (.plain (states - start))

/-! ## Literals -/

/-- Groups words in a row, ending a group where a word is over. A word that is over counts once as
long as no other word goes on. -/
def groupsOf (ended branched : Bool) : List (List Nat) → List (List (List Nat))
  | [] => [[]]
  | [] :: words =>
    if ended && !branched then groupsOf ended branched words
    else [] :: groupsOf true branched words
  | word :: words =>
    match groupsOf ended true words with
    | group :: groups => (word :: group) :: groups
    | [] => [[word]]

/-- The rests of the words that start with a given byte. -/
def restsAfter (byte : Nat) (words : List (List Nat)) : List (List Nat) :=
  words.filterMap fun word =>
    match word with
    | b :: rest => if b = byte then some rest else none
    | [] => none

/-- The extent of words whose equal beginnings are shared, apart from the state behind them all. The
words have at most `fuel` bytes. -/
def sharedExtent : Nat → List (List Nat) → Extent
  | 0, _ => .zero
  | fuel + 1, words =>
    if words.all List.isEmpty then .zero
    else
      let groups := groupsOf false false words
      let filled := groups.filter (!·.isEmpty)
      let own := Extent.fork (filled.length + (groups.length - 1))
      filled.foldl
        (fun extent group =>
          let heads := (group.filterMap List.head?).eraseDups
          let reading := if heads.length = 1 then Extent.plain 1 else Extent.table heads.length
          heads.foldl (fun extent byte => extent.add (sharedExtent fuel (restsAfter byte group)))
            (extent.add reading))
        own

/-- The bytes of a text in UTF-8. -/
def bytesOfText (text : List Char) : List Nat := text.flatMap fun c => bytesOf c.toNat

/-- The extent of alternatives that are literals. -/
def wordsExtent (words : List (List Nat)) : Extent :=
  let longest := words.foldl (fun n word => max n word.length) 0
  (sharedExtent (longest + 1) words).add (.plain 1)

/-! ## Layouts -/

/-- How the parts of an automaton follow each other. -/
inductive Layout where
  /-- A part of the same extent everywhere. -/
  | fixed (extent : Extent)
  /-- A set, backward. -/
  | spelled (sequences : List ByteSequence)
  | both (first second : Layout)
  | copies (count : Nat) (part : Layout)
deriving Inhabited

namespace Layout

/-- One part after another. -/
def before : Layout → Layout → Layout
  | fixed a, fixed b => fixed (a.add b)
  | first, second => both first second

def row (parts : List Layout) : Layout := parts.foldr before (fixed .zero)

/-- Several copies of a part. -/
def times (count : Nat) : Layout → Layout
  | fixed extent => fixed (extent.scale count)
  | part => copies count part

def plain (n : Nat) : Layout := fixed (.plain n)

def fork (branches : Nat) : Layout := fixed (.fork branches)

/-- Refuses what is too large. -/
def check (extent : Extent) : Option Extent :=
  if extent.memory ≤ sizeLimit then some extent else none

/-- Lays out copies until the limit is reached. -/
def placeCopies (place : Extent → Option Extent) : Nat → Extent → Option Extent
  | 0, extent => some extent
  | count + 1, extent =>
    match place extent with
    | some extent => placeCopies place count extent
    | none => none

/-- The extent of a layout with what stands before, unless it is too large. -/
def place : Layout → Extent → Option Extent
  | fixed extent, before => check (before.add extent)
  | spelled sequences, before => check (spell sequences before)
  | both first second, before => (first.place before).bind second.place
  | copies count part, before => placeCopies part.place count before

end Layout

/-! ## Expressions -/

/-- The directions of reading. -/
inductive Direction where
  | forward
  | backward
deriving DecidableEq

/-- The layout of a set. -/
def setLayout (direction : Direction) (set : CharSet) : Layout :=
  if set.isAscii then .fixed ((Extent.plain 1).add (.table set.ranges.length))
  else match direction with
    | .forward => .fixed (forwardExtent set)
    | .backward => .spelled (byteSequences set)

/-- The layout of a repetition of a part. -/
def repetitionLayout (part : Layout) (isLong : Bool) (least : Nat) : Option Nat → Layout
  | none =>
    if least = 0 then
      if isLong then .row [.fork 2, part] else .row [part, .fork 2, .fork 2, .plain 1]
    else .row [part.times least, .fork 2]
  | some most =>
    if least = 0 ∧ most = 1 then .row [.fork 2, part, .plain 1]
    else
      let required := if least = 0 then .plain 1 else part.times least
      if least = most then required
      else .row [required, .plain 1, (Layout.row [.fork 2, part]).times (most - least)]

/-- The layout of alternatives. -/
def choiceLayout : List Layout → Layout
  | first :: second :: others =>
    .row (first :: second :: .fork (others.length + 2) :: .plain 1 :: others)
  | parts => .row parts

namespace Expression

/-- The text of a literal. -/
def literal? : Expression → Option (List Char)
  | literal text => some text
  | _ => none

mutual

/-- The layout of an expression. Only the forward automaton knows of captures. -/
def layout (direction : Direction) : Expression → Layout
  | empty => .plain 1
  | literal text => .plain (bytesOfText text).length
  | chars set => setLayout direction set
  | look _ => .plain 1
  | concat items =>
    let parts := layoutAll direction items
    .row (if direction = .forward then parts else parts.reverse)
  | alternation branches =>
    match branches.mapM literal? with
    | some texts =>
      let words := texts.map bytesOfText
      .fixed (wordsExtent (if direction = .forward then words else words.map List.reverse))
    | none => choiceLayout (layoutAll direction branches)
  | repetition inner least most _ =>
    repetitionLayout (inner.layout direction) inner.isLong least most
  | capture inner =>
    match direction with
    | .forward => .row [.plain 1, inner.layout direction, .plain 1]
    | .backward => inner.layout direction

/-- The layouts of several expressions. -/
def layoutAll (direction : Direction) : List Expression → List Layout
  | [] => []
  | e :: es => e.layout direction :: layoutAll direction es

end

/-- The layout of the automaton of an expression: it passes over what stands before a match, unless
a match cannot start later, and ends in a state for the match. The whole match is captured, too. -/
def automatonLayout (e : Expression) (direction : Direction) : Layout :=
  let anchored := match direction with
    | .forward => e.startsAt .textStart
    | .backward => e.endsAt .textEnd
  let passing := if anchored then .plain 1 else .row [.fork 2, .plain 1, .fixed (.table 1)]
  .row [passing, (capture e).layout direction, .plain 1]

/-- Neither automaton is too large. -/
def fits (e : Expression) : Bool :=
  [Direction.forward, .backward].all fun direction =>
    ((e.automatonLayout direction).place .zero).isSome

end Expression

end RuleFilter.Pattern
