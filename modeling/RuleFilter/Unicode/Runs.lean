set_option autoImplicit false

/-! # Tables of runs

The tables of this folder are texts of numbers with blanks between them, each number the length of a
run of code points. In a table of a yes-or-no property runs alternate; in a table of labels each
length has its label in front; a table of a map gives arithmetic progressions. -/

namespace RuleFilter.Unicode

/-- One past the last code point. -/
def codeSpace : Nat := 0x110000

/-- The words of a table, between blanks and ends of lines. -/
def words (table : String) : List (List Char) :=
  let finish (word : List Char) (done : List (List Char)) : List (List Char) :=
    if word.isEmpty then done else word.reverse :: done
  let (last, done) := table.toList.foldl
    (fun (word, done) c =>
      if c = ' ' ∨ c = '\n' then ([], finish word done) else (c :: word, done))
    (([] : List Char), ([] : List (List Char)))
  (finish last done).reverse

/-- The natural number written by decimal digits. -/
def natOf (digits : List Char) : Nat := digits.foldl (fun n c => 10 * n + (c.toNat - 48)) 0

/-- The integer written by decimal digits, with a minus sign in front of a negative one. -/
def intOf : List Char → Int
  | '-' :: digits => -(natOf digits : Int)
  | digits => natOf digits

/-! ## Sets -/

/-- The ranges of the code points that have a property, from the lengths of alternating runs. -/
def rangesFrom : Nat → List Nat → List (Nat × Nat)
  | start, gap :: length :: rest =>
    (start + gap, start + gap + length - 1) :: rangesFrom (start + gap + length) rest
  | _, _ => []

/-- The ranges a table of a yes-or-no property describes. -/
def ranges (table : String) : List (Nat × Nat) := rangesFrom 0 ((words table).map natOf)

/-! ## Labels -/

/-- A range of code points with a label. -/
structure Labelled (α : Type) where
  label : α
  range : Nat × Nat

/-- The labelled ranges of words that each hold a label and a length. -/
def labelledFrom : Nat → List (List Char) → List (Labelled String)
  | _, [] => []
  | start, word :: rest =>
    let length := natOf (word.dropWhile (!·.isDigit))
    ⟨String.ofList (word.takeWhile (!·.isDigit)), (start, start + length - 1)⟩ ::
      labelledFrom (start + length) rest

/-- The labelled ranges a table describes. -/
def labelledRuns (table : String) : List (Labelled String) := labelledFrom 0 (words table)

/-! ## Maps -/

/-- Code points `first`, `first + stride`, …, each moved by `shift`. -/
structure CodeRun where
  first : Nat
  count : Nat
  stride : Nat
  shift : Int

/-- A map on code points that moves those of its runs. -/
abbrev CodeMap := List CodeRun

/-- The map a table of progressions describes. -/
def codeMap (table : String) : CodeMap := group ((words table).map intOf)
where
  /-- Takes the numbers by fours. -/
  group : List Int → CodeMap
    | first :: count :: stride :: shift :: rest =>
      ⟨first.toNat, count.toNat, stride.toNat, shift⟩ :: group rest
    | _ => []

/-- The run moves the code point. -/
def CodeRun.moves (run : CodeRun) (c : Nat) : Bool :=
  run.first ≤ c && c < run.first + run.count * run.stride && (c - run.first) % run.stride = 0

/-- The image of a code point the map moves. -/
def CodeMap.image? (m : CodeMap) (c : Nat) : Option Nat :=
  (m.find? (·.moves c)).map fun run => ((c : Int) + run.shift).toNat

/-- All pairs of a code point the map moves and its image. -/
def CodeMap.pairs (m : CodeMap) : List (Nat × Nat) :=
  m.flatMap fun run => (List.range run.count).map fun i =>
    let c := run.first + i * run.stride
    (c, ((c : Int) + run.shift).toNat)

end RuleFilter.Unicode
