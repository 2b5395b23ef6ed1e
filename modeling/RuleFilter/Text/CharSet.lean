import RuleFilter.Unicode.BinaryProperty
import RuleFilter.Unicode.Case
import RuleFilter.Unicode.GeneralCategory

set_option autoImplicit false

/-! # Sets of characters

A set is kept as closed ranges of code points in increasing order, any two of them apart. The range
of surrogates may lie in a set; no character is one, so it makes no difference to membership. -/

namespace RuleFilter

/-- A set of code points. -/
structure CharSet where
  ranges : List (Nat × Nat)
deriving DecidableEq, Inhabited

namespace CharSet

def empty : CharSet := ⟨[]⟩

/-- Joins ranges that touch, given in order of their lower ends; `lo` to `hi` is the one under
way. -/
def mergeFrom (lo hi : Nat) : List (Nat × Nat) → List (Nat × Nat)
  | [] => [(lo, hi)]
  | (lo', hi') :: rest =>
    if lo' ≤ hi + 1 then mergeFrom lo (max hi hi') rest else (lo, hi) :: mergeFrom lo' hi' rest

/-- Joins ranges that touch, given in order of their lower ends. -/
def merge : List (Nat × Nat) → List (Nat × Nat)
  | [] => []
  | (lo, hi) :: rest => mergeFrom lo hi rest

/-- The set of the code points in any of the ranges. -/
def ofRanges (ranges : List (Nat × Nat)) : CharSet :=
  ⟨merge (ranges.mergeSort fun a b => a.1 ≤ b.1)⟩

def singleton (c : Char) : CharSet := ⟨[(c.toNat, c.toNat)]⟩

/-- The gaps between ranges, from a given code point on. -/
def gaps : Nat → List (Nat × Nat) → List (Nat × Nat)
  | start, [] => if start < Unicode.codeSpace then [(start, Unicode.codeSpace - 1)] else []
  | start, (lo, hi) :: rest =>
    if start < lo then (start, lo - 1) :: gaps (hi + 1) rest else gaps (hi + 1) rest

/-- The code points outside the set. -/
def complement (s : CharSet) : CharSet := ⟨gaps 0 s.ranges⟩

def union (s t : CharSet) : CharSet := ofRanges (s.ranges ++ t.ranges)

def inter (s t : CharSet) : CharSet := (s.complement.union t.complement).complement

def diff (s t : CharSet) : CharSet := s.inter t.complement

/-- The code points in exactly one of two sets. -/
def symmDiff (s t : CharSet) : CharSet := (s.union t).diff (s.inter t)

/-- Membership in ranges in increasing order. -/
def inRanges (n : Nat) : List (Nat × Nat) → Bool
  | [] => false
  | (lo, hi) :: rest => if n < lo then false else n ≤ hi || inRanges n rest

def contains (s : CharSet) (c : Char) : Bool := inRanges c.toNat s.ranges

def isEmpty (s : CharSet) : Bool := s.ranges.isEmpty

/-- No code point of the set lies beyond ASCII. -/
def isAscii (s : CharSet) : Bool := s.ranges.all (·.2 ≤ 0x7F)

/-! ## Named sets -/

/-- Decimal digits of all scripts. -/
def digit : CharSet := ofRanges (Unicode.ofCategories ["Nd"])

/-- White space. -/
def space : CharSet := ofRanges (Unicode.ranges Unicode.whiteSpaceRuns)

def alphabetic : CharSet := ofRanges (Unicode.ranges Unicode.alphabeticRuns)

/-- The characters of words: letters, marks, digits, connectors and joiners. -/
def word : CharSet :=
  alphabetic.union (ofRanges (Unicode.ofCategories ["Mn", "Mc", "Me", "Nd", "Pc"] ++
    Unicode.ranges Unicode.joinControlRuns))

def asciiDigit : CharSet := ⟨[(0x30, 0x39)]⟩

def asciiSpace : CharSet := ⟨[(0x09, 0x0D), (0x20, 0x20)]⟩

def asciiWord : CharSet := ⟨[(0x30, 0x39), (0x41, 0x5A), (0x5F, 0x5F), (0x61, 0x7A)]⟩

/-! ## Closure under case -/

/-- The code points that differ in case only from their representative, with it. -/
def foldingPairs : List (Nat × Nat) := Unicode.foldingMap.pairs

/-- Adds every code point that differs from a member in case only. -/
def foldCase (s : CharSet) : CharSet :=
  let touched := foldingPairs.filterMap fun (c, f) =>
    if inRanges c s.ranges || inRanges f s.ranges then some f else none
  let reached := ofRanges (touched.map fun f => (f, f))
  let added := foldingPairs.filterMap fun (c, f) =>
    if inRanges f reached.ranges then some (c, c) else none
  if touched.isEmpty then s else ofRanges (s.ranges ++ reached.ranges ++ added)

/-- Adds the other case of every ASCII letter. -/
def foldAsciiCase (s : CharSet) : CharSet :=
  let upper := s.inter ⟨[(0x41, 0x5A)]⟩
  let lower := s.inter ⟨[(0x61, 0x7A)]⟩
  ofRanges (s.ranges ++ upper.ranges.map (fun (lo, hi) => (lo + 32, hi + 32)) ++
    lower.ranges.map (fun (lo, hi) => (lo - 32, hi - 32)))

end CharSet

end RuleFilter
