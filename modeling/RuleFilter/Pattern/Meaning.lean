import RuleFilter.Pattern.Expression
import RuleFilter.Pattern.Property

set_option autoImplicit false

/-! # The meaning of patterns

A pattern as written stands for a regular expression. Flags are resolved on the way: they hold from
where they are set to the end of the group, across its branches. What could match only part of a
character's encoding has no meaning here and is refused, as is a class nobody knows. -/

namespace RuleFilter.Pattern

/-! ## Flags -/

/-- The switches in force. -/
structure Flags where
  ignoreCase : Bool
  multiLine : Bool
  dotNewLine : Bool
  unicode : Bool
  carriageReturn : Bool
  swapGreed : Bool
deriving DecidableEq

/-- The switches at the start of a pattern. -/
def Flags.initial : Flags := ⟨false, false, false, true, false, false⟩

def Flags.set (flags : Flags) (setting : FlagSetting) : Flags :=
  match setting.flag with
  | .ignoreCase => { flags with ignoreCase := setting.on }
  | .multiLine => { flags with multiLine := setting.on }
  | .dotNewLine => { flags with dotNewLine := setting.on }
  | .unicode => { flags with unicode := setting.on }
  | .carriageReturn => { flags with carriageReturn := setting.on }
  | .swapGreed => { flags with swapGreed := setting.on }
  | .verbose => flags

def Flags.setAll (flags : Flags) (settings : List FlagSetting) : Flags :=
  settings.foldl Flags.set flags

/-! ## Sets -/

/-- The code points of an ASCII class. -/
def AsciiClass.ranges : AsciiClass → List (Nat × Nat)
  | alnum => [(0x30, 0x39), (0x41, 0x5A), (0x61, 0x7A)]
  | alpha => [(0x41, 0x5A), (0x61, 0x7A)]
  | ascii => [(0, 0x7F)]
  | blank => [(0x09, 0x09), (0x20, 0x20)]
  | cntrl => [(0, 0x1F), (0x7F, 0x7F)]
  | digit => [(0x30, 0x39)]
  | graph => [(0x21, 0x7E)]
  | lower => [(0x61, 0x7A)]
  | print => [(0x20, 0x7E)]
  | punct => [(0x21, 0x2F), (0x3A, 0x40), (0x5B, 0x60), (0x7B, 0x7E)]
  | space => [(0x09, 0x0D), (0x20, 0x20)]
  | upper => [(0x41, 0x5A)]
  | word => [(0x30, 0x39), (0x41, 0x5A), (0x5F, 0x5F), (0x61, 0x7A)]
  | xdigit => [(0x30, 0x39), (0x41, 0x46), (0x61, 0x66)]

/-- Closes a set under case if case is ignored, in the alphabet in force. -/
def Flags.fold (flags : Flags) (set : CharSet) : CharSet :=
  if flags.ignoreCase then (if flags.unicode then set.foldCase else set.foldAsciiCase) else set

/-- Folds and negates a set. Without Unicode a set of bytes beyond ASCII is refused. -/
def Flags.foldAndNegate (flags : Flags) (negated : Bool) (set : CharSet) : Option CharSet :=
  let set := flags.fold set
  let set := if negated then set.complement else set
  if flags.unicode || set.isAscii then some set else none

/-- A letter as a member of a set. -/
def Flags.member (flags : Flags) (l : Letter) : Option Nat :=
  if flags.unicode || l.char.toNat ≤ 0x7F then some l.char.toNat else none

/-- The set of a named class. -/
def NamedClass.set? (flags : Flags) : NamedClass → Option CharSet
  | short kind negated =>
    let set := match kind, flags.unicode with
      | .digit, true => CharSet.digit
      | .space, true => CharSet.space
      | .word, true => CharSet.word
      | .digit, false => CharSet.asciiDigit
      | .space, false => CharSet.asciiSpace
      | .word, false => CharSet.asciiWord
    let set := if negated then set.complement else set
    if flags.unicode || set.isAscii then some set else none
  | property query negated =>
    if flags.unicode then query.set?.bind (flags.foldAndNegate negated) else none

/-- Applies an operation to two sets. -/
def SetOperation.apply : SetOperation → CharSet → CharSet → CharSet
  | intersection => .inter
  | difference => .diff
  | symmetricDifference => .symmDiff

mutual

/-- The set that stands between brackets. -/
def SetTree.set? (flags : Flags) : SetTree → Option CharSet
  | letter l => (flags.member l).map fun n => ⟨[(n, n)]⟩
  | range first last => do return ⟨[(← flags.member first, ← flags.member last)]⟩
  | ascii kind negated => flags.foldAndNegate negated ⟨kind.ranges⟩
  | named kind => kind.set? flags
  | bracket negated inner => (inner.set? flags).bind (flags.foldAndNegate negated)
  | union items => (SetTree.allRanges? flags items).map CharSet.ofRanges
  | binary operation left right => do
    let left ← left.set? flags
    let right ← right.set? flags
    return operation.apply (flags.fold left) (flags.fold right)

/-- The ranges of all of several sets. -/
def SetTree.allRanges? (flags : Flags) : List SetTree → Option (List (Nat × Nat))
  | [] => some []
  | item :: items => do
    let set ← item.set? flags
    let ranges ← SetTree.allRanges? flags items
    return set.ranges ++ ranges

end

/-! ## Meaning -/

/-- The set of the characters that match a letter. -/
def Flags.letter (flags : Flags) (l : Letter) : Option CharSet :=
  let set := CharSet.singleton l.char
  if flags.unicode then some (if flags.ignoreCase then set.foldCase else set)
  else if l.isByte && 0x7F < l.char.toNat then none
  else some (if flags.ignoreCase && l.char.toNat ≤ 0x7F then set.foldAsciiCase else set)

/-- The set of the characters that match a dot. -/
def Flags.dot (flags : Flags) : Option CharSet :=
  if !flags.unicode then none
  else if flags.dotNewLine then some CharSet.empty.complement
  else if flags.carriageReturn then some (CharSet.complement ⟨[(0x0A, 0x0A), (0x0D, 0x0D)]⟩)
  else some (CharSet.complement ⟨[(0x0A, 0x0A)]⟩)

/-- The condition of an anchor. -/
def Flags.look (flags : Flags) : Anchor → Look
  | .lineStart =>
    if !flags.multiLine then .textStart
    else if flags.carriageReturn then .lineStartCrlf else .lineStart
  | .lineEnd =>
    if !flags.multiLine then .textEnd
    else if flags.carriageReturn then .lineEndCrlf else .lineEnd
  | .textStart => .textStart
  | .textEnd => .textEnd
  | .wordBoundary => .wordBoundary !flags.unicode
  | .notWordBoundary => .notWordBoundary !flags.unicode
  | .wordStart => .wordStart !flags.unicode
  | .wordEnd => .wordEnd !flags.unicode
  | .wordStartHalf => .wordStartHalf !flags.unicode
  | .wordEndHalf => .wordEndHalf !flags.unicode

mutual

/-- The expression of a pattern under given switches, and the switches in force after it. -/
def Tree.toExpression (flags : Flags) : Tree → Option (Expression × Flags)
  | .flags settings => some (.empty, flags.setAll settings)
  | .letter l => (flags.letter l).map (.ofSet ·, flags)
  | .dot => flags.dot.map (.ofSet ·, flags)
  | .anchor a => some (.look (flags.look a), flags)
  | .named kind => (kind.set? flags).map (.ofSet ·, flags)
  | .bracket negated inner =>
    ((inner.set? flags).bind (flags.foldAndNegate negated)).map (.ofSet ·, flags)
  | .repetition inner least most greedy => do
    let (e, after) ← inner.toExpression flags
    return (e.repeated least most (greedy != flags.swapGreed), after)
  | .capture inner => do
    let (e, _) ← inner.toExpression flags
    return (.capture e, flags)
  | .scope settings inner => do
    let (e, _) ← inner.toExpression (flags.setAll settings)
    return (e, flags)
  | .concat items => do
    let (es, after) ← Tree.toExpressions flags items
    return (.sequence es, after)
  | .alternation branches => do
    let (es, after) ← Tree.toExpressions flags branches
    return (.choice es, after)

/-- The expressions of several patterns, the switches passing from one to the next. -/
def Tree.toExpressions (flags : Flags) : List Tree → Option (List Expression × Flags)
  | [] => some ([], flags)
  | tree :: trees => do
    let (e, flags) ← tree.toExpression flags
    let (es, flags) ← Tree.toExpressions flags trees
    return (e :: es, flags)

end

end RuleFilter.Pattern
