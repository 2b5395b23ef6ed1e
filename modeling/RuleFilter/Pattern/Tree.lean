set_option autoImplicit false

/-! # Pattern trees

What a pattern says, as written: the tree keeps flags, names of classes and escapes, and nothing is
looked up yet. -/

namespace RuleFilter.Pattern

/-- A character as written. One given by two hexadecimal digits stands for a byte where Unicode is
switched off. -/
structure Letter where
  char : Char
  isByte : Bool
deriving DecidableEq, Inhabited

/-- Switches that change the meaning of what follows them. -/
inductive Flag where
  | ignoreCase
  | multiLine
  | dotNewLine
  | swapGreed
  | unicode
  | carriageReturn
  | verbose
deriving DecidableEq

/-- A switch turned on or off. -/
structure FlagSetting where
  flag : Flag
  on : Bool
deriving DecidableEq

/-- Places between characters. -/
inductive Anchor where
  | lineStart
  | lineEnd
  | textStart
  | textEnd
  | wordBoundary
  | notWordBoundary
  | wordStart
  | wordEnd
  | wordStartHalf
  | wordEndHalf
deriving DecidableEq

/-- The short classes. -/
inductive ShortClass where
  | digit
  | space
  | word
deriving DecidableEq

/-- The classes named inside brackets. -/
inductive AsciiClass where
  | alnum
  | alpha
  | ascii
  | blank
  | cntrl
  | digit
  | graph
  | lower
  | print
  | punct
  | space
  | upper
  | word
  | xdigit
deriving DecidableEq

/-- A question about a character's properties. -/
inductive PropertyQuery where
  /-- One name: a property, category or script. -/
  | named (name : String)
  /-- A property and its value. -/
  | valued (name value : String)
deriving DecidableEq

/-- A class of characters that is named rather than spelled out. -/
inductive NamedClass where
  | short (kind : ShortClass) (negated : Bool)
  | property (query : PropertyQuery) (negated : Bool)
deriving DecidableEq

/-- Operations on sets inside brackets. -/
inductive SetOperation where
  | intersection
  | difference
  | symmetricDifference
deriving DecidableEq

/-- What stands between brackets. -/
inductive SetTree where
  | letter (l : Letter)
  | range (first last : Letter)
  | ascii (kind : AsciiClass) (negated : Bool)
  | named (kind : NamedClass)
  | bracket (negated : Bool) (inner : SetTree)
  | union (items : List SetTree)
  | binary (operation : SetOperation) (left right : SetTree)
deriving Inhabited

/-- A pattern. -/
inductive Tree where
  | flags (settings : List FlagSetting)
  | letter (l : Letter)
  | dot
  | anchor (a : Anchor)
  | named (kind : NamedClass)
  | bracket (negated : Bool) (inner : SetTree)
  /-- A repetition between `least` and `most` times. One that is not `greedy` prefers fewer
  turns. -/
  | repetition (inner : Tree) (least : Nat) (most : Option Nat) (greedy : Bool)
  | capture (inner : Tree)
  /-- A group that captures nothing, with switches for its inside. -/
  | scope (settings : List FlagSetting) (inner : Tree)
  | concat (items : List Tree)
  | alternation (branches : List Tree)
deriving Inhabited

/-- One item stands for itself. -/
def SetTree.ofItems : List SetTree → SetTree
  | [item] => item
  | items => union items

/-- One item stands for itself; no items match the empty text. -/
def Tree.ofItems : List Tree → Tree
  | [item] => item
  | items => concat items

/-- One branch stands for itself. -/
def Tree.ofBranches : List Tree → Tree
  | [branch] => branch
  | branches => alternation branches

/-! ## Nesting -/

mutual

/-- Levels of nesting between brackets. -/
def SetTree.depth : SetTree → Nat
  | bracket _ inner => inner.depth + 1
  | union [] => 0
  | union items => SetTree.depthAll items + 1
  | binary _ left right => max left.depth right.depth + 1
  | _ => 0

def SetTree.depthAll : List SetTree → Nat
  | [] => 0
  | item :: items => max item.depth (SetTree.depthAll items)

end

mutual

/-- Levels of nesting. -/
def Tree.depth : Tree → Nat
  | bracket _ inner => inner.depth + 1
  | repetition inner _ _ _ => inner.depth + 1
  | capture inner => inner.depth + 1
  | scope _ inner => inner.depth + 1
  | concat [] => 0
  | concat items => Tree.depthAll items + 1
  | alternation branches => Tree.depthAll branches + 1
  | _ => 0

def Tree.depthAll : List Tree → Nat
  | [] => 0
  | item :: items => max item.depth (Tree.depthAll items)

end

end RuleFilter.Pattern
