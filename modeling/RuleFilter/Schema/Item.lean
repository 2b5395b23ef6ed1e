import RuleFilter.Schema.Grammar.Basic

set_option autoImplicit false

/-! # Attribute items

An attribute is an item, and so is each member of a list in one: a bare path, a path with a value,
or a path with a list in brackets. What stands in the brackets need not be members: whether it can
be read as such matters only to somebody who knows the path. A value is an expression, of which only
a single text literal has a meaning here. -/

namespace RuleFilter.Schema

open TokenReader

/-- The names of a path, the first one empty if the path starts with `::`. -/
abbrev ItemPath := List String

/-- The value of an item. -/
inductive ItemValue where
  | text (s : String)
  | other
deriving DecidableEq, Inhabited

/-- An item. -/
inductive Item where
  | bare (path : ItemPath)
  | valued (path : ItemPath) (value : ItemValue)
  /-- A list, with its members if they can be read. -/
  | list (path : ItemPath) (members : Option (List Item))
deriving Inhabited

def Item.path : Item → ItemPath
  | bare path => path
  | valued path _ => path
  | list path _ => path

/-- The value of what has a form. -/
def ItemValue.ofForm : Form → ItemValue
  | .text s => .text s
  | _ => .other

/-- Takes an item, whose list `members` reads. -/
def takeItem (read : PartReader) (members : List Token → Option (List Item)) :
    TokenReader Item := do
  let path ← attributePath
  if ← acceptSign "=" then return .valued path (.ofForm (← valuePart read))
  match ← get with
  | .group _ inner :: rest => set rest; return .list path (members inner)
  | _ => return .bare path

/-- Reads items with commas between them; there may be one at the end. Every list in an item uses up
fuel. -/
def readItems (read : PartReader) : Nat → List Token → Option (List Item)
  | 0, _ => none
  | fuel + 1, ts => readAll ts (commaList (takeItem read (readItems read fuel)))

/-- Reads a text that is one item. No character takes more than a few turns of the grammar. -/
def Item.ofText? (text : String) : Option Item := do
  let read := readPart (16 * (text.length + 1))
  readAll (← tokens? text) (takeItem read (readItems read (text.length + 1)))

end RuleFilter.Schema
