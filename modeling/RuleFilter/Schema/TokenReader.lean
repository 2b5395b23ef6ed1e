import RuleFilter.Schema.Token

set_option autoImplicit false

/-! # Reading tokens

A reader takes tokens off the front of what is left, or fails. These are the readers of single
words, signs and brackets, and of lists with commas, out of which the grammar of attributes is made.
A word that is reserved is no name unless it is written raw. -/

namespace RuleFilter.Schema

/-- A reader of tokens. -/
abbrev TokenReader := StateT (List Token) Option

/-- What can be asked about tokens that come next. -/
abbrev Lookahead := List Token → Bool

/-! ## Lookahead -/

/-- Words that are no names. -/
def reservedWords : List String :=
  ["_", "abstract", "as", "async", "await", "become", "box", "break", "const", "continue",
    "crate", "do", "dyn", "else", "enum", "extern", "false", "final", "fn", "for", "if", "impl",
    "in", "let", "loop", "macro", "match", "mod", "move", "mut", "override", "priv", "pub", "ref",
    "return", "Self", "self", "static", "struct", "super", "trait", "true", "try", "type",
    "typeof", "unsafe", "unsized", "use", "virtual", "where", "while", "yield"]

/-- Reserved words that may stand in a path. -/
def pathWords : List String := ["self", "Self", "super", "crate"]

namespace Lookahead

/-- A name comes next. -/
def name : Lookahead
  | .name n :: _ => !reservedWords.contains n
  | _ => false

/-- A name or one of several reserved words comes next. -/
def nameOr (words : List String) : Lookahead
  | .name n :: _ => !reservedWords.contains n || words.contains n
  | _ => false

/-- A name or a reserved word comes next. -/
def anyName : Lookahead
  | .name _ :: _ => true
  | _ => false

/-- One of several words comes next. -/
def word (words : List String) : Lookahead
  | .name n :: _ => words.contains n
  | _ => false

def lifetime : Lookahead
  | .lifetime _ :: _ => true
  | _ => false

def group (bracket : Bracket) : Lookahead
  | .group b _ :: _ => b = bracket
  | _ => false

def anyGroup : Lookahead
  | .group _ _ :: _ => true
  | _ => false

/-- Signs come next, each joined to the one after it. -/
def signs : List Char → Lookahead
  | [], _ => true
  | [c], .sign d _ :: _ => c = d
  | c :: cs, .sign d joined :: ts => c = d && joined && signs cs ts
  | _, _ => false

/-- A longer sign comes next. -/
def sign (s : String) : Lookahead := signs s.toList

/-- One of several longer signs comes next. -/
def anySign (ss : List String) : Lookahead := fun ts => ss.any (sign · ts)

/-- A literal comes next, a negative number and a truth value being literals, too. -/
def literal : Lookahead
  | .text _ :: _ => true
  | .integer _ _ :: _ => true
  | .decimal _ :: _ => true
  | .literal :: _ => true
  | .name n :: _ => n = "true" || n = "false"
  | .sign '-' _ :: .integer _ _ :: _ => true
  | .sign '-' _ :: .decimal _ :: _ => true
  | _ => false

/-- What is asked holds behind the next token. -/
def second (p : Lookahead) : Lookahead := fun ts => p (ts.drop 1)

/-- What is asked holds behind the next two tokens. -/
def third (p : Lookahead) : Lookahead := fun ts => p (ts.drop 2)

end Lookahead

namespace TokenReader

/-- What comes next is as asked. -/
def ahead (p : Lookahead) : TokenReader Bool := return p (← get)

def aheadSign (s : String) : TokenReader Bool := ahead (.sign s)

def aheadWord (word : String) : TokenReader Bool := ahead (.word [word])

def atEnd : TokenReader Bool := return (← get).isEmpty

/-! ## Single tokens -/

def skip (count : Nat) : TokenReader Unit := modify (·.drop count)

/-- Takes a longer sign if it comes next. -/
def acceptSign (s : String) : TokenReader Bool := do
  let found ← aheadSign s
  if found then skip s.length
  return found

def expectSign (s : String) : TokenReader Unit := do
  unless ← acceptSign s do failure

/-- Takes a word if it comes next. -/
def acceptWord (word : String) : TokenReader Bool := do
  let found ← aheadWord word
  if found then skip 1
  return found

def expectWord (word : String) : TokenReader Unit := do
  unless ← acceptWord word do failure

/-- Takes a token if what comes next is as asked. -/
def accept (p : Lookahead) : TokenReader Bool := do
  let found ← ahead p
  if found then skip 1
  return found

def expect (p : Lookahead) : TokenReader Unit := do
  unless ← accept p do failure

/-- Takes a name or a reserved word. -/
def takeName : TokenReader String := do
  match ← get with
  | .name n :: rest => set rest; return n
  | _ => failure

/-- Takes a literal. -/
def expectLiteral : TokenReader Unit := do
  unless ← ahead .literal do failure
  if ← aheadSign "-" then skip 2 else skip 1

/-! ## Brackets and lists -/

/-- Takes what stands between a pair of brackets. -/
def takeGroup (bracket : Bracket) : TokenReader (List Token) := do
  match ← get with
  | .group b inner :: rest => if b = bracket then set rest; return inner else failure
  | _ => failure

/-- Reads all of some tokens. -/
def readAll {α : Type} (tokens : List Token) (reader : TokenReader α) : Option α := do
  let (a, rest) ← reader.run tokens
  if rest.isEmpty then return a else none

/-- Reads all that stands between a pair of brackets. -/
def inside {α : Type} (bracket : Bracket) (reader : TokenReader α) : TokenReader α := do
  let inner ← takeGroup bracket
  match readAll inner reader with
  | some a => return a
  | none => failure

/-- Reads elements with commas between them to the end; there may be one behind the last. -/
def commaListFrom {α : Type} (element : TokenReader α) : Nat → TokenReader (List α)
  | 0 => failure
  | fuel + 1 => do
    if ← atEnd then return []
    let first ← element
    if ← atEnd then return [first]
    expectSign ","
    return first :: (← commaListFrom element fuel)

/-- Reads elements with commas between them to the end. Every element takes a token. -/
def commaList {α : Type} (element : TokenReader α) : TokenReader (List α) := do
  commaListFrom element ((← get).length + 1)

/-! ## Plain paths -/

/-- Takes names with `::` between them. -/
def plainNamesFrom : Nat → TokenReader (List String)
  | 0 => failure
  | fuel + 1 => do
    unless ← ahead (.nameOr pathWords) do failure
    let name ← takeName
    if ← acceptSign "::" then return name :: (← plainNamesFrom fuel)
    return [name]

/-- Takes a path without arguments: its names, the first one empty if the path starts with `::`. -/
def plainPath : TokenReader (List String) := do
  let leading ← acceptSign "::"
  let names ← plainNamesFrom ((← get).length + 1)
  return if leading then "" :: names else names

end TokenReader

end RuleFilter.Schema
