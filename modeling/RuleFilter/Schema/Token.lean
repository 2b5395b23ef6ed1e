import RuleFilter.Text.CharSet
import RuleFilter.Unicode.Additions

set_option autoImplicit false

/-! # Tokens of attributes

The text of an attribute is cut into names, literals and signs, and what stands between a pair of
brackets becomes one token. A sign that is joined to the next one may form a longer sign with it.
Comments are left out, but one that documents something stands for an attribute and is cut into the
tokens of that. Line ends of two characters count as one in a text literal, and a lone carriage
return is refused there. -/

namespace RuleFilter.Schema

/-- A pair of brackets. -/
inductive Bracket where
  | round
  | square
  | curly
deriving DecidableEq

/-- A token. -/
inductive Token where
  /-- A name; a raw one keeps its mark. -/
  | name (text : String)
  | lifetime (text : String)
  /-- A literal that is a text. -/
  | text (value : String)
  | integer (value : Nat) (suffixed : Bool)
  /-- A number with a point or an exponent, as written. -/
  | decimal (text : List Char)
  /-- Any other literal. -/
  | literal
  | sign (c : Char) (joined : Bool)
  | group (bracket : Bracket) (inner : List Token)
deriving Inhabited

/-! ## Characters -/

/-- The characters beyond ASCII a name may start with. -/
def nameStarts : CharSet := .ofRanges (Unicode.ranges Unicode.xidStartRuns ++ Unicode.addedLetters)

/-- The characters beyond ASCII a name may go on with. -/
def nameRests : CharSet :=
  .ofRanges (Unicode.ranges Unicode.xidContinueRuns ++ Unicode.addedLetters ++ Unicode.addedMarks ++
    Unicode.additionsOf ["Nd"])

def isNameStart (c : Char) : Bool :=
  c = '_' || (if c.toNat < 0x80 then c.isAlpha else nameStarts.contains c)

def isNameChar (c : Char) : Bool :=
  c = '_' || (if c.toNat < 0x80 then c.isAlphanum else nameRests.contains c)

/-- White space and the marks of direction. -/
def isBlank (c : Char) : Bool := CharSet.space.contains c || c = '\u200e' || c = '\u200f'

def isSign (c : Char) : Bool :=
  ['~', '!', '@', '#', '$', '%', '^', '&', '*', '-', '=', '+', '|', ';', ':', ',', '<', '.', '>',
    '/', '?', '\''].contains c

/-- A sign comes next; the start of a comment is none. -/
def signFollows : List Char → Bool
  | '/' :: '/' :: _ => false
  | '/' :: '*' :: _ => false
  | c :: _ => isSign c
  | [] => false

/-- The start of a name comes next. -/
def nameFollows (cs : List Char) : Bool := cs.head?.any isNameStart

/-! ## Text literals -/

def hexDigit? (c : Char) : Option Nat :=
  if c.isDigit then some (c.toNat - '0'.toNat)
  else if 'a' ≤ c ∧ c ≤ 'f' then some (c.toNat - 'a'.toNat + 10)
  else if 'A' ≤ c ∧ c ≤ 'F' then some (c.toNat - 'A'.toNat + 10)
  else none

/-- The code point written by hexadecimal digits, with underscores among them but not in front. -/
def codePoint? (digits : List Char) : Option Char := do
  if digits.head? = some '_' then none
  let values ← (digits.filter (· ≠ '_')).mapM hexDigit?
  let code := values.foldl (16 * · + ·) 0
  if values.isEmpty || 6 < values.length || !code.isValidChar then none
  else return Char.ofNat code

/-- Reads an escape, behind its backslash. -/
def readEscape : List Char → Option (Char × List Char)
  | 'n' :: rest => some ('\n', rest)
  | 'r' :: rest => some ('\r', rest)
  | 't' :: rest => some ('\t', rest)
  | '\\' :: rest => some ('\\', rest)
  | '0' :: rest => some ('\x00', rest)
  | '\'' :: rest => some ('\'', rest)
  | '"' :: rest => some ('"', rest)
  | 'x' :: a :: b :: rest => do
    let code := 16 * (← hexDigit? a) + (← hexDigit? b)
    if code ≤ 0x7F then return (Char.ofNat code, rest) else none
  | 'u' :: '\x7b' :: rest =>
    match rest.span (· ≠ '\x7d') with
    | (digits, '\x7d' :: rest) => (codePoint? digits).map fun c => (c, rest)
    | _ => none
  | _ => none

/-- Passes over blanks and line ends behind a backslash at the end of a line. -/
def passLineEnd : List Char → Option (List Char)
  | '\r' :: '\n' :: rest => passLineEnd rest
  | '\r' :: _ => none
  | c :: rest => if c.isWhitespace then passLineEnd rest else some (c :: rest)
  | [] => none

/-- Reads a text literal, behind its opening quote. A backslash at the end of a line drops the line
end and the blanks after it. -/
def readQuoted : Nat → List Char → Option (List Char × List Char)
  | 0, _ => none
  | _ + 1, [] => none
  | _ + 1, '"' :: rest => some ([], rest)
  | fuel + 1, '\\' :: '\n' :: rest => (passLineEnd rest).bind (readQuoted fuel)
  | fuel + 1, '\\' :: '\r' :: rest => (passLineEnd ('\r' :: rest)).bind (readQuoted fuel)
  | fuel + 1, '\\' :: rest => do
    let (c, rest) ← readEscape rest
    let (cs, rest) ← readQuoted fuel rest
    return (c :: cs, rest)
  | fuel + 1, '\r' :: '\n' :: rest =>
    (readQuoted fuel rest).map fun (cs, rest) => ('\n' :: cs, rest)
  | _ + 1, '\r' :: _ => none
  | fuel + 1, c :: rest => (readQuoted fuel rest).map fun (cs, rest) => (c :: cs, rest)

/-- Passes over an escape in a literal of bytes, behind its backslash. -/
def passByteEscape : List Char → Option (List Char)
  | 'x' :: a :: b :: rest => do
    let _ ← hexDigit? a
    let _ ← hexDigit? b
    return rest
  | c :: rest => if ['n', 'r', 't', '\\', '0', '\'', '"'].contains c then some rest else none
  | [] => none

/-- Passes over a literal of bytes, behind its opening quote. -/
def passBytes : Nat → List Char → Option (List Char)
  | 0, _ => none
  | _ + 1, [] => none
  | _ + 1, '"' :: rest => some rest
  | fuel + 1, '\\' :: '\n' :: rest => (passLineEnd rest).bind (passBytes fuel)
  | fuel + 1, '\\' :: '\r' :: rest => (passLineEnd ('\r' :: rest)).bind (passBytes fuel)
  | fuel + 1, '\\' :: rest => (passByteEscape rest).bind (passBytes fuel)
  | fuel + 1, '\r' :: '\n' :: rest => passBytes fuel rest
  | _ + 1, '\r' :: _ => none
  | fuel + 1, c :: rest => if c.toNat < 0x80 then passBytes fuel rest else none

/-- Passes over a single byte in quotes, behind the opening one. -/
def passByte : List Char → Option (List Char)
  | '\\' :: rest => do
    match ← passByteEscape rest with
    | '\'' :: rest => return rest
    | _ => none
  | c :: '\'' :: rest => if c.toNat < 0x80 then some rest else none
  | _ => none

/-- Reads a raw text literal, behind its mark: as many `#` as open it close it. -/
def readRaw (cs : List Char) : Option (List Char × List Char) :=
  let (hashes, rest) := cs.span (· = '#')
  match rest with
  | '"' :: rest => body ('"' :: hashes) rest
  | _ => none
where
  /-- Reads up to the closing mark. -/
  body (closing : List Char) : List Char → Option (List Char × List Char)
    | [] => none
    | c :: rest =>
      if closing.isPrefixOf (c :: rest) then some ([], (c :: rest).drop closing.length)
      else if c = '\r' && rest.head? ≠ some '\n' then none
      else (body closing rest).map fun (cs, rest) => (c :: cs, rest)

/-- Passes over a name that may follow a literal. -/
def passSuffix (cs : List Char) : List Char :=
  match cs with
  | c :: rest => if isNameStart c then rest.dropWhile isNameChar else cs
  | [] => []

/-! ## Numbers -/

/-- Passes over digits and at most one point, and tells whether there is one. A point with another
one or a name behind it belongs to what follows, so that the number has to be a whole one. -/
def passMantissa (point : Bool) : List Char → Option (Bool × List Char)
  | '.' :: rest =>
    if point then some (point, '.' :: rest)
    else if rest.head? = some '.' || nameFollows rest then none
    else passMantissa true rest
  | c :: rest => if c.isDigit || c = '_' then passMantissa point rest else some (point, c :: rest)
  | [] => some (point, [])

/-- Passes over an exponent, behind its mark. -/
def passExponent (signed valued : Bool) : List Char → Option (List Char)
  | c :: rest =>
    if c.isDigit then passExponent signed true rest
    else if c = '_' then passExponent signed valued rest
    else if (c = '+' || c = '-') && !valued then
      if signed then none else passExponent true valued rest
    else if valued then some (c :: rest) else none
  | [] => if valued then some [] else none

/-- Passes over a number with a point or an exponent. -/
def passDecimal (cs : List Char) : Option (List Char) := do
  let (point, rest) ← passMantissa false cs
  let plain := if point then some rest else none
  match rest with
  | 'e' :: exponent => passExponent false false exponent <|> plain
  | 'E' :: exponent => passExponent false false exponent <|> plain
  | _ => plain

/-- Reads the digits of a whole number. A decimal digit that the base lacks is refused, and any
other character ends the number. -/
def readDigits (base value : Nat) (blank : Bool) : List Char → Option (Nat × List Char)
  | '_' :: rest => if blank && base = 10 then none else readDigits base value blank rest
  | c :: rest =>
    match hexDigit? c with
    | some digit =>
      if digit < base then readDigits base (base * value + digit) false rest
      else if c.isDigit || blank then none
      else some (value, c :: rest)
    | none => if blank then none else some (value, c :: rest)
  | [] => if blank then none else some (value, [])

/-- Reads a whole number. -/
def readInteger : List Char → Option (Nat × List Char)
  | '0' :: 'x' :: rest => readDigits 16 0 true rest
  | '0' :: 'o' :: rest => readDigits 8 0 true rest
  | '0' :: 'b' :: rest => readDigits 2 0 true rest
  | cs => readDigits 10 0 true cs

/-- Reads a number. A name may follow it, and nothing else that could go on a name. -/
def readNumber (cs : List Char) : Option (Token × List Char) := do
  let (token, rest) ← match passDecimal cs with
    | some rest =>
      let rest := passSuffix rest
      pure (Token.decimal (cs.take (cs.length - rest.length)), rest)
    | none =>
      let (value, rest) ← readInteger cs
      pure (Token.integer value (nameFollows rest), passSuffix rest)
  if rest.head?.any isNameChar then none else return (token, rest)

/-! ## Cutting -/

/-- A token before brackets are matched. -/
inductive Lexeme where
  | token (t : Token)
  | opening (b : Bracket)
  | closing (b : Bracket)

/-- Reads a comment between marks, inside which there may be others, up to its closing mark. -/
def readComment : Nat → List Char → Option (List Char × List Char)
  | _, [] => none
  | depth, '*' :: '/' :: rest =>
    match depth with
    | 0 => some ([], rest)
    | depth + 1 => (readComment depth rest).map fun (cs, rest) => ('*' :: '/' :: cs, rest)
  | depth, '/' :: '*' :: rest =>
    (readComment (depth + 1) rest).map fun (cs, rest) => ('/' :: '*' :: cs, rest)
  | depth, c :: rest => (readComment depth rest).map fun (cs, rest) => (c :: cs, rest)

/-- Splits a text at its first line end, which stays with the rest. -/
def splitLine : List Char → List Char × List Char
  | [] => ([], [])
  | '\n' :: rest => ([], '\n' :: rest)
  | '\r' :: '\n' :: rest => ([], '\n' :: rest)
  | c :: rest => let (line, rest) := splitLine rest; (c :: line, rest)

/-- Every carriage return is part of a line end. -/
def hasNoBareReturn : List Char → Bool
  | [] => true
  | '\r' :: '\n' :: rest => hasNoBareReturn rest
  | '\r' :: _ => false
  | _ :: rest => hasNoBareReturn rest

/-- The attribute a documenting comment stands for. -/
def documentation (inner : Bool) (text : List Char) : Option (List Lexeme) :=
  if hasNoBareReturn text then
    some <| [.token (.sign '#' false)] ++ (if inner then [.token (.sign '!' false)] else []) ++
      [.token (.group .square [.name "doc", .sign '=' false, .text (String.ofList text)])]
  else none

/-- Reads a comment: what it is cut into, and the rest. -/
def readAnyComment : List Char → Option (List Lexeme × List Char)
  | '/' :: '/' :: '/' :: '/' :: rest => some ([], (splitLine rest).2)
  | '/' :: '/' :: '/' :: rest => line false rest
  | '/' :: '/' :: '!' :: rest => line true rest
  | '/' :: '/' :: rest => some ([], (splitLine rest).2)
  | '/' :: '*' :: '*' :: '/' :: rest => some ([], rest)
  | '/' :: '*' :: '*' :: '*' :: rest =>
    (readComment 0 ('*' :: '*' :: rest)).map fun (_, rest) => ([], rest)
  | '/' :: '*' :: '*' :: rest => block false ('*' :: rest)
  | '/' :: '*' :: '!' :: rest => block true ('!' :: rest)
  | '/' :: '*' :: rest => (readComment 0 rest).map fun (_, rest) => ([], rest)
  | _ => none
where
  /-- A documenting comment up to the end of its line. -/
  line (inner : Bool) (cs : List Char) : Option (List Lexeme × List Char) :=
    let (text, rest) := splitLine cs
    (documentation inner text).map fun found => (found, rest)
  /-- A documenting comment between marks, behind the opening one. -/
  block (inner : Bool) (cs : List Char) : Option (List Lexeme × List Char) := do
    let (text, rest) ← readComment 0 cs
    return (← documentation inner (text.drop 1), rest)

/-- Reads a name; a raw one has to be one that is not reserved for paths. -/
def readName (cs : List Char) : Option (String × List Char) :=
  match cs with
  | 'r' :: '#' :: c :: rest =>
    let name := String.ofList (c :: rest.takeWhile isNameChar)
    if isNameStart c && !(["_", "super", "self", "Self", "crate"].contains name) then
      some ("r#" ++ name, rest.dropWhile isNameChar)
    else none
  | c :: rest =>
    if isNameStart c then
      some (String.ofList (c :: rest.takeWhile isNameChar), rest.dropWhile isNameChar)
    else none
  | [] => none

/-- Reads what starts with a quote, behind it: a character or a lifetime. -/
def readApostrophe (cs : List Char) : Option (Token × List Char) :=
  let character : Option (List Char) :=
    match cs with
    | '\\' :: rest =>
      match readEscape rest with
      | some (_, '\'' :: rest) => some rest
      | _ => none
    | _ :: '\'' :: rest => some rest
    | _ => none
  match character with
  | some rest => some (.literal, passSuffix rest)
  | none => do
    let (name, rest) ← readName cs
    let isRaw := ['r', '#'].isPrefixOf cs
    if rest.head? = some '\'' || (rest.head? = some '#' && !isRaw) then none
    else return (.lifetime name, rest)

/-- Reads one lexeme; the text starts with neither a blank nor a comment. -/
def readLexeme (cs : List Char) : Option (Lexeme × List Char) :=
  let plain (value : List Char × List Char) : Lexeme × List Char :=
    (.token (.text (String.ofList value.1)), passSuffix value.2)
  let bytes (rest : List Char) : Lexeme × List Char := (.token .literal, passSuffix rest)
  let named := (readName cs).map fun (name, rest) => (Lexeme.token (.name name), rest)
  match cs with
  | [] => none
  | '(' :: rest => some (.opening .round, rest)
  | '[' :: rest => some (.opening .square, rest)
  | '\x7b' :: rest => some (.opening .curly, rest)
  | ')' :: rest => some (.closing .round, rest)
  | ']' :: rest => some (.closing .square, rest)
  | '\x7d' :: rest => some (.closing .curly, rest)
  | '"' :: rest => (readQuoted (rest.length + 1) rest).map plain
  | 'r' :: '"' :: rest => (readRaw ('"' :: rest)).map plain
  | 'r' :: '#' :: c :: rest =>
    if isNameStart c then named else (readRaw ('#' :: c :: rest)).map plain
  | 'b' :: '"' :: rest => (passBytes (rest.length + 1) rest).map bytes
  | 'b' :: '\'' :: rest => (passByte rest).map bytes
  | 'c' :: '"' :: rest => (readQuoted (rest.length + 1) rest).map (bytes ·.2)
  | 'b' :: 'r' :: '"' :: rest => (readRaw ('"' :: rest)).map (bytes ·.2)
  | 'b' :: 'r' :: '#' :: rest => (readRaw ('#' :: rest)).map (bytes ·.2)
  | 'c' :: 'r' :: '"' :: rest => (readRaw ('"' :: rest)).map (bytes ·.2)
  | 'c' :: 'r' :: '#' :: rest => (readRaw ('#' :: rest)).map (bytes ·.2)
  | '\'' :: rest => (readApostrophe rest).map fun (t, rest) => (.token t, rest)
  | c :: rest =>
    if c.isDigit then (readNumber cs).map fun (t, rest) => (.token t, rest)
    else if isSign c then some (.token (.sign c (signFollows rest)), rest)
    else named

/-- Cuts a text into lexemes. -/
def lexemes : Nat → List Char → Option (List Lexeme)
  | 0, _ => none
  | fuel + 1, cs =>
    match cs.dropWhile isBlank with
    | [] => some []
    | c :: rest =>
      let isComment := c = '/' && (rest.head? = some '/' || rest.head? = some '*')
      let found := if isComment then readAnyComment (c :: rest)
        else (readLexeme (c :: rest)).map fun (lexeme, rest) => ([lexeme], rest)
      match found with
      | some (found, rest) => (lexemes fuel rest).map (found ++ ·)
      | none => none

/-- Matches brackets, up to the one that closes `within`. -/
def match? (within : Option Bracket) : Nat → List Lexeme → Option (List Token × List Lexeme)
  | 0, _ => none
  | _ + 1, [] => if within.isNone then some ([], []) else none
  | _ + 1, .closing b :: rest => if within = some b then some ([], rest) else none
  | fuel + 1, .token t :: rest => (match? within fuel rest).map fun (ts, rest) => (t :: ts, rest)
  | fuel + 1, .opening b :: rest => do
    let (inner, rest) ← match? (some b) fuel rest
    let (ts, rest) ← match? within fuel rest
    return (.group b inner :: ts, rest)

/-- Cuts a text into tokens. -/
def tokens? (text : String) : Option (List Token) := do
  let found ← lexemes (text.length + 1) text.toList
  let (ts, _) ← match? none (found.length + 1) found
  return ts

end RuleFilter.Schema
