import RuleFilter.Double.Scaling
import RuleFilter.Json.Basic

set_option autoImplicit false

/-! # Reading JSON

Readers take the characters that are left and answer a value with what is left after it. A text is
read in one pass and the first thing found wrong decides the fault, so the readers for rules and
settings are built from the pieces here (`nextItem`, `nextKey`, `readString`, …) rather than from
a finished document: a text that ends too early inside a rule that is already of the wrong shape is
of the wrong shape.

Nesting is bounded by a budget: each array or object opened takes one from it, and none may take the
last. Loops over items and members carry a fuel, for which the length of the text is enough, since
every turn takes a character. -/

namespace RuleFilter.Json

/-- What is wrong with a text. -/
inductive Fault where
  /-- The text ends too early. -/
  | endOfText
  /-- The text is not JSON. -/
  | malformed
  /-- The text is JSON of the wrong shape. -/
  | shape
deriving DecidableEq

/-- A value read, and the characters after it. -/
abbrev WithRest (α : Type) := α × List Char

/-- Arrays and objects may be nested this deep, the innermost excluded. -/
def nestingBudget : Nat := 128

/-! ## Blanks and words -/

def isBlank (c : Char) : Bool := c = ' ' || c = '\n' || c = '\t' || c = '\r'

def skipBlanks (cs : List Char) : List Char := cs.dropWhile isBlank

/-- Takes a given word off the front. -/
def readWord : List Char → List Char → Except Fault (List Char)
  | [], cs => .ok cs
  | _ :: _, [] => .error .endOfText
  | w :: ws, c :: cs => if c = w then readWord ws cs else .error .malformed

/-! ## Strings -/

/-- The value of a hexadecimal digit. -/
def hexValue? (c : Char) : Option Nat :=
  if c.isDigit then some (c.toNat - '0'.toNat)
  else if 'a' ≤ c ∧ c ≤ 'f' then some (c.toNat - 'a'.toNat + 10)
  else if 'A' ≤ c ∧ c ≤ 'F' then some (c.toNat - 'A'.toNat + 10)
  else none

/-- The character an escape letter stands for. -/
def escapedChar? : Char → Option Char
  | '"' => some '"'
  | '\\' => some '\\'
  | '/' => some '/'
  | 'b' => some '\x08'
  | 'f' => some '\x0c'
  | 'n' => some '\n'
  | 'r' => some '\r'
  | 't' => some '\t'
  | _ => none

/-- Where a reader stands inside a string. A numeric escape counts the digits still to come; after
the escape of a high surrogate, that of its low partner has to follow. -/
inductive StringState where
  | plain
  | escape
  | numeric (high : Option Nat) (missing value : Nat)
  | partnerBackslash (high : Nat)
  | partnerLetter (high : Nat)

def isHighSurrogate (n : Nat) : Bool := 0xD800 ≤ n && n ≤ 0xDBFF

def isLowSurrogate (n : Nat) : Bool := 0xDC00 ≤ n && n ≤ 0xDFFF

/-- At least four bytes are left, as many as the digits of a numeric escape. -/
def hasFourBytes (cs : List Char) : Bool := 4 ≤ (String.ofList (cs.take 4)).utf8ByteSize

/-- Reads the rest of a string whose opening quote is taken; `read` holds the characters so far, the
last first. A string that is only skipped may hold escapes of unpaired surrogates. -/
def readStringFrom (skipping : Bool) :
    StringState → List Char → List Char → Except Fault (WithRest String)
  | _, _, [] => .error .endOfText
  | .plain, read, c :: cs =>
    if c = '"' then .ok (String.ofList read.reverse, cs)
    else if c = '\\' then readStringFrom skipping .escape read cs
    else if c.toNat < 0x20 then .error .malformed
    else readStringFrom skipping .plain (c :: read) cs
  | .escape, read, c :: cs =>
    if c = 'u' then
      if hasFourBytes cs then readStringFrom skipping (.numeric none 4 0) read cs
      else .error .endOfText
    else match escapedChar? c with
      | some e => readStringFrom skipping .plain (e :: read) cs
      | none => .error .malformed
  | .numeric high missing value, read, c :: cs =>
    match hexValue? c with
    | none => .error .malformed
    | some d =>
      let value := 16 * value + d
      if missing ≠ 1 then readStringFrom skipping (.numeric high (missing - 1) value) read cs
      else match high with
        | none =>
          if skipping then readStringFrom skipping .plain read cs
          else if isLowSurrogate value then .error .malformed
          else if isHighSurrogate value then
            readStringFrom skipping (.partnerBackslash value) read cs
          else readStringFrom skipping .plain (Char.ofNat value :: read) cs
        | some h =>
          if isLowSurrogate value then
            let whole := 0x10000 + (h - 0xD800) * 0x400 + (value - 0xDC00)
            readStringFrom skipping .plain (Char.ofNat whole :: read) cs
          else .error .malformed
  | .partnerBackslash high, read, c :: cs =>
    if c = '\\' then readStringFrom skipping (.partnerLetter high) read cs else .error .malformed
  | .partnerLetter high, read, c :: cs =>
    if c ≠ 'u' then .error .malformed
    else if hasFourBytes cs then readStringFrom skipping (.numeric (some high) 4 0) read cs
    else .error .endOfText

/-- Reads a string whose opening quote is taken. -/
def readString (cs : List Char) : Except Fault (WithRest String) :=
  readStringFrom false .plain [] cs

/-! ## Numbers -/

/-- The parts of a numeral. -/
structure NumeralParts where
  negative : Bool
  whole : List Char
  /-- Fraction digits, if there is a point. -/
  fraction : Option (List Char)
  /-- The power of ten, if one is written. -/
  power : Option Int

/-- Reads digits of which at least one has to be there. -/
def readDigits (cs : List Char) : Except Fault (WithRest (List Char)) :=
  match Numeral.spanDigits cs with
  | ([], []) => .error .endOfText
  | ([], _) => .error .malformed
  | (digits, rest) => .ok (digits, rest)

/-- Reads the digits before the point: a leading zero stands alone. -/
def readWhole (cs : List Char) : Except Fault (WithRest (List Char)) :=
  match cs with
  | '0' :: rest =>
    match rest with
    | c :: _ => if c.isDigit then .error .malformed else .ok (['0'], rest)
    | [] => .ok (['0'], rest)
  | _ => readDigits cs

def readFraction (cs : List Char) : Except Fault (WithRest (Option (List Char))) :=
  match cs with
  | '.' :: rest => (readDigits rest).map fun (digits, rest) => (some digits, rest)
  | _ => .ok (none, cs)

def readPower (cs : List Char) : Except Fault (WithRest (Option Int)) :=
  let signed (rest : List Char) : Except Fault (WithRest (Option Int)) := match rest with
    | '-' :: rest =>
      (readDigits rest).map fun (ds, rest) => (some (-(Numeral.ofDigits ds : Int)), rest)
    | '+' :: rest => (readDigits rest).map fun (ds, rest) => (some (Numeral.ofDigits ds), rest)
    | _ => (readDigits rest).map fun (ds, rest) => (some (Numeral.ofDigits ds), rest)
  match cs with
  | 'e' :: rest => signed rest
  | 'E' :: rest => signed rest
  | _ => .ok (none, cs)

/-- Reads the parts of a numeral, the first character of which is a digit or a minus sign. -/
def readParts (cs : List Char) : Except Fault (WithRest NumeralParts) := do
  let (negative, cs) := match cs with
    | '-' :: rest => (true, rest)
    | _ => (false, cs)
  let (whole, cs) ← readWhole cs
  let (fraction, cs) ← readFraction cs
  let (power, cs) ← readPower cs
  return (⟨negative, whole, fraction, power⟩, cs)

/-- Takes digits on to a number as long as 64 bits hold it, and answers how many are left. -/
def keepDigits (n : Nat) : List Char → Nat × Nat
  | [] => (n, 0)
  | c :: cs =>
    if 10 * n + Numeral.digitValue c < UInt64.size then
      keepDigits (10 * n + Numeral.digitValue c) cs
    else (n, cs.length + 1)

namespace NumeralParts

/-- The digits that fit in 64 bits, with the power of ten that puts them in their places. -/
def kept (p : NumeralParts) : Decimal :=
  let fraction := p.fraction.getD []
  let (whole, dropped) := keepDigits 0 p.whole
  let (digits, unread) := keepDigits whole fraction
  ⟨p.negative, digits, dropped - (fraction.length - unread : Nat) + p.power.getD 0⟩

/-- The numeral is an integer whose digits fit in 64 bits. -/
def isPlain (p : NumeralParts) : Bool :=
  p.fraction.isNone && p.power.isNone && decide (Numeral.ofDigits p.whole < UInt64.size)

/-- The number of a plain integer. It takes the narrowest holder; minus zero, and what is below the
signed integers, is a double. -/
def integer (p : NumeralParts) : Number :=
  let magnitude := Numeral.ofDigits p.whole
  if !p.negative then .ofInt magnitude
  else if magnitude = 0 ∨ Nat.pow 2 63 < magnitude then .double (Double.ofNat magnitude).neg
  else .ofInt (-magnitude)

/-- The number that is read for a numeral, if there is a finite one. -/
def toNumber? (p : NumeralParts) : Option Number :=
  if p.isPlain then some p.integer else p.kept.scaled?.map .double

end NumeralParts

/-- Reads a number; one that comes out beyond every double is not JSON that can be held. -/
def readNumber (cs : List Char) : Except Fault (WithRest Number) := do
  let (parts, cs) ← readParts cs
  match parts.toNumber? with
  | some n => return (n, cs)
  | none => throw .malformed

/-! ## Arrays and objects, piece by piece -/

/-- Finds the start of the next item of an array, or none where the array closes. -/
def nextItem (first : Bool) (cs : List Char) : Except Fault (Option (List Char)) :=
  match skipBlanks cs with
  | [] => .error .endOfText
  | ']' :: _ => .ok none
  | c :: rest =>
    if first then .ok (some (c :: rest))
    else if c ≠ ',' then .error .malformed
    else match skipBlanks rest with
      | [] => .error .endOfText
      | ']' :: _ => .error .malformed
      | rest => .ok (some rest)

/-- Closes an array after a last item; a comma here is malformed whatever follows it. -/
def closeArray (cs : List Char) : Except Fault (List Char) :=
  match skipBlanks cs with
  | [] => .error .endOfText
  | ']' :: rest => .ok rest
  | _ => .error .malformed

/-- Reads the items of an array whose bracket is taken, up to and with the closing one. -/
def readItems {α : Type} (item : List Char → Except Fault (WithRest α)) :
    Nat → Bool → List Char → Except Fault (WithRest (List α))
  | 0, _, _ => .error .malformed
  | fuel + 1, first, cs => do
    match ← nextItem first cs with
    | none => return ([], ← closeArray cs)
    | some cs =>
      let (x, cs) ← item cs
      let (xs, cs) ← readItems item fuel false cs
      return (x :: xs, cs)

/-- Finds the start of the next key of an object, behind its quote, or none, behind the brace, where
the object closes. -/
def nextKey (first : Bool) (cs : List Char) : Except Fault (Option (List Char) × List Char) :=
  match skipBlanks cs with
  | [] => .error .endOfText
  | '}' :: rest => .ok (none, rest)
  | c :: rest =>
    if first then
      if c = '"' then .ok (some rest, []) else .error .malformed
    else if c ≠ ',' then .error .malformed
    else match skipBlanks rest with
      | [] => .error .endOfText
      | '"' :: rest => .ok (some rest, [])
      | _ => .error .malformed

/-- Takes the colon between a key and its value. -/
def readColon (cs : List Char) : Except Fault (List Char) :=
  match skipBlanks cs with
  | [] => .error .endOfText
  | ':' :: rest => .ok rest
  | _ => .error .malformed

/-- Reads the members of an object whose brace is taken, up to and with the closing one, each by
`member` from its key and what follows the key. -/
def readMembers {σ : Type} (member : σ → String → List Char → Except Fault (WithRest σ)) :
    Nat → Bool → σ → List Char → Except Fault (WithRest σ)
  | 0, _, _, _ => .error .malformed
  | fuel + 1, first, state, cs => do
    match ← nextKey first cs with
    | (none, rest) => return (state, rest)
    | (some cs, _) =>
      let (key, cs) ← readString cs
      let (state, cs) ← member state key cs
      readMembers member fuel false state cs

/-! ## Whole values -/

/-- Reads a value. `budget` is what is left for nesting. -/
def readValue : Nat → Nat → List Char → Except Fault (WithRest Json)
  | 0, _, _ => .error .malformed
  | fuel + 1, budget, cs =>
    match skipBlanks cs with
    | [] => .error .endOfText
    | 'n' :: rest => (readWord ['u', 'l', 'l'] rest).map (null, ·)
    | 't' :: rest => (readWord ['r', 'u', 'e'] rest).map (bool true, ·)
    | 'f' :: rest => (readWord ['a', 'l', 's', 'e'] rest).map (bool false, ·)
    | '"' :: rest => (readString rest).map fun (s, rest) => (string s, rest)
    | '[' :: rest =>
      if budget ≤ 1 then .error .malformed
      else (readItems (readValue fuel (budget - 1)) fuel true rest).map fun (items, rest) =>
        (array items, rest)
    | '{' :: rest =>
      if budget ≤ 1 then .error .malformed
      else
        let member (members : List (String × Json)) (key : String) (cs : List Char) := do
          let (value, cs) ← readValue fuel (budget - 1) (← readColon cs)
          return (insertMember key value members, cs)
        (readMembers member fuel true [] rest).map fun (members, rest) => (object members, rest)
    | c :: rest =>
      if c = '-' || c.isDigit then (readNumber (c :: rest)).map fun (n, rest) => (number n, rest)
      else .error .malformed

/-- Passes over digits of which at least one has to be there, in a value that is skipped. -/
def skipDigits (cs : List Char) : Except Fault (List Char) :=
  match Numeral.spanDigits cs with
  | ([], _) => .error .malformed
  | (_, rest) => .ok rest

/-- Passes over a numeral without weighing it. A missing digit is malformed even at the end. -/
def skipNumeral (cs : List Char) : Except Fault (List Char) := do
  let cs := match cs with
    | '-' :: rest => rest
    | _ => cs
  let cs ← match cs with
    | '0' :: c :: rest => if c.isDigit then throw .malformed else pure (c :: rest)
    | _ => skipDigits cs
  let cs ← match cs with
    | '.' :: rest => skipDigits rest
    | _ => pure cs
  match cs with
  | 'e' :: rest => skipPower rest
  | 'E' :: rest => skipPower rest
  | _ => pure cs
where
  /-- Passes over a power of ten, behind its mark. -/
  skipPower : List Char → Except Fault (List Char)
    | '-' :: rest => skipDigits rest
    | '+' :: rest => skipDigits rest
    | rest => skipDigits rest

/-- Passes over a value of any depth, looking at its form only. -/
def skipValue : Nat → List Char → Except Fault (List Char)
  | 0, _ => .error .malformed
  | fuel + 1, cs =>
    match skipBlanks cs with
    | [] => .error .endOfText
    | 'n' :: rest => readWord ['u', 'l', 'l'] rest
    | 't' :: rest => readWord ['r', 'u', 'e'] rest
    | 'f' :: rest => readWord ['a', 'l', 's', 'e'] rest
    | '"' :: rest => (readStringFrom true .plain [] rest).map (·.2)
    | '[' :: rest =>
      (readItems (fun cs => (skipValue fuel cs).map ((), ·)) fuel true rest).map (·.2)
    | '{' :: rest => (readSkippedMembers (skipValue fuel) fuel true rest)
    | c :: rest =>
      if c = '-' || c.isDigit then skipNumeral (c :: rest) else .error .malformed
where
  /-- Passes over the members of an object whose brace is taken. -/
  readSkippedMembers (value : List Char → Except Fault (List Char)) :
      Nat → Bool → List Char → Except Fault (List Char)
    | 0, _, _ => .error .malformed
    | fuel + 1, first, cs => do
      match ← nextKey first cs with
      | (none, rest) => return rest
      | (some cs, _) =>
        let (_, cs) ← readStringFrom true .plain [] cs
        readSkippedMembers value fuel false (← value (← readColon cs))

/-- The fault of a value that is of the wrong shape where it starts: a scalar is read to its end
first, and what is wrong with it comes before its shape. -/
def misfit (cs : List Char) : Fault :=
  let after (r : Except Fault (List Char)) : Fault := match r with
    | .error f => f
    | .ok _ => .shape
  match cs with
  | [] => .endOfText
  | '[' :: _ => .shape
  | '{' :: _ => .shape
  | cs => after ((readValue 1 0 cs).map (·.2))

/-! ## Whole texts -/

/-- Nothing but blanks may follow. -/
def atEnd (cs : List Char) : Bool := (skipBlanks cs).isEmpty

/-- Reads a text that holds one value in the form of `item`. -/
def readText {α : Type} (item : List Char → Except Fault (WithRest α)) (text : String) :
    Except Fault α := do
  let (x, rest) ← item text.toList
  if atEnd rest then return x else throw .malformed

/-- Reads a document nested no deeper than a budget allows. -/
def ofTextWithin (budget : Nat) (text : String) : Except Fault Json :=
  readText (readValue (text.length + 1) budget) text

/-- Reads a document. -/
def ofText (text : String) : Except Fault Json := ofTextWithin nestingBudget text

end RuleFilter.Json
