import RuleFilter.Pattern.Tree
import RuleFilter.Text.CharSet
import RuleFilter.Unicode.Additions

set_option autoImplicit false

/-! # Reading patterns

Readers take the characters that are left and answer what they found with the characters after it,
or nothing if the text is no pattern. In verbose mode blanks and comments between the parts of a
pattern mean nothing; the mode is set by a flag and holds to the end of the group that sets it.

A sequence is read item by item, with the items and the finished branches so far held in reverse.
Recursion takes a fuel, for which the length of the text is enough, since every turn takes a
character. -/

namespace RuleFilter.Pattern

/-! ## Blanks -/

def isWhite (c : Char) : Bool := CharSet.space.contains c

/-- Drops blanks and comments; a comment runs to the end of its line. -/
def dropComments : Bool → List Char → List Char
  | _, [] => []
  | true, c :: cs => dropComments (c ≠ '\n') cs
  | false, c :: cs =>
    if isWhite c then dropComments false cs
    else if c = '#' then dropComments true cs
    else c :: cs

/-- Drops what means nothing in the mode. -/
def trim (verbose : Bool) (cs : List Char) : List Char :=
  if verbose then dropComments false cs else cs

/-- The next character that counts, looking past blanks and the sign of a comment. -/
def peekPast (verbose : Bool) (cs : List Char) : Option Char :=
  if verbose then look false cs else cs.head?
where
  /-- Looks on from inside or outside a comment; where nothing counts, the first character does. -/
  look : Bool → List Char → Option Char
    | _, [] => cs.head?
    | inComment, c :: rest =>
      if isWhite c then look inComment rest
      else if !inComment && c = '#' then look true rest
      else some c

/-! ## Escapes -/

/-- A part that is written as one character or one escape. -/
inductive Primitive where
  | letter (l : Letter)
  | anchor (a : Anchor)
  | named (kind : NamedClass)

/-- The character with a code, unless the code is a surrogate or out of range. -/
def charOf? (code : Nat) : Option Char :=
  if h : code.isValidChar then some (Char.ofNatAux code h) else none

def hexDigit? (c : Char) : Option Nat :=
  if c.isDigit then some (c.toNat - '0'.toNat)
  else if 'a' ≤ c ∧ c ≤ 'f' then some (c.toNat - 'a'.toNat + 10)
  else if 'A' ≤ c ∧ c ≤ 'F' then some (c.toNat - 'A'.toNat + 10)
  else none

/-- Reads a fixed number of hexadecimal digits. -/
def readHexDigits (verbose : Bool) : Nat → Nat → List Char → Option (Nat × List Char)
  | 0, code, cs => some (code, cs)
  | _ + 1, _, [] => none
  | missing + 1, code, c :: cs => do
    readHexDigits verbose missing (16 * code + (← hexDigit? c)) (trim verbose cs)

/-- Reads characters up to a closing brace, which it takes. -/
def readBraced (verbose : Bool) : Nat → List Char → Option (List Char × List Char)
  | 0, _ => none
  | fuel + 1, cs =>
    match trim verbose cs with
    | [] => none
    | '\x7d' :: rest => some ([], rest)
    | c :: rest => (readBraced verbose fuel rest).map fun (body, rest) => (c :: body, rest)

/-- Reads a character given by its code, behind the letter that says how many digits it has. -/
def readCode (verbose : Bool) (digits : Nat) (cs : List Char) : Option (Letter × List Char) := do
  match trim verbose cs with
  | '\x7b' :: rest =>
    let (body, rest) ← readBraced verbose (rest.length + 1) rest
    let values ← body.mapM hexDigit?
    if values.isEmpty then none
    else return (⟨← charOf? (values.foldl (16 * · + ·) 0), false⟩, trim verbose rest)
  | cs =>
    let (code, rest) ← readHexDigits verbose digits 0 cs
    return (⟨← charOf? code, digits = 2⟩, rest)

/-- Cuts a text at the first place where a mark stands. -/
def cutAt (mark : List Char) : List Char → Option (List Char × List Char)
  | [] => none
  | c :: cs =>
    if mark.isPrefixOf (c :: cs) then some ([], (c :: cs).drop mark.length)
    else (cutAt mark cs).map fun (before, after) => (c :: before, after)

/-- What a name between braces asks for; `!=` asks for the opposite. -/
def queryOf (body : List Char) (negated : Bool) : NamedClass :=
  let valued (name value : List Char) (negated : Bool) :=
    NamedClass.property (.valued (String.ofList name) (String.ofList value)) negated
  match cutAt ['!', '='] body with
  | some (name, value) => valued name value (!negated)
  | none =>
    match cutAt [':'] body with
    | some (name, value) => valued name value negated
    | none =>
      match cutAt ['='] body with
      | some (name, value) => valued name value negated
      | none => .property (.named (String.ofList body)) negated

/-- Reads the name of a property, behind its letter. -/
def readProperty (verbose negated : Bool) (cs : List Char) : Option (NamedClass × List Char) := do
  match trim verbose cs with
  | [] => none
  | '\\' :: _ => none
  | '\x7b' :: rest =>
    let (body, rest) ← readBraced verbose (rest.length + 1) rest
    return (queryOf body negated, rest)
  | c :: rest => return (.property (.named (String.singleton c)) negated, trim verbose rest)

/-- Characters that have a meaning of their own somewhere in a pattern. -/
def isMeta (c : Char) : Bool :=
  ['\\', '.', '+', '*', '?', '(', ')', '|', '[', ']', '\x7b', '\x7d', '^', '$', '#', '&', '-',
    '~'].contains c

/-- Characters that stand for themselves behind a backslash. -/
def isEscapable (c : Char) : Bool :=
  isMeta c || (c.toNat ≤ 0x7F && !c.isAlphanum && c ≠ '<' && c ≠ '>')

/-- The special anchors written as a name in braces behind the mark of a word boundary. -/
def boundaryNamed? (name : List Char) : Option Anchor :=
  match String.ofList name with
  | "start" => some .wordStart
  | "end" => some .wordEnd
  | "start-half" => some .wordStartHalf
  | "end-half" => some .wordEndHalf
  | _ => none

/-- Reads what may follow the mark of a word boundary: a brace with a name makes it a special one,
and a brace with anything else is left for a counted repetition. -/
def readBoundary (verbose : Bool) (cs : List Char) : Option (Anchor × List Char) :=
  let isNameChar (c : Char) : Bool := c.isAlpha || c = '-'
  match cs with
  | '\x7b' :: rest =>
    match trim verbose rest with
    | [] => none
    | c :: rest =>
      if isNameChar c then do
        let (body, rest) ← readBraced verbose (rest.length + 2) (c :: rest)
        return (← boundaryNamed? body, rest)
      else some (.wordBoundary, cs)
  | _ => some (.wordBoundary, cs)

/-- Reads an escape, behind its backslash. -/
def readEscape (verbose : Bool) (cs : List Char) : Option (Primitive × List Char) :=
  let letter (c : Char) (rest : List Char) := some (Primitive.letter ⟨c, false⟩, rest)
  let anchor (a : Anchor) (rest : List Char) := some (Primitive.anchor a, rest)
  let short (kind : ShortClass) (negated : Bool) (rest : List Char) :=
    some (Primitive.named (.short kind negated), rest)
  match cs with
  | [] => none
  | c :: rest =>
    if isEscapable c then letter c rest
    else match c with
      | 'x' => (readCode verbose 2 rest).map fun (l, rest) => (.letter l, rest)
      | 'u' => (readCode verbose 4 rest).map fun (l, rest) => (.letter l, rest)
      | 'U' => (readCode verbose 8 rest).map fun (l, rest) => (.letter l, rest)
      | 'p' => (readProperty verbose false rest).map fun (k, rest) => (.named k, rest)
      | 'P' => (readProperty verbose true rest).map fun (k, rest) => (.named k, rest)
      | 'd' => short .digit false rest
      | 'D' => short .digit true rest
      | 's' => short .space false rest
      | 'S' => short .space true rest
      | 'w' => short .word false rest
      | 'W' => short .word true rest
      | 'a' => letter '\x07' rest
      | 'f' => letter '\x0c' rest
      | 't' => letter '\t' rest
      | 'n' => letter '\n' rest
      | 'r' => letter '\r' rest
      | 'v' => letter '\x0b' rest
      | 'A' => anchor .textStart rest
      | 'z' => anchor .textEnd rest
      | 'b' => (readBoundary verbose rest).map fun (a, rest) => (.anchor a, rest)
      | 'B' => anchor .notWordBoundary rest
      | '<' => anchor .wordStart rest
      | '>' => anchor .wordEnd rest
      | _ => none

/-! ## Brackets -/

def AsciiClass.ofName? : String → Option AsciiClass
  | "alnum" => some .alnum
  | "alpha" => some .alpha
  | "ascii" => some .ascii
  | "blank" => some .blank
  | "cntrl" => some .cntrl
  | "digit" => some .digit
  | "graph" => some .graph
  | "lower" => some .lower
  | "print" => some .print
  | "punct" => some .punct
  | "space" => some .space
  | "upper" => some .upper
  | "word" => some .word
  | "xdigit" => some .xdigit
  | _ => none

/-- Reads a named ASCII class such as `[:alpha:]`, behind its bracket. Text of another form is no
error: it is a bracket of its own. -/
def readAsciiClass? (cs : List Char) : Option (SetTree × List Char) :=
  let body (negated : Bool) (cs : List Char) := do
    match cs.span (· ≠ ':') with
    | (name, ':' :: ']' :: rest) =>
      return (SetTree.ascii (← AsciiClass.ofName? (String.ofList name)) negated, rest)
    | _ => none
  match cs with
  | ':' :: '^' :: rest => body true rest
  | ':' :: rest => body false rest
  | _ => none

/-- Reads one character or escape between brackets. -/
def readSetPrimitive (verbose : Bool) : List Char → Option (Primitive × List Char)
  | [] => none
  | '\\' :: rest => readEscape verbose rest
  | c :: rest => some (.letter ⟨c, false⟩, rest)

/-- An anchor is no member of a set. -/
def Primitive.toSet? : Primitive → Option SetTree
  | letter l => some (.letter l)
  | named kind => some (.named kind)
  | anchor _ => none

/-- Reads a member of a set: a character, an escape, or a range of characters. A dash before the
closing bracket or another dash makes no range. -/
def readSetMember (verbose : Bool) (cs : List Char) : Option (SetTree × List Char) := do
  let (first, cs) ← readSetPrimitive verbose cs
  match trim verbose cs with
  | [] => none
  | '-' :: rest =>
    let after := peekPast verbose rest
    if after = some ']' || after = some '-' then return (← first.toSet?, '-' :: rest)
    else
      let (last, cs) ← readSetPrimitive verbose (trim verbose rest)
      match first, last with
      | .letter a, .letter b => if a.char ≤ b.char then return (.range a b, cs) else none
      | _, _ => none
  | cs => return (← first.toSet?, cs)

/-- Takes the dashes that open a set, which stand for themselves. -/
def readDashes (verbose : Bool) : Nat → List Char → List SetTree × List Char
  | 0, cs => ([], cs)
  | fuel + 1, cs =>
    match trim verbose cs with
    | '-' :: rest =>
      let (dashes, rest) := readDashes verbose fuel rest
      (.letter ⟨'-', false⟩ :: dashes, rest)
    | cs => ([], cs)

/-- Reads what opens a set, behind its bracket: whether it is negated, and members that would mean
something else further on. -/
def readSetOpening (verbose : Bool) (cs : List Char) : Bool × List SetTree × List Char :=
  let (negated, cs) := match trim verbose cs with
    | '^' :: rest => (true, trim verbose rest)
    | cs => (false, cs)
  let (dashes, cs) := readDashes verbose cs.length cs
  match dashes, cs with
  | [], ']' :: rest => (negated, [.letter ⟨']', false⟩], trim verbose rest)
  | dashes, cs => (negated, dashes, cs)

/-- Joins the left side of a pending operation with its right side. -/
def joinPending : Option (SetTree × SetOperation) → SetTree → SetTree
  | none, right => right
  | some (left, operation), right => .binary operation left right

/-- Reads the members of a set up to its closing bracket, which it takes. -/
def readSet (verbose : Bool) :
    Nat → Option (SetTree × SetOperation) → List SetTree → List Char → Option (SetTree × List Char)
  | 0, _, _, _ => none
  | fuel + 1, pending, items, cs =>
    let joined := joinPending pending (.ofItems items.reverse)
    let operate (operation : SetOperation) (rest : List Char) :=
      readSet verbose fuel (some (joined, operation)) [] rest
    match trim verbose cs with
    | [] => none
    | ']' :: rest => some (joined, rest)
    | '&' :: '&' :: rest => operate .intersection rest
    | '-' :: '-' :: rest => operate .difference rest
    | '~' :: '~' :: rest => operate .symmetricDifference rest
    | '[' :: rest =>
      match readAsciiClass? rest with
      | some (item, rest) => readSet verbose fuel pending (item :: items) rest
      | none => do
        let (negated, opening, rest) := readSetOpening verbose rest
        let (inner, rest) ← readSet verbose fuel none opening.reverse rest
        readSet verbose fuel pending (.bracket negated inner :: items) rest
    | cs => do
      let (item, cs) ← readSetMember verbose cs
      readSet verbose fuel pending (item :: items) cs

/-- Reads a set, behind its bracket. -/
def readBracket (verbose : Bool) (cs : List Char) : Option (Tree × List Char) := do
  let (negated, opening, rest) := readSetOpening verbose cs
  let (inner, rest) ← readSet verbose (cs.length + 1) none opening.reverse rest
  return (.bracket negated inner, rest)

/-! ## Repetitions -/

/-- The largest count of a repetition. -/
def countLimit : Nat := UInt32.size

/-- Reads a count: digits with blanks around them. The count is missing where there are no digits,
or too many. -/
def readCount (verbose : Bool) (cs : List Char) : Option Nat × List Char :=
  let (digits, cs) := digitsFrom cs.length (cs.dropWhile isWhite)
  let count := digits.foldl (fun n c => 10 * n + (c.toNat - '0'.toNat)) 0
  (if digits.isEmpty || countLimit ≤ count then none else some count, whites cs.length cs)
where
  /-- Takes digits, and drops what means nothing behind each. -/
  digitsFrom : Nat → List Char → List Char × List Char
    | 0, cs => ([], cs)
    | _ + 1, [] => ([], [])
    | fuel + 1, c :: cs =>
      if c.isDigit then
        let (digits, rest) := digitsFrom fuel (trim verbose cs)
        (c :: digits, rest)
      else ([], c :: cs)
  /-- Drops blanks, and what means nothing behind each. -/
  whites : Nat → List Char → List Char
    | 0, cs => cs
    | _ + 1, [] => []
    | fuel + 1, c :: cs => if isWhite c then whites fuel (trim verbose cs) else c :: cs

/-- Reads the bounds of a counted repetition, behind its opening brace. -/
def readBounds (verbose : Bool) (cs : List Char) : Option ((Nat × Option Nat) × List Char) := do
  match trim verbose cs with
  | [] => none
  | cs =>
    let (least, cs) := readCount verbose cs
    let (bounds, cs) ← match cs with
      | ',' :: rest =>
        match trim verbose rest with
        | '\x7d' :: rest => pure ((← least, none), '\x7d' :: rest)
        | rest =>
          let (most, rest) := readCount verbose rest
          pure ((← least, some (← most)), rest)
      | cs => pure ((← least, some (← least)), cs)
    match cs with
    | '\x7d' :: rest =>
      if bounds.2.all (bounds.1 ≤ ·) then return (bounds, trim verbose rest) else none
    | _ => none

/-- Puts a repetition around the last item; there has to be one, and a flag is none. -/
def repeatLast (items : List Tree) (least : Nat) (most : Option Nat) (greedy : Bool) :
    Option (List Tree) :=
  match items with
  | [] => none
  | .flags _ :: _ => none
  | item :: items => some (.repetition item least most greedy :: items)

/-- Reads the mark that makes a repetition prefer fewer turns. -/
def readGreed : List Char → Bool × List Char
  | '?' :: rest => (false, rest)
  | cs => (true, cs)

/-! ## Groups -/

/-- What stands between the opening of a group and its inside. -/
inductive GroupHead where
  | flags (settings : List FlagSetting)
  | capture (name : Option String)
  | scope (settings : List FlagSetting)

def Flag.ofChar? : Char → Option Flag
  | 'i' => some .ignoreCase
  | 'm' => some .multiLine
  | 's' => some .dotNewLine
  | 'U' => some .swapGreed
  | 'u' => some .unicode
  | 'R' => some .carriageReturn
  | 'x' => some .verbose
  | _ => none

/-- Reads flags; those behind a minus sign are turned off. No flag and no sign may be repeated, and
a sign needs a flag behind it. -/
def readFlags (on : Bool) (seen : List FlagSetting) : List Char → Option (List FlagSetting)
  | [] => some seen.reverse
  | '-' :: cs => if on && !cs.isEmpty then readFlags false seen cs else none
  | c :: cs => do
    let flag ← Flag.ofChar? c
    if seen.any (·.flag = flag) then none else readFlags on (⟨flag, on⟩ :: seen) cs

/-- The letters a group's name may have. -/
def nameLetters : CharSet :=
  CharSet.alphabetic.union (.ofRanges (Unicode.addedLetters ++ Unicode.addedVowelMarks))

/-- The numbers of any kind a group's name may have. -/
def nameNumbers : CharSet :=
  .ofRanges (Unicode.ofCategories ["Nd", "Nl", "No"] ++ Unicode.additionsOf ["Nd", "Nl", "No"])

/-- The characters a group's name may have, at its start and further on. -/
def isNameStart (c : Char) : Bool := c = '_' || nameLetters.contains c

def isNameChar (c : Char) : Bool :=
  c = '_' || c = '.' || c = '[' || c = ']' || nameLetters.contains c || nameNumbers.contains c

/-- Reads the name of a group up to the angle that closes it. -/
def readName (cs : List Char) : Option (GroupHead × List Char) :=
  match cs.span (· ≠ '>') with
  | (first :: name, '>' :: rest) =>
    if isNameStart first && name.all isNameChar then
      some (.capture (some (String.ofList (first :: name))), rest)
    else none
  | _ => none

/-- Reads the head of a group, behind its parenthesis. Conditions on what surrounds a match are not
part of patterns. -/
def readGroupHead (verbose : Bool) (cs : List Char) : Option (GroupHead × List Char) :=
  match trim verbose cs with
  | '?' :: '=' :: _ => none
  | '?' :: '!' :: _ => none
  | '?' :: '<' :: '=' :: _ => none
  | '?' :: '<' :: '!' :: _ => none
  | '?' :: 'P' :: '<' :: rest => readName rest
  | '?' :: '<' :: rest => readName rest
  | '?' :: rest => do
    match rest.span (fun c => c ≠ ':' && c ≠ ')') with
    | ([], ')' :: _) => none
    | (body, ')' :: rest) => return (.flags (← readFlags true [] body), rest)
    | (body, ':' :: rest) => return (.scope (← readFlags true [] body), rest)
    | _ => none
  | rest => some (.capture none, rest)

/-- The mode after settings. -/
def verboseAfter (settings : List FlagSetting) (verbose : Bool) : Bool :=
  ((settings.find? (·.flag = .verbose)).map (·.on)).getD verbose

/-! ## Sequences -/

/-- Reads the branches of a pattern, or of a group if `nested`, up to the end or the parenthesis
that closes the group. `names` are the names of groups so far, no two of which may be equal. -/
def readBranches : Nat → (verbose nested : Bool) → (names : List String) →
    (branches items : List Tree) → List Char → Option (Tree × List String × List Char)
  | 0, _, _, _, _, _, _ => none
  | fuel + 1, verbose, nested, names, branches, items, cs =>
    let finished := Tree.ofBranches (Tree.ofItems items.reverse :: branches).reverse
    let next (item : Tree) (rest : List Char) :=
      readBranches fuel verbose nested names branches (item :: items) rest
    let repeated (least : Nat) (most : Option Nat) (rest : List Char) := do
      let (greedy, rest) := readGreed rest
      readBranches fuel verbose nested names branches (← repeatLast items least most greedy) rest
    match trim verbose cs with
    | [] => if nested then none else some (finished, names, [])
    | ')' :: rest => if nested then some (finished, names, rest) else none
    | '|' :: rest =>
      readBranches fuel verbose nested names (Tree.ofItems items.reverse :: branches) [] rest
    | '(' :: rest => do
      let (head, rest) ← readGroupHead verbose rest
      match head with
      | .flags settings =>
        readBranches fuel (verboseAfter settings verbose) nested names branches
          (.flags settings :: items) rest
      | .scope settings =>
        let (inner, names, rest) ←
          readBranches fuel (verboseAfter settings verbose) true names [] [] rest
        readBranches fuel verbose nested names branches (.scope settings inner :: items) rest
      | .capture name =>
        let names ← match name with
          | none => pure names
          | some name => if names.contains name then none else pure (name :: names)
        let (inner, names, rest) ← readBranches fuel verbose true names [] [] rest
        readBranches fuel verbose nested names branches (.capture inner :: items) rest
    | '[' :: rest => do
      let (item, rest) ← readBracket verbose rest
      next item rest
    | '?' :: rest => repeated 0 (some 1) rest
    | '*' :: rest => repeated 0 none rest
    | '+' :: rest => repeated 1 none rest
    | '\x7b' :: rest => do
      let ((least, most), rest) ← readBounds verbose rest
      repeated least most rest
    | '\\' :: rest => do
      let (primitive, rest) ← readEscape verbose rest
      next (match primitive with
        | .letter l => .letter l
        | .anchor a => .anchor a
        | .named kind => .named kind) rest
    | '.' :: rest => next .dot rest
    | '^' :: rest => next (.anchor .lineStart) rest
    | '$' :: rest => next (.anchor .lineEnd) rest
    | c :: rest => next (.letter ⟨c, false⟩) rest

/-- Patterns may not be nested deeper than this. -/
def nestLimit : Nat := 250

/-- Reads a pattern. -/
def Tree.ofText? (text : String) : Option Tree := do
  let (tree, _, _) ← readBranches (text.length + 1) false false [] [] [] text.toList
  if tree.depth ≤ nestLimit then return tree else none

end RuleFilter.Pattern
