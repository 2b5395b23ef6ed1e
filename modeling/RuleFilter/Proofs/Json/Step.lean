import Mathlib.Tactic.SplitIfs
import RuleFilter.Json.Reader
import RuleFilter.Proofs.Traversal

set_option autoImplicit false

/-! # One step of reading

What a reader did when it succeeded: a loop over items or members stopped, or took one and went on
(`ItemsStep`, `MembersStep`), a string took a character (`StringStep`), and a value was a word, a
string, a number, an array or an object (`ValueStep`). Whatever is said of all successful readings
is proved from these steps by induction, and nothing looks into the readers' loops again. -/

namespace RuleFilter.Json

/-! ## Where items and keys start -/

/-- The array closes, or an item starts, after the first one behind a comma. -/
inductive NextItem (cs : List Char) : Bool → Option (List Char) → Prop
  | closed {first : Bool} {after : List Char} (hcs : skipBlanks cs = ']' :: after) :
      NextItem cs first none
  | first {c : Char} {after : List Char} (hcs : skipBlanks cs = c :: after) (hc : c ≠ ']') :
      NextItem cs true (some (c :: after))
  | later {c : Char} {after behind : List Char} (hcs : skipBlanks cs = ',' :: after)
      (hafter : skipBlanks after = c :: behind) (hc : c ≠ ']') :
      NextItem cs false (some (c :: behind))

theorem nextItem_eq_ok_iff {first : Bool} {cs : List Char} {start : Option (List Char)} :
    nextItem first cs = .ok start ↔ NextItem cs first start := by
  constructor
  · intro h
    unfold nextItem at h
    split at h
    · cases h
    · next hcs =>
        cases h
        exact .closed hcs
    · next c after hbracket hcs =>
        have hc : c ≠ ']' := fun hc => hbracket hc
        cases first with
        | true =>
            cases h
            exact .first hcs hc
        | false =>
            rw [if_neg Bool.false_ne_true] at h
            split_ifs at h with hcomma
            split at h
            · cases h
            · cases h
            · next hempty hclosed =>
                cases h
                obtain rfl : c = ',' := Decidable.not_not.1 hcomma
                cases hafter : skipBlanks after with
                | nil => exact absurd hafter hempty
                | cons c behind => exact .later hcs hafter fun hc => hclosed behind (hc ▸ hafter)
  · intro h
    cases h with
    | closed hcs =>
        rw [nextItem, hcs]
        rfl
    | first hcs hc => simp [nextItem, hcs]
    | later hcs hafter hc => simp [nextItem, hcs, hafter, hc]

/-- The object closes, or a key starts, after the first one behind a comma. -/
inductive NextKey (cs : List Char) : Bool → Option (List Char) × List Char → Prop
  | closed {first : Bool} {rest : List Char} (hcs : skipBlanks cs = '\x7d' :: rest) :
      NextKey cs first (none, rest)
  | first {start : List Char} (hcs : skipBlanks cs = '"' :: start) :
      NextKey cs true (some start, [])
  | later {after start : List Char} (hcs : skipBlanks cs = ',' :: after)
      (hafter : skipBlanks after = '"' :: start) : NextKey cs false (some start, [])

theorem nextKey_eq_ok_iff {first : Bool} {cs : List Char} {next : Option (List Char) × List Char} :
    nextKey first cs = .ok next ↔ NextKey cs first next := by
  constructor
  · intro h
    unfold nextKey at h
    split at h
    · cases h
    · next hcs =>
        cases h
        exact .closed hcs
    · next c after hbrace hcs =>
        cases first with
        | true =>
            rw [if_pos rfl] at h
            split_ifs at h with hc
            cases h
            exact .first (hc ▸ hcs)
        | false =>
            rw [if_neg Bool.false_ne_true] at h
            split_ifs at h with hcomma
            split at h
            · cases h
            · next hafter =>
                cases h
                exact .later (Decidable.not_not.1 hcomma ▸ hcs) hafter
            · cases h
  · intro h
    cases h with
    | closed hcs =>
        rw [nextKey, hcs]
        rfl
    | first hcs => simp [nextKey, hcs]
    | later hcs hafter => simp [nextKey, hcs, hafter]

/-! ## Items and members -/

/-- The items end, or one is taken and the others follow. -/
inductive ItemsStep {α : Type} (item : List Char → Except Fault (WithRest α)) (fuel : Nat)
    (first : Bool) (cs : List Char) : List α → List Char → Prop
  | done {rest : List Char} (hnext : nextItem first cs = .ok none)
      (hclose : closeArray cs = .ok rest) : ItemsStep item fuel first cs [] rest
  | more {start after rest : List Char} {x : α} {xs : List α}
      (hnext : nextItem first cs = .ok (some start)) (hitem : item start = .ok (x, after))
      (hrest : readItems item fuel false after = .ok (xs, rest)) :
      ItemsStep item fuel first cs (x :: xs) rest

theorem readItems_eq_ok_iff {α : Type} {item : List Char → Except Fault (WithRest α)} {fuel : Nat}
    {first : Bool} {cs rest : List Char} {xs : List α} :
    readItems item (fuel + 1) first cs = .ok (xs, rest) ↔ ItemsStep item fuel first cs xs rest := by
  rw [readItems, Except.bind_eq_ok_iff]
  constructor
  · rintro ⟨_ | start, hnext, h⟩
    · obtain ⟨rest, hclose, h⟩ := Except.bind_eq_ok_iff.1 h
      cases h
      exact .done hnext hclose
    · obtain ⟨⟨x, after⟩, hitem, h⟩ := Except.bind_eq_ok_iff.1 h
      obtain ⟨⟨xs, rest⟩, hrest, h⟩ := Except.bind_eq_ok_iff.1 h
      cases h
      exact .more hnext hitem hrest
  · rintro (⟨hnext, hclose⟩ | ⟨hnext, hitem, hrest⟩)
    · exact ⟨none, hnext, Except.bind_eq_ok_iff.2 ⟨_, hclose, rfl⟩⟩
    · exact ⟨some _, hnext, Except.bind_eq_ok_iff.2 ⟨_, hitem,
        Except.bind_eq_ok_iff.2 ⟨_, hrest, rfl⟩⟩⟩

/-- The members end, or one is taken and the others follow. -/
inductive MembersStep {σ : Type} (member : σ → String → List Char → Except Fault (WithRest σ))
    (fuel : Nat) (first : Bool) (state : σ) (cs : List Char) : σ → List Char → Prop
  | done {rest : List Char} (hnext : nextKey first cs = .ok (none, rest)) :
      MembersStep member fuel first state cs state rest
  | more {start passed behind after rest : List Char} {key : String} {next last : σ}
      (hnext : nextKey first cs = .ok (some start, passed))
      (hkey : readString start = .ok (key, behind))
      (hmember : member state key behind = .ok (next, after))
      (hrest : readMembers member fuel false next after = .ok (last, rest)) :
      MembersStep member fuel first state cs last rest

theorem readMembers_eq_ok_iff {σ : Type}
    {member : σ → String → List Char → Except Fault (WithRest σ)} {fuel : Nat} {first : Bool}
    {state last : σ} {cs rest : List Char} :
    readMembers member (fuel + 1) first state cs = .ok (last, rest)
      ↔ MembersStep member fuel first state cs last rest := by
  rw [readMembers, Except.bind_eq_ok_iff]
  constructor
  · rintro ⟨⟨_ | start, passed⟩, hnext, h⟩
    · cases h
      exact .done hnext
    · obtain ⟨⟨key, behind⟩, hkey, h⟩ := Except.bind_eq_ok_iff.1 h
      obtain ⟨⟨next, after⟩, hmember, h⟩ := Except.bind_eq_ok_iff.1 h
      exact .more hnext hkey hmember h
  · rintro (⟨hnext⟩ | ⟨hnext, hkey, hmember, hrest⟩)
    · exact ⟨(none, rest), hnext, rfl⟩
    · exact ⟨(some _, _), hnext, Except.bind_eq_ok_iff.2 ⟨_, hkey,
        Except.bind_eq_ok_iff.2 ⟨_, hmember, hrest⟩⟩⟩

/-! ## Strings -/

/-- One character moves the reader of a string on: from one state to the next, and from the
characters read so far to those after it. -/
inductive StringStep (skipping : Bool) (c : Char) (cs : List Char) :
    StringState → List Char → StringState → List Char → Prop
  | plain {read : List Char} (hquote : c ≠ '"') (hbackslash : c ≠ '\\')
      (hcontrol : ¬ c.toNat < 0x20) : StringStep skipping c cs .plain read .plain (c :: read)
  | backslash {read : List Char} (hc : c = '\\') : StringStep skipping c cs .plain read .escape read
  | letter {read : List Char} {e : Char} (hc : c ≠ 'u') (he : escapedChar? c = some e) :
      StringStep skipping c cs .escape read .plain (e :: read)
  | numeric {read : List Char} (hc : c = 'u') (hbytes : hasFourBytes cs = true) :
      StringStep skipping c cs .escape read (.numeric none 4 0) read
  | digit {read : List Char} {high : Option Nat} {missing value d : Nat} (hd : hexValue? c = some d)
      (hmissing : missing ≠ 1) :
      StringStep skipping c cs (.numeric high missing value) read
        (.numeric high (missing - 1) (16 * value + d)) read
  | skipped {read : List Char} {value d : Nat} (hd : hexValue? c = some d)
      (hskipping : skipping = true) :
      StringStep skipping c cs (.numeric none 1 value) read .plain read
  | high {read : List Char} {value d : Nat} (hd : hexValue? c = some d)
      (hskipping : skipping = false) (hlow : isLowSurrogate (16 * value + d) = false)
      (hhigh : isHighSurrogate (16 * value + d) = true) :
      StringStep skipping c cs (.numeric none 1 value) read
        (.partnerBackslash (16 * value + d)) read
  | whole {read : List Char} {value d : Nat} (hd : hexValue? c = some d)
      (hskipping : skipping = false) (hlow : isLowSurrogate (16 * value + d) = false)
      (hhigh : isHighSurrogate (16 * value + d) = false) :
      StringStep skipping c cs (.numeric none 1 value) read .plain
        (Char.ofNat (16 * value + d) :: read)
  | pair {read : List Char} {high value d : Nat} (hd : hexValue? c = some d)
      (hlow : isLowSurrogate (16 * value + d) = true) :
      StringStep skipping c cs (.numeric (some high) 1 value) read .plain
        (Char.ofNat (0x10000 + (high - 0xD800) * 0x400 + (16 * value + d - 0xDC00)) :: read)
  | partnerBackslash {read : List Char} {high : Nat} (hc : c = '\\') :
      StringStep skipping c cs (.partnerBackslash high) read (.partnerLetter high) read
  | partnerLetter {read : List Char} {high : Nat} (hc : c = 'u') (hbytes : hasFourBytes cs = true) :
      StringStep skipping c cs (.partnerLetter high) read (.numeric (some high) 4 0) read

/-- A string ends at a quote that is not escaped, or goes on by a step. -/
theorem readStringFrom_eq_ok_iff {skipping : Bool} {state : StringState} {read cs rest : List Char}
    {c : Char} {s : String} :
    readStringFrom skipping state read (c :: cs) = .ok (s, rest)
      ↔ (state = .plain ∧ c = '"' ∧ String.ofList read.reverse = s ∧ cs = rest)
        ∨ ∃ state' read', StringStep skipping c cs state read state' read'
          ∧ readStringFrom skipping state' read' cs = .ok (s, rest) := by
  constructor
  · intro h
    cases state with
    | plain =>
        rw [readStringFrom] at h
        split_ifs at h with hquote hbackslash hcontrol
        · cases h
          exact Or.inl ⟨rfl, hquote, rfl, rfl⟩
        · exact Or.inr ⟨_, _, .backslash hbackslash, h⟩
        · exact Or.inr ⟨_, _, .plain hquote hbackslash hcontrol, h⟩
    | escape =>
        rw [readStringFrom] at h
        split_ifs at h with hletter hbytes
        · exact Or.inr ⟨_, _, .numeric hletter hbytes, h⟩
        · split at h
          · next he => exact Or.inr ⟨_, _, .letter hletter he, h⟩
          · cases h
    | numeric high missing value =>
        rw [readStringFrom] at h
        cases hd : hexValue? c with
        | none =>
            rw [hd] at h
            cases h
        | some d =>
            simp only [hd] at h
            by_cases hmissing : missing = 1
            · subst hmissing
              rw [if_neg (fun hne => hne rfl)] at h
              cases high with
              | none =>
                  simp only at h
                  split_ifs at h with hskipping hlow hhigh
                  · exact Or.inr ⟨_, _, .skipped hd hskipping, h⟩
                  · exact Or.inr ⟨_, _, .high hd (Bool.eq_false_iff.2 hskipping)
                      (Bool.eq_false_iff.2 hlow) hhigh, h⟩
                  · exact Or.inr ⟨_, _, .whole hd (Bool.eq_false_iff.2 hskipping)
                      (Bool.eq_false_iff.2 hlow) (Bool.eq_false_iff.2 hhigh), h⟩
              | some high =>
                  simp only at h
                  split_ifs at h with hlow
                  exact Or.inr ⟨_, _, .pair hd hlow, h⟩
            · rw [if_pos hmissing] at h
              exact Or.inr ⟨_, _, .digit hd hmissing, h⟩
    | partnerBackslash high =>
        rw [readStringFrom] at h
        split_ifs at h with hc
        exact Or.inr ⟨_, _, .partnerBackslash hc, h⟩
    | partnerLetter high =>
        rw [readStringFrom] at h
        split_ifs at h with hc hbytes
        exact Or.inr ⟨_, _, .partnerLetter (Decidable.not_not.1 hc) hbytes, h⟩
  · rintro (⟨rfl, rfl, rfl, rfl⟩ | ⟨state', read', hstep, h⟩)
    · rfl
    · cases hstep <;> rw [readStringFrom] <;> simp_all

/-! ## Values -/

/-- The values that are written as words, with their first letters and the others. -/
def words : List (Char × List Char × Json) :=
  [('n', ['u', 'l', 'l'], null), ('t', ['r', 'u', 'e'], bool true),
    ('f', ['a', 'l', 's', 'e'], bool false)]

/-- Reads the value of a member, behind its key, and keeps it among the members. -/
def readMember (fuel budget : Nat) (members : List (String × Json)) (key : String)
    (cs : List Char) : Except Fault (WithRest (List (String × Json))) := do
  let (value, cs) ← readValue fuel budget (← readColon cs)
  return (insertMember key value members, cs)

/-- The value is of one of the kinds, told by the first character. -/
inductive ValueStep (fuel budget : Nat) (cs : List Char) : Json → List Char → Prop
  | word {letter : Char} {letters after rest : List Char} {j : Json}
      (hword : (letter, letters, j) ∈ words) (hcs : skipBlanks cs = letter :: after)
      (hrest : readWord letters after = .ok rest) : ValueStep fuel budget cs j rest
  | string {after rest : List Char} {s : String} (hcs : skipBlanks cs = '"' :: after)
      (hrest : readString after = .ok (s, rest)) : ValueStep fuel budget cs (string s) rest
  | number {c : Char} {after rest : List Char} {n : Number} (hcs : skipBlanks cs = c :: after)
      (hc : c = '-' ∨ c.isDigit = true) (hrest : readNumber (c :: after) = .ok (n, rest)) :
      ValueStep fuel budget cs (number n) rest
  | array {after rest : List Char} {items : List Json} (hbudget : 1 < budget)
      (hcs : skipBlanks cs = '[' :: after)
      (hrest : readItems (readValue fuel (budget - 1)) fuel true after = .ok (items, rest)) :
      ValueStep fuel budget cs (array items) rest
  | object {after rest : List Char} {members : List (String × Json)} (hbudget : 1 < budget)
      (hcs : skipBlanks cs = '\x7b' :: after)
      (hrest : readMembers (readMember fuel (budget - 1)) fuel true [] after
        = .ok (members, rest)) :
      ValueStep fuel budget cs (object members) rest

theorem readMember_eq_ok_iff {fuel budget : Nat} {members next : List (String × Json)}
    {key : String} {cs rest : List Char} :
    readMember fuel budget members key cs = .ok (next, rest)
      ↔ ∃ after value, readColon cs = .ok after ∧ readValue fuel budget after = .ok (value, rest)
          ∧ insertMember key value members = next := by
  simp only [readMember, Except.bind_eq_ok_iff]
  constructor
  · rintro ⟨after, hcolon, ⟨value, rest⟩, hvalue, h⟩
    cases h
    exact ⟨after, value, hcolon, hvalue, rfl⟩
  · rintro ⟨after, value, hcolon, hvalue, rfl⟩
    exact ⟨after, hcolon, (value, rest), hvalue, rfl⟩

/-- No word, quote or bracket starts as a numeral does. -/
theorem ne_of_startsNumeral {c : Char} (hc : c = '-' ∨ c.isDigit = true) :
    c ≠ 'n' ∧ c ≠ 't' ∧ c ≠ 'f' ∧ c ≠ '"' ∧ c ≠ '[' ∧ c ≠ '\x7b' := by
  refine ⟨?_, ?_, ?_, ?_, ?_, ?_⟩ <;> (rintro rfl; revert hc; decide)

theorem readValue_of_startsNumeral (fuel budget : Nat) {cs after : List Char} {c : Char}
    (hcs : skipBlanks cs = c :: after) (hc : c = '-' ∨ c.isDigit = true) :
    readValue (fuel + 1) budget cs
      = (readNumber (c :: after)).map fun (n, rest) => (number n, rest) := by
  obtain ⟨hn, ht, hf, hquote, hbracket, hbrace⟩ := ne_of_startsNumeral hc
  rw [readValue, hcs]
  simp [hc]

theorem readValue_eq_ok_iff {fuel budget : Nat} {cs rest : List Char} {j : Json} :
    readValue (fuel + 1) budget cs = .ok (j, rest) ↔ ValueStep fuel budget cs j rest := by
  constructor
  · intro h
    rw [readValue] at h
    split at h
    · cases h
    case h_2 after hcs | h_3 after hcs | h_4 after hcs =>
      obtain ⟨rest, hrest, h⟩ := Except.map_eq_ok_iff.1 h
      cases h
      exact .word (by simp [words]) hcs hrest
    case h_5 after hcs =>
      obtain ⟨⟨s, rest⟩, hrest, h⟩ := Except.map_eq_ok_iff.1 h
      cases h
      exact .string hcs hrest
    case h_6 after hcs =>
      split at h
      · cases h
      · next hbudget =>
          obtain ⟨⟨items, rest⟩, hrest, h⟩ := Except.map_eq_ok_iff.1 h
          cases h
          exact .array (Nat.not_le.1 hbudget) hcs hrest
    case h_7 after hcs =>
      split at h
      · cases h
      · next hbudget =>
          obtain ⟨⟨members, rest⟩, hrest, h⟩ := Except.map_eq_ok_iff.1 h
          cases h
          exact .object (Nat.not_le.1 hbudget) hcs hrest
    case h_8 c after _ _ _ _ _ _ hcs =>
      split at h
      · next hc =>
          obtain ⟨⟨n, rest⟩, hrest, h⟩ := Except.map_eq_ok_iff.1 h
          cases h
          exact .number hcs (by simpa using hc) hrest
      · cases h
  · intro h
    cases h with
    | word hword hcs hrest =>
        simp only [words, List.mem_cons, Prod.mk.injEq, List.not_mem_nil, or_false] at hword
        rcases hword with ⟨rfl, rfl, rfl⟩ | ⟨rfl, rfl, rfl⟩ | ⟨rfl, rfl, rfl⟩ <;>
          (rw [readValue, hcs]; simp only [hrest, Except.map])
    | string hcs hrest =>
        rw [readValue, hcs]
        simp only [hrest, Except.map]
    | number hcs hc hrest =>
        rw [readValue_of_startsNumeral fuel budget hcs hc, hrest]
        rfl
    | array hbudget hcs hrest =>
        rw [readValue, hcs]
        simp only [if_neg (Nat.not_le.2 hbudget), hrest, Except.map]
    | object hbudget hcs hrest =>
        rw [readValue, hcs]
        exact (if_neg (Nat.not_le.2 hbudget)).trans (congrArg (Except.map _) hrest)

/-! ## Texts -/

theorem readText_eq_ok_iff {α : Type} {item : List Char → Except Fault (WithRest α)}
    {text : String} {x : α} :
    readText item text = .ok x ↔ ∃ rest, item text.toList = .ok (x, rest) ∧ atEnd rest = true := by
  rw [readText, Except.bind_eq_ok_iff]
  constructor
  · rintro ⟨⟨x, rest⟩, hitem, h⟩
    simp only at h
    split at h
    · next hend =>
        cases h
        exact ⟨rest, hitem, hend⟩
    · cases h
  · rintro ⟨rest, hitem, hend⟩
    exact ⟨(x, rest), hitem, if_pos hend⟩

end RuleFilter.Json
