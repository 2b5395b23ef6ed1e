import RuleFilter.Proofs.Json.Decoding

set_option autoImplicit false

/-! # What can be read can be skipped

The value of an unknown member is passed over by a reader of its own, which looks at the form of a
text only: it puts no string together, weighs no number and has no limit for nesting. So whatever
spells a document is passed over to its end (`skipValue_of_spelled`), also where the document is
nested deeper than reading would allow. -/

namespace RuleFilter.Json

open Numeral

/-! ## Strings -/

/-- Where the reader stands that keeps no characters, and so expects no partner of a surrogate. -/
def StringState.skipped : StringState → StringState
  | plain => plain
  | escape => escape
  | numeric _ missing value => numeric none missing value
  | partnerBackslash _ => plain
  | partnerLetter _ => escape

/-- A character that moves the reader of a string on is passed over as well. -/
theorem StringStep.skip {c : Char} {cs : List Char} {state state' : StringState}
    {read read' : List Char} (h : StringStep false c cs state read state' read')
    (kept : List Char) : ∃ kept', StringStep true c cs state.skipped kept state'.skipped kept' := by
  cases h with
  | plain hquote hbackslash hcontrol => exact ⟨_, .plain hquote hbackslash hcontrol⟩
  | backslash hc => exact ⟨_, .backslash hc⟩
  | letter hc he => exact ⟨_, .letter hc he⟩
  | numeric hc hbytes => exact ⟨_, .numeric hc hbytes⟩
  | digit hd hmissing => exact ⟨_, .digit hd hmissing⟩
  | skipped _ hskipping => exact absurd hskipping Bool.false_ne_true
  -- after its four digits an escape is done with, whatever it stands for
  | high hd => exact ⟨_, .skipped hd rfl⟩
  | whole hd => exact ⟨_, .skipped hd rfl⟩
  | pair hd => exact ⟨_, .skipped hd rfl⟩
  | partnerBackslash hc => exact ⟨_, .backslash hc⟩
  | partnerLetter hc hbytes => exact ⟨_, .numeric hc hbytes⟩

theorem skip_of_readStringFrom {state : StringState} {read cs rest : List Char} {s : String}
    (h : readStringFrom false state read cs = .ok (s, rest)) (kept : List Char) :
    ∃ s', readStringFrom true state.skipped kept cs = .ok (s', rest) := by
  induction cs generalizing state read kept with
  | nil => cases state <;> cases h
  | cons c cs ih =>
      rcases readStringFrom_eq_ok_iff.1 h with ⟨rfl, rfl, -, rfl⟩ | ⟨state', read', hstep, h⟩
      · exact ⟨_, readStringFrom_eq_ok_iff.2 (Or.inl ⟨rfl, rfl, rfl, rfl⟩)⟩
      · obtain ⟨kept', hskip⟩ := hstep.skip kept
        obtain ⟨s', hs'⟩ := ih h kept'
        exact ⟨s', readStringFrom_eq_ok_iff.2 (Or.inr ⟨_, _, hskip, hs'⟩)⟩

/-! ## Numerals -/

/-- Passes over a minus sign, if there is one. -/
def skipSign (cs : List Char) : List Char :=
  match cs with
  | '-' :: rest => rest
  | _ => cs

/-- Passes over the digits before the point. -/
def skipWhole (cs : List Char) : Except Fault (List Char) :=
  match cs with
  | '0' :: c :: rest => if c.isDigit then .error .malformed else .ok (c :: rest)
  | _ => skipDigits cs

/-- Passes over a fraction, if there is a point. -/
def skipFraction (cs : List Char) : Except Fault (List Char) :=
  match cs with
  | '.' :: rest => skipDigits rest
  | _ => .ok cs

/-- Passes over a power of ten, if there is a mark for it. -/
def skipMarkedPower (cs : List Char) : Except Fault (List Char) :=
  match cs with
  | 'e' :: rest => skipNumeral.skipPower rest
  | 'E' :: rest => skipNumeral.skipPower rest
  | _ => .ok cs

/-- A numeral is passed over part by part. -/
theorem skipNumeral_eq (cs : List Char) :
    skipNumeral cs
      = skipWhole (skipSign cs) >>= fun cs => skipFraction cs >>= skipMarkedPower := by
  unfold skipNumeral
  extract_lets unsigned marked fraction
  have hsign : unsigned = skipSign cs := rfl
  have hmarked : marked = skipMarkedPower := rfl
  have hfraction : ∀ cs, fraction cs = skipFraction cs >>= skipMarkedPower := by
    intro cs
    rw [← hmarked]
    cases cs with
    | nil => rfl
    | cons c rest =>
        by_cases hc : c = '.'
        · subst hc
          rfl
        · simp only [fraction, skipFraction]
          simp [hc]
          rfl
  rw [hsign]
  generalize skipSign cs = digits
  simp only [hfraction]
  rcases digits with _ | ⟨d, _ | ⟨c, rest⟩⟩
  · rfl
  · simp [skipWhole]
  · by_cases hd : d = '0'
    · subst hd
      by_cases hc : c.isDigit = true
      · simp [skipWhole, hc]
        rfl
      · simp [skipWhole, hc]
        rfl
    · simp [skipWhole, hd]

theorem skipDigits_of_readDigits {cs digits rest : List Char}
    (h : readDigits cs = .ok (digits, rest)) : skipDigits cs = .ok rest := by
  obtain ⟨rfl, hall, hne, hrest⟩ := readDigits_eq_ok_iff.1 h
  rw [skipDigits, spanDigits_append hall hrest]
  cases digits with
  | nil => exact absurd rfl hne
  | cons c digits => rfl

theorem skipSign_of_signed {negative : Bool} {cs digits : List Char} {c : Char} {rest : List Char}
    (h : Signed negative cs digits) (hdigits : digits = c :: rest) (hc : c.isDigit = true) :
    skipSign cs = digits := by
  cases h with
  | minus => rfl
  | none =>
      subst hdigits
      have hminus : c ≠ '-' := by
        rintro rfl
        exact absurd hc (by decide)
      simp [skipSign, hminus]

theorem skipWhole_of_readWhole {cs digits rest : List Char}
    (h : readWhole cs = .ok (digits, rest)) : skipWhole cs = .ok rest := by
  obtain ⟨rfl, hwhole, hrest⟩ := readWhole_eq_ok_iff.1 h
  rcases hwhole with rfl | ⟨hall, hne, hhead⟩
  · cases rest with
    | nil => rfl
    | cons c rest =>
        have hc : c.isDigit = false := hrest c rfl
        simp [skipWhole, hc]
  · cases digits with
    | nil => exact absurd rfl hne
    | cons c digits =>
        have hc : c ≠ '0' := by simpa using hhead
        have hskip := skipDigits_of_readDigits (readDigits_append hall hne hrest)
        simpa [skipWhole, hc] using hskip

theorem skipFraction_of_readFraction {cs rest : List Char} {fraction : Option (List Char)}
    (h : readFraction cs = .ok (fraction, rest)) : skipFraction cs = .ok rest := by
  cases readFraction_eq_ok_iff.1 h with
  | none hcs =>
      cases cs with
      | nil => rfl
      | cons c cs => simp [skipFraction, hcs c rfl]
  | some hcs hdigits =>
      subst hcs
      exact skipDigits_of_readDigits hdigits

theorem skipMarkedPower_of_readPower {cs rest : List Char} {power : Option Int}
    (h : readPower cs = .ok (power, rest)) : skipMarkedPower cs = .ok rest := by
  cases readPower_eq_ok_iff.1 h with
  | none hcs =>
      cases cs with
      | nil => rfl
      | cons c cs =>
          obtain ⟨he, hE⟩ := hcs c rfl
          simp [skipMarkedPower, he, hE]
  | @some mark signed after digits _ _ hmark hcs hsign hdigits =>
      have hpower : skipNumeral.skipPower signed = .ok rest := by
        have hskip := skipDigits_of_readDigits hdigits
        cases hsign with
        | minus | plus => exact hskip
        | none =>
            obtain ⟨c, after, rfl, hminus, hplus⟩ := exists_cons_of_readDigits hdigits
            simpa [skipNumeral.skipPower, hminus, hplus] using hskip
      subst hcs
      rcases hmark with rfl | rfl <;> exact hpower

/-- A numeral is passed over to its end, whether or not a number is read for it. -/
theorem skipNumeral_of_readParts {cs rest : List Char} {p : NumeralParts}
    (h : readParts cs = .ok (p, rest)) : skipNumeral cs = .ok rest := by
  obtain ⟨cs₁, cs₂, cs₃, hsigned, hwhole, hfraction, hpower⟩ := readParts_eq_ok_iff.1 h
  obtain ⟨c, after, hcs, hc⟩ := exists_cons_of_readWhole hwhole
  rw [skipNumeral_eq, skipSign_of_signed hsigned hcs hc]
  exact Except.bind_eq_ok_iff.2 ⟨cs₂, skipWhole_of_readWhole hwhole, Except.bind_eq_ok_iff.2
    ⟨cs₃, skipFraction_of_readFraction hfraction, skipMarkedPower_of_readPower hpower⟩⟩

/-! ## Values -/

theorem readSkippedMembers_of_spelled {value : List Char → Except Fault (List Char)}
    {size fuel : Nat} {members : List (String × Json)} {first : Bool} {cs rest : List Char}
    (hvalue : ∀ e ∈ members, ∀ colon after, Spelled e.2 colon after →
      colon.length ≤ size + after.length → value colon = .ok after)
    (h : SpelledMembers members first cs rest) (hsize : cs.length ≤ size + rest.length)
    (hfuel : cs.length ≤ fuel + rest.length) :
    skipValue.readSkippedMembers value fuel first cs = .ok rest := by
  obtain ⟨fuel, rfl⟩ : ∃ k, fuel = k + 1 := ⟨fuel - 1, by have := h.length_lt; omega⟩
  induction members generalizing fuel first cs with
  | nil =>
      rw [skipValue.readSkippedMembers, show nextKey first cs = _ from h]
      rfl
  | cons e members ih =>
      obtain ⟨start, passed, behind, colon, after, hnext, hkey, hcolon, hspelled, hmembers⟩ := h
      have hstart := length_lt_of_nextKey hnext
      have hbehind := length_le_of_readString hkey
      have hcolon' := length_le_of_readColon hcolon
      have hafter := hspelled.length_lt
      have hpos := hmembers.length_lt
      obtain ⟨fuel, rfl⟩ : ∃ k, fuel = k + 1 := ⟨fuel - 1, by omega⟩
      obtain ⟨s', hs'⟩ := skip_of_readStringFrom hkey []
      have hhead := hvalue e List.mem_cons_self colon after hspelled (by omega)
      have htail := ih (fun e he => hvalue e (List.mem_cons_of_mem _ he)) hmembers (by omega) fuel
        (by omega)
      rw [skipValue.readSkippedMembers]
      exact Except.bind_eq_ok_iff.2 ⟨_, hnext, Except.bind_eq_ok_iff.2 ⟨_, hs',
        Except.bind_eq_ok_iff.2 ⟨_, hcolon, Except.bind_eq_ok_iff.2 ⟨_, hhead, htail⟩⟩⟩⟩

/-- **Whatever spells a document is passed over**, to where the document ends. -/
theorem skipValue_of_spelled {j : Json} {fuel : Nat} {cs rest : List Char} (h : Spelled j cs rest)
    (hfuel : cs.length ≤ fuel + rest.length) : skipValue fuel cs = .ok rest := by
  induction fuel generalizing j cs rest with
  | zero =>
      have hpos := h.length_lt
      omega
  | succ fuel ih =>
      cases j with
      | null =>
          rw [skipValue, show skipBlanks cs = _ from h]
          rfl
      | bool b =>
          cases b with
          | true | false =>
              rw [skipValue, show skipBlanks cs = _ from h]
              rfl
      | number n =>
          obtain ⟨p, hparts, -⟩ := h
          obtain ⟨c, after, hcs, hc⟩ := exists_cons_of_readParts hparts
          obtain ⟨hn, ht, hf, hquote, hbracket, hbrace⟩ := ne_of_startsNumeral hc
          have hskip := skipNumeral_of_readParts hparts
          rw [hcs] at hskip
          rw [skipValue, hcs]
          simp [hc, hskip]
      | string s =>
          obtain ⟨after, hcs, hread⟩ := h
          obtain ⟨s', hs'⟩ := skip_of_readStringFrom hread []
          rw [skipValue, hcs]
          exact Except.map_eq_ok_iff.2 ⟨_, hs', rfl⟩
      | array items =>
          obtain ⟨after, hcs, hitems⟩ := h
          have hlength := length_lt_of_skipBlanks hcs
          have hread : Decodes
              (readItems (fun cs => (skipValue fuel cs).map ((), ·)) fuel true after)
              (items.mapM fun _ => some ()) rest := by
            refine decodes_readItems fuel (fun j _ cs rest hspelled hsize => ?_) hitems
              (by omega) (by omega)
            exact Except.map_eq_ok_iff.2 ⟨rest, ih hspelled hsize, rfl⟩
          rw [show (fun _ : Json => some ()) = fun _ => pure () from rfl, List.mapM_pure] at hread
          rw [skipValue, hcs]
          exact Except.map_eq_ok_iff.2 ⟨_, hread, rfl⟩
      | object members =>
          obtain ⟨after, hcs, hmembers⟩ := h
          have hlength := length_lt_of_skipBlanks hcs
          rw [skipValue, hcs]
          exact readSkippedMembers_of_spelled (fun _ _ _ _ hspelled hsize => ih hspelled hsize)
            hmembers (by omega) (by omega)

end RuleFilter.Json
