import RuleFilter.Json.Reader
import RuleFilter.Proofs.Double.Numeral
import RuleFilter.Proofs.Traversal

set_option autoImplicit false

/-! # Numerals are read back

A numeral is written from its parts (`NumeralParts.chars`), and the reader finds the parts again
whatever ends the value behind them (`readParts_chars`). -/

namespace RuleFilter.Json

open Numeral

/-! ## What stands behind a value -/

/-- Nothing is left, or a character that no value goes on with. -/
def EndsValue (rest : List Char) : Prop := ∀ c ∈ rest.head?, c = ',' ∨ c = ']' ∨ c = '\x7d'

theorem endsValue_nil : EndsValue [] := by simp [EndsValue]

theorem endsValue_comma (cs : List Char) : EndsValue (',' :: cs) := by simp [EndsValue]

theorem endsValue_brace (cs : List Char) : EndsValue ('\x7d' :: cs) := by simp [EndsValue]

theorem EndsValue.ne {rest : List Char} (h : EndsValue rest) {c : Char} {cs : List Char}
    (hrest : rest = c :: cs) : c.isDigit = false ∧ c ≠ '.' ∧ c ≠ 'e' ∧ c ≠ 'E' := by
  have hc := h c (by rw [hrest]; rfl)
  rcases hc with rfl | rfl | rfl <;> decide

theorem EndsValue.noDigitNext {rest : List Char} (h : EndsValue rest) : NoDigitNext rest := by
  intro c hc
  obtain ⟨cs, hcs⟩ := List.head?_eq_some_iff.1 hc
  exact (h.ne hcs).1

/-! ## Rows of digits and the parts of a numeral -/

theorem exists_cons_of_allDigits {digits : List Char} (hall : AllDigits digits) (hne : digits ≠ [])
    (rest : List Char) : ∃ c after, digits ++ rest = c :: after ∧ c.isDigit = true := by
  obtain ⟨c, digits, rfl⟩ := List.exists_cons_of_ne_nil hne
  exact ⟨c, digits ++ rest, rfl, hall c List.mem_cons_self⟩

theorem readDigits_append {cs rest : List Char} (hcs : AllDigits cs) (hne : cs ≠ [])
    (hrest : NoDigitNext rest) : readDigits (cs ++ rest) = .ok (cs, rest) := by
  rw [readDigits, spanDigits_append hcs hrest]
  cases cs with
  | nil => exact absurd rfl hne
  | cons c cs => rfl

/-- Digits are read where a row of them stands and ends. -/
theorem readDigits_eq_ok_iff {cs digits rest : List Char} :
    readDigits cs = .ok (digits, rest)
      ↔ cs = digits ++ rest ∧ AllDigits digits ∧ digits ≠ [] ∧ NoDigitNext rest := by
  constructor
  · intro h
    have hspan := spanDigits_spec cs
    rw [readDigits] at h
    split at h
    · cases h
    · cases h
    · next digits' rest' hne hcs =>
        cases h
        rw [hcs] at hspan
        refine ⟨hspan.1, hspan.2.1, ?_, hspan.2.2⟩
        rintro rfl
        exact hne rfl
  · rintro ⟨rfl, hall, hne, hrest⟩
    exact readDigits_append hall hne hrest

/-- A row of digits that does not start with a zero. -/
structure IsSignificant (cs : List Char) : Prop where
  allDigits : AllDigits cs
  ne_nil : cs ≠ []
  head?_ne : cs.head? ≠ some '0'

/-- The digits before the point: a zero alone, or a row that does not start with one. -/
def IsWhole (cs : List Char) : Prop := cs = ['0'] ∨ IsSignificant cs

theorem isWhole_digitsOf (n : Nat) : IsWhole (digitsOf n) := by
  by_cases hn : n = 0
  · subst hn
    exact Or.inl (Nat.toDigits_zero 10)
  · exact Or.inr ⟨allDigits_digitsOf n, digitsOf_ne_nil n, head?_digitsOf hn⟩

theorem IsWhole.allDigits {cs : List Char} (h : IsWhole cs) : AllDigits cs := by
  rcases h with rfl | h
  · exact allDigits_replicate_zero 1
  · exact h.allDigits

theorem IsWhole.ne_nil {cs : List Char} (h : IsWhole cs) : cs ≠ [] := by
  rcases h with rfl | h
  · simp
  · exact h.ne_nil

/-- A text that starts with the digits before the point starts with a digit. -/
theorem IsWhole.isDigit_of_eq_append {digits cs rest : List Char} {c : Char} (h : IsWhole digits)
    (hcs : c :: cs = digits ++ rest) : c.isDigit = true := by
  obtain ⟨c', digits', rfl⟩ := List.exists_cons_of_ne_nil h.ne_nil
  cases hcs
  exact h.allDigits c List.mem_cons_self

theorem readWhole_append {cs rest : List Char} (hcs : IsWhole cs) (hrest : NoDigitNext rest) :
    readWhole (cs ++ rest) = .ok (cs, rest) := by
  rcases hcs with rfl | ⟨hdigits, hne, hhead⟩
  · cases rest with
    | nil => rfl
    | cons c rest =>
        have hc : c.isDigit = false := hrest c rfl
        simp [readWhole, hc]
  · cases cs with
    | nil => exact absurd rfl hne
    | cons c cs =>
        have hc : c ≠ '0' := by simpa using hhead
        rw [← readDigits_append hdigits hne hrest]
        simp [readWhole, hc]

/-- The digits before the point are read where they stand and end. -/
theorem readWhole_eq_ok_iff {cs digits rest : List Char} :
    readWhole cs = .ok (digits, rest)
      ↔ cs = digits ++ rest ∧ IsWhole digits ∧ NoDigitNext rest := by
  constructor
  · intro h
    unfold readWhole at h
    split at h
    · -- a zero stands alone
      split at h
      · next c after =>
          split at h
          · cases h
          · next hc =>
              cases h
              refine ⟨rfl, Or.inl rfl, ?_⟩
              rintro c' ⟨⟩
              exact Bool.eq_false_iff.2 hc
      · cases h
        exact ⟨rfl, Or.inl rfl, fun c hc => nomatch hc⟩
    · next hzero =>
        obtain ⟨rfl, hall, hne, hrest⟩ := readDigits_eq_ok_iff.1 h
        refine ⟨rfl, Or.inr ⟨hall, hne, fun hhead => ?_⟩, hrest⟩
        obtain ⟨after, rfl⟩ := List.head?_eq_some_iff.1 hhead
        exact hzero (after ++ rest) rfl
  · rintro ⟨rfl, hwhole, hrest⟩
    exact readWhole_append hwhole hrest

theorem exists_cons_of_readWhole {cs digits rest : List Char}
    (h : readWhole cs = .ok (digits, rest)) : ∃ c after, cs = c :: after ∧ c.isDigit = true := by
  obtain ⟨rfl, hwhole, -⟩ := readWhole_eq_ok_iff.1 h
  exact exists_cons_of_allDigits hwhole.allDigits hwhole.ne_nil rest

namespace NumeralParts

/-- The parts are those of a numeral that can be written. -/
structure WellFormed (p : NumeralParts) : Prop where
  whole : IsWhole p.whole
  fraction : ∀ ds ∈ p.fraction, AllDigits ds ∧ ds ≠ []

/-- The power of ten as it is written; `plus` puts a sign before one that is not negative. -/
def powerChars (plus : Bool) (e : Int) : List Char :=
  'e' :: ((if e < 0 then ['-'] else if plus then ['+'] else []) ++ digitsOf e.natAbs)

/-- The numeral of the parts. -/
def chars (plus : Bool) (p : NumeralParts) : List Char :=
  (if p.negative then ['-'] else []) ++ (p.whole
    ++ ((p.fraction.elim [] ('.' :: ·)) ++ p.power.elim [] (powerChars plus)))

end NumeralParts

/-! ## The power of ten and the fraction -/

/-- A fraction is written behind its point, or it is not there. -/
inductive FractionStep (cs : List Char) : Option (List Char) → List Char → Prop
  | none (hcs : ∀ c ∈ cs.head?, c ≠ '.') : FractionStep cs none cs
  | some {after digits rest : List Char} (hcs : cs = '.' :: after)
      (hdigits : readDigits after = .ok (digits, rest)) : FractionStep cs (some digits) rest

theorem readFraction_eq_ok_iff {cs rest : List Char} {fraction : Option (List Char)} :
    readFraction cs = .ok (fraction, rest) ↔ FractionStep cs fraction rest := by
  constructor
  · intro h
    unfold readFraction at h
    split at h
    · obtain ⟨⟨digits, rest⟩, hdigits, h⟩ := Except.map_eq_ok_iff.1 h
      cases h
      exact .some rfl hdigits
    · next hpoint =>
        cases h
        refine .none fun c hc hdot => ?_
        obtain ⟨after, rfl⟩ := List.head?_eq_some_iff.1 hc
        exact hpoint after (hdot ▸ rfl)
  · intro h
    cases h with
    | none hcs =>
        cases cs with
        | nil => rfl
        | cons c cs => simp [readFraction, hcs c rfl]
    | some hcs hdigits =>
        subst hcs
        simp only [readFraction, hdigits, Except.map]

/-- The sign that may stand before the digits of a power. -/
inductive PowerSign : List Char → List Char → (Nat → Int) → Prop
  | minus (digits : List Char) : PowerSign ('-' :: digits) digits (fun n => -(n : Int))
  | plus (digits : List Char) : PowerSign ('+' :: digits) digits (fun n => n)
  | none (digits : List Char) : PowerSign digits digits (fun n => n)

/-- Digits do not start with a sign. -/
theorem exists_cons_of_readDigits {cs digits rest : List Char}
    (h : readDigits cs = .ok (digits, rest)) : ∃ c after, cs = c :: after ∧ c ≠ '-' ∧ c ≠ '+' := by
  obtain ⟨rfl, hall, hne, -⟩ := readDigits_eq_ok_iff.1 h
  obtain ⟨c, after, hcs, hc⟩ := exists_cons_of_allDigits hall hne rest
  refine ⟨c, after, hcs, ?_, ?_⟩ <;> (rintro rfl; exact absurd hc (by decide))

/-- A power of ten is written behind its mark, with or without a sign, or it is not there. -/
inductive PowerStep (cs : List Char) : Option Int → List Char → Prop
  | none (hcs : ∀ c ∈ cs.head?, c ≠ 'e' ∧ c ≠ 'E') : PowerStep cs none cs
  | some {mark : Char} {signed after digits rest : List Char} {value : Nat → Int}
      (hmark : mark = 'e' ∨ mark = 'E') (hcs : cs = mark :: signed)
      (hsign : PowerSign signed after value) (hdigits : readDigits after = .ok (digits, rest)) :
      PowerStep cs (some (value (ofDigits digits))) rest

theorem readPower_eq_ok_iff {cs rest : List Char} {power : Option Int} :
    readPower cs = .ok (power, rest) ↔ PowerStep cs power rest := by
  have hsigned : ∀ mark : Char, ∀ signed : List Char, mark = 'e' ∨ mark = 'E' →
      readPower (mark :: signed) = .ok (power, rest) → PowerStep (mark :: signed) power rest := by
    intro mark signed hmark h
    obtain rfl | rfl := hmark
    all_goals
      simp only [readPower] at h
      split at h
      · obtain ⟨⟨digits, rest⟩, hdigits, h⟩ := Except.map_eq_ok_iff.1 h
        cases h
        exact .some (by simp) rfl (.minus _) hdigits
      · obtain ⟨⟨digits, rest⟩, hdigits, h⟩ := Except.map_eq_ok_iff.1 h
        cases h
        exact .some (by simp) rfl (.plus _) hdigits
      · obtain ⟨⟨digits, rest⟩, hdigits, h⟩ := Except.map_eq_ok_iff.1 h
        cases h
        exact .some (by simp) rfl (.none _) hdigits
  constructor
  · intro h
    by_cases hmark : ∃ mark signed, cs = mark :: signed ∧ (mark = 'e' ∨ mark = 'E')
    · obtain ⟨mark, signed, rfl, hmark⟩ := hmark
      exact hsigned mark signed hmark h
    · simp only [readPower] at h
      split at h
      · exact absurd ⟨_, _, rfl, Or.inl rfl⟩ hmark
      · exact absurd ⟨_, _, rfl, Or.inr rfl⟩ hmark
      · cases h
        refine .none fun c hc => ?_
        obtain ⟨signed, rfl⟩ := List.head?_eq_some_iff.1 hc
        exact ⟨fun he => hmark ⟨_, _, rfl, Or.inl he⟩, fun hE => hmark ⟨_, _, rfl, Or.inr hE⟩⟩
  · intro h
    cases h with
    | none hcs =>
        cases cs with
        | nil => rfl
        | cons c cs =>
            obtain ⟨he, hE⟩ := hcs c rfl
            simp [readPower, he, hE]
    | some hmark hcs hsign hdigits =>
        subst hcs
        cases hsign with
        | minus | plus => rcases hmark with rfl | rfl <;> simp [readPower, hdigits, Except.map]
        | none =>
            -- the first digit is no sign
            obtain ⟨c, after, rfl, hminus, hplus⟩ := exists_cons_of_readDigits hdigits
            rcases hmark with rfl | rfl <;> simp [readPower, hminus, hplus, hdigits, Except.map]

theorem readPower_powerChars (plus : Bool) (e : Int) {rest : List Char} (hrest : NoDigitNext rest) :
    readPower (NumeralParts.powerChars plus e ++ rest) = .ok (some e, rest) := by
  have hread := readDigits_append (allDigits_digitsOf e.natAbs) (digitsOf_ne_nil _) hrest
  have hvalue : ofDigits (digitsOf e.natAbs) = e.natAbs := ofDigits_digitsOf _
  have hstep : ∀ signed value, PowerSign (signed ++ rest) (digitsOf e.natAbs ++ rest) value →
      value e.natAbs = e → readPower ('e' :: (signed ++ rest)) = .ok (some e, rest) := by
    intro signed value hsign he
    have h := readPower_eq_ok_iff.2 (.some (Or.inl rfl) rfl hsign hread)
    rwa [hvalue, he] at h
  rw [NumeralParts.powerChars, List.cons_append]
  by_cases hneg : e < 0
  · rw [if_pos hneg]
    exact hstep _ _ (.minus _) (by omega)
  · rw [if_neg hneg]
    cases plus with
    | true => exact hstep _ _ (.plus _) (by omega)
    | false => exact hstep _ _ (.none _) (by omega)

/-- What stands behind the fraction: neither a digit nor another point. -/
structure EndsFraction (rest : List Char) : Prop where
  noDigitNext : NoDigitNext rest
  noPointNext : ∀ c ∈ rest.head?, c ≠ '.'

theorem readPower_elim (plus : Bool) (power : Option Int) {rest : List Char}
    (hrest : EndsValue rest) :
    readPower (power.elim [] (NumeralParts.powerChars plus) ++ rest) = .ok (power, rest) := by
  cases power with
  | some e => exact readPower_powerChars plus e hrest.noDigitNext
  | none =>
      refine readPower_eq_ok_iff.2 (.none fun c hc => ?_)
      obtain ⟨cs, hcs⟩ := List.head?_eq_some_iff.1 hc
      exact (hrest.ne hcs).2.2

theorem endsFraction_power (plus : Bool) (power : Option Int) {rest : List Char}
    (hrest : EndsValue rest) :
    EndsFraction (power.elim [] (NumeralParts.powerChars plus) ++ rest) := by
  cases power with
  | none =>
      refine ⟨hrest.noDigitNext, fun c hc => ?_⟩
      obtain ⟨cs, hcs⟩ := List.head?_eq_some_iff.1 hc
      exact (hrest.ne hcs).2.1
  | some e =>
      refine ⟨?_, ?_⟩
      · rintro c ⟨⟩
        rfl
      · rintro c ⟨⟩
        decide

theorem readFraction_elim {fraction : Option (List Char)}
    (hfraction : ∀ ds ∈ fraction, AllDigits ds ∧ ds ≠ []) {rest : List Char}
    (hrest : EndsFraction rest) :
    readFraction (fraction.elim [] ('.' :: ·) ++ rest) = .ok (fraction, rest) := by
  cases fraction with
  | some ds =>
      obtain ⟨hds, hne⟩ := hfraction ds rfl
      exact readFraction_eq_ok_iff.2 (.some rfl (readDigits_append hds hne hrest.noDigitNext))
  | none => exact readFraction_eq_ok_iff.2 (.none hrest.noPointNext)

theorem noDigitNext_fraction (fraction : Option (List Char)) {rest : List Char}
    (hrest : NoDigitNext rest) : NoDigitNext (fraction.elim [] ('.' :: ·) ++ rest) := by
  cases fraction with
  | none => exact hrest
  | some ds =>
      rintro c ⟨⟩
      rfl

/-! ## Whole numerals -/

/-- A minus sign may stand before the digits. -/
inductive Signed : Bool → List Char → List Char → Prop
  | minus (cs : List Char) : Signed true ('-' :: cs) cs
  | none (cs : List Char) : Signed false cs cs

/-- The parts of a numeral are read one after the other. -/
theorem readParts_eq_ok_iff {cs rest : List Char} {p : NumeralParts} :
    readParts cs = .ok (p, rest)
      ↔ ∃ cs₁ cs₂ cs₃, Signed p.negative cs cs₁ ∧ readWhole cs₁ = .ok (p.whole, cs₂)
          ∧ readFraction cs₂ = .ok (p.fraction, cs₃) ∧ readPower cs₃ = .ok (p.power, rest) := by
  constructor
  · intro h
    unfold readParts at h
    split at h
    next negative cs₁ hsign =>
      obtain ⟨⟨whole, cs₂⟩, hwhole, h⟩ := Except.bind_eq_ok_iff.1 h
      obtain ⟨⟨fraction, cs₃⟩, hfraction, h⟩ := Except.bind_eq_ok_iff.1 h
      obtain ⟨⟨power, rest⟩, hpower, h⟩ := Except.bind_eq_ok_iff.1 h
      cases h
      refine ⟨cs₁, cs₂, cs₃, ?_, hwhole, hfraction, hpower⟩
      split at hsign
      · cases hsign
        exact .minus _
      · cases hsign
        exact .none _
  · rintro ⟨cs₁, cs₂, cs₃, hsigned, hwhole, hfraction, hpower⟩
    obtain ⟨negative, whole, fraction, power⟩ := p
    have hdigit := readWhole_eq_ok_iff.1 hwhole
    unfold readParts
    split
    next negative' cs₁' hsign =>
      have hread : negative' = negative ∧ cs₁' = cs₁ := by
        split at hsign
        · cases hsigned with
          | minus =>
              cases hsign
              exact ⟨rfl, rfl⟩
          | none =>
              -- the digits do not start with the sign
              exact absurd (hdigit.2.1.isDigit_of_eq_append hdigit.1) (by decide)
        · next hminus =>
            cases hsigned with
            | minus => exact absurd rfl (hminus _)
            | none =>
                cases hsign
                exact ⟨rfl, rfl⟩
      obtain ⟨rfl, rfl⟩ := hread
      exact Except.bind_eq_ok_iff.2 ⟨_, hwhole, Except.bind_eq_ok_iff.2
        ⟨_, hfraction, Except.bind_eq_ok_iff.2 ⟨_, hpower, rfl⟩⟩⟩

/-- The parts of a numeral are read back. -/
theorem readParts_chars (plus : Bool) {p : NumeralParts} (hp : p.WellFormed) {rest : List Char}
    (hrest : EndsValue rest) : readParts (p.chars plus ++ rest) = .ok (p, rest) := by
  have hends := endsFraction_power plus p.power hrest
  have hpower := readPower_elim plus p.power hrest
  have hfraction := readFraction_elim hp.fraction hends
  have hwhole := readWhole_append hp.whole (noDigitNext_fraction p.fraction hends.noDigitNext)
  refine readParts_eq_ok_iff.2 ⟨_, _, _, ?_, hwhole, hfraction, hpower⟩
  simp only [NumeralParts.chars, List.append_assoc]
  cases p.negative with
  | true => exact .minus _
  | false => exact .none _

end RuleFilter.Json
