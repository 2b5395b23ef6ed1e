import Mathlib.Data.List.Induction
import RuleFilter.Proofs.Json.Grammar
import RuleFilter.Proofs.Json.Locality

set_option autoImplicit false

/-! # Numerals of the grammar are read

The reader finds the parts of a numeral where the grammar puts them
(`WrittenNumber.readParts_chars`), and whatever it reads are the parts of a numeral
(`exists_of_readParts`). What number it takes is told by the parts alone (`WrittenNumber.number?`).
It is the nearest double of a numeral that is an integer of 64 bits
(`WrittenNumber.toDouble_of_isPlain`) or has few digits and a small power of ten
(`WrittenNumber.toDouble_of_isShort`), and may be another one else. -/

namespace RuleFilter.Json

open Numeral

/-! ## Digits -/

theorem isDigit_digitChar (d : Fin 10) : (Nat.digitChar d).isDigit = true := by
  revert d
  decide

theorem digitValue_digitChar (d : Fin 10) : digitValue (Nat.digitChar d) = d := by
  revert d
  decide

theorem eq_zero_of_digitChar {d : Fin 10} (h : Nat.digitChar d = '0') : d = 0 := by
  revert d
  decide

theorem exists_digitChar {c : Char} (hc : c.isDigit = true) :
    ∃ d : Fin 10, Nat.digitChar d = c := by
  have hrange : 48 ≤ c.toNat ∧ c.toNat ≤ 57 := by
    simpa [Char.isDigit, UInt32.le_iff_toNat_le] using hc
  refine ⟨⟨c.toNat - 48, by omega⟩, Char.toNat_inj.1 ?_⟩
  rw [Nat.toNat_digitChar_of_lt_ten (by simp only; omega)]
  simp only
  omega

theorem allDigits_digitChars (digits : List (Fin 10)) : AllDigits (digitChars digits) :=
  List.forall_mem_map.2 fun d _ => isDigit_digitChar d

theorem exists_digitChars {cs : List Char} (h : AllDigits cs) :
    ∃ digits, digitChars digits = cs := by
  induction cs with
  | nil => exact ⟨[], rfl⟩
  | cons c cs ih =>
      obtain ⟨digits, rfl⟩ := ih fun c hc => h c (List.mem_cons_of_mem _ hc)
      obtain ⟨d, rfl⟩ := exists_digitChar (h c List.mem_cons_self)
      exact ⟨d :: digits, rfl⟩

theorem digitChars_eq_nil_iff {digits : List (Fin 10)} : digitChars digits = [] ↔ digits = [] :=
  List.map_eq_nil_iff

/-- A row of digits has the value of the digits, the last of which counts least. -/
theorem ofDigits_digitChars (digits : List (Fin 10)) :
    ofDigits (digitChars digits) = digitsValue digits := by
  induction digits using List.reverseRecOn with
  | nil => rfl
  | append_singleton digits d ih =>
      have hchars : digitChars (digits ++ [d]) = digitChars digits ++ [Nat.digitChar d] :=
        List.map_append
      have hvalue : digitsValue (digits ++ [d]) = d + 10 * digitsValue digits := by
        simp [digitsValue, Nat.ofDigits_cons]
      rw [hchars, hvalue, ← ih, ofDigits, List.foldl_append, List.foldl_cons, List.foldl_nil,
        digitValue_digitChar, Nat.add_comm]
      rfl

/-! ## Parts -/

theorem WrittenPower.readPower (p : WrittenPower) {rest : List Char} (hrest : NoDigitNext rest) :
    readPower (p.chars ++ rest) = .ok (some p.value, rest) := by
  obtain ⟨mark, sign, digits, hmark, hsign, hne⟩ := p
  have hdigits : readDigits (digitChars digits ++ rest) = .ok (digitChars digits, rest) :=
    readDigits_append (allDigits_digitChars digits) (mt digitChars_eq_nil_iff.1 hne) hrest
  have hmark' : mark = 'e' ∨ mark = 'E' := by simpa using hmark
  simp only [chars, value, List.cons_append, List.append_assoc, ← ofDigits_digitChars]
  rcases sign with _ | c
  · exact readPower_eq_ok_iff.2 (.some hmark' rfl (.none _) hdigits)
  · have hc : c = '+' ∨ c = '-' := by simpa using hsign
    rcases hc with rfl | rfl
    · exact readPower_eq_ok_iff.2 (.some hmark' rfl (.plus _) hdigits)
    · exact readPower_eq_ok_iff.2 (.some hmark' rfl (.minus _) hdigits)

namespace WrittenNumber

/-- The parts that the reader finds in the numeral. -/
def parts (n : WrittenNumber) : NumeralParts where
  negative := n.negative
  whole := digitChars n.whole
  fraction := if n.fraction = [] then none else some (digitChars n.fraction)
  power := n.power.map WrittenPower.value

/-- The number that is read for the numeral, if there is one. -/
def number? (n : WrittenNumber) : Option Number := n.parts.toNumber?

/-- The same, or no number where none is read. -/
def read (n : WrittenNumber) : Number := n.number?.getD (.double .nan)

theorem held?_read (n : WrittenNumber) : n.read.held? = n.number? := by
  rw [read]
  cases hn : n.number? with
  | some x =>
      obtain ⟨hfinite, hheld⟩ := NumeralParts.finite_of_toNumber? hn
      rw [Option.getD_some, x.givesWhen_held?.eq_some hfinite, hheld]
  | none => rfl

theorem isFinite_read_iff (n : WrittenNumber) : n.read.IsFinite ↔ n.number?.isSome = true := by
  rw [← held?_read, Number.held?]
  split <;> simp [*]

theorem isWhole_whole (n : WrittenNumber) : IsWhole (digitChars n.whole) := by
  obtain ⟨_, whole, _, _, hne, hzero⟩ := n
  obtain ⟨d, ds, rfl⟩ := List.exists_cons_of_ne_nil hne
  by_cases hd : d = 0
  · subst hd
    have hds : ds = [] := (List.cons.inj (hzero rfl)).2
    subst hds
    exact .inl rfl
  · refine .inr ⟨allDigits_digitChars _, mt digitChars_eq_nil_iff.1 hne, fun hhead => hd ?_⟩
    exact eq_zero_of_digitChar (Option.some.inj hhead)

theorem readParts_chars (n : WrittenNumber) {rest : List Char} (hrest : Stops rest) :
    readParts (n.chars ++ rest) = .ok (n.parts, rest) := by
  have hpower : readPower (n.power.elim [] WrittenPower.chars ++ rest)
      = .ok (n.power.map WrittenPower.value, rest) := by
    cases n.power with
    | none => exact readPower_eq_ok_iff.2 (.none fun c hc => (hrest c hc).2.2)
    | some p => exact p.readPower hrest.noDigitNext
  have hends : EndsFraction (n.power.elim [] WrittenPower.chars ++ rest) := by
    cases n.power with
    | none => exact ⟨hrest.noDigitNext, fun c hc => (hrest c hc).2.1⟩
    | some p =>
        have hmark : p.mark.isDigit = false ∧ p.mark ≠ '.' := by
          rcases List.mem_pair.1 p.mark_mem with h | h <;> rw [h] <;> decide
        exact ⟨by rintro c ⟨⟩; exact hmark.1, by rintro c ⟨⟩; exact hmark.2⟩
  have hdigits : ∀ ds ∈ n.parts.fraction, AllDigits ds ∧ ds ≠ [] := by
    intro ds hds
    simp only [parts] at hds
    split at hds
    · cases hds
    · next hne =>
        cases hds
        exact ⟨allDigits_digitChars _, mt digitChars_eq_nil_iff.1 hne⟩
  have htext : (if n.fraction = [] then [] else '.' :: digitChars n.fraction)
      = n.parts.fraction.elim [] ('.' :: ·) := by
    simp only [parts]
    split <;> rfl
  have hfraction := readFraction_elim hdigits hends
  have hwhole := readWhole_append n.isWhole_whole
    (noDigitNext_fraction n.parts.fraction hends.noDigitNext)
  refine readParts_eq_ok_iff.2 ⟨_, _, _, ?_, hwhole, hfraction, hpower⟩
  simp only [chars, htext, List.append_assoc, parts]
  cases n.negative with
  | true => exact .minus _
  | false => exact .none _

/-! ## Numerals that were read -/

theorem exists_of_readPower {cs rest : List Char} {power : Option Int}
    (h : readPower cs = .ok (power, rest)) : ∃ p : Option WrittenPower,
      p.map WrittenPower.value = power ∧ cs = p.elim [] WrittenPower.chars ++ rest := by
  cases readPower_eq_ok_iff.1 h with
  | none => exact ⟨none, rfl, rfl⟩
  | @some mark signed after ds _ value hmark hcs hsign hdigits =>
      obtain ⟨rfl, hall, hne, -⟩ := readDigits_eq_ok_iff.1 hdigits
      obtain ⟨digits, rfl⟩ := exists_digitChars hall
      have hne' : digits ≠ [] := mt digitChars_eq_nil_iff.2 hne
      have hmark' : mark ∈ ['e', 'E'] := by simpa using hmark
      rw [ofDigits_digitChars]
      cases hsign with
      | minus => exact ⟨some ⟨mark, some '-', digits, hmark', by simp, hne'⟩, rfl, by
          simp [hcs, WrittenPower.chars]⟩
      | plus => exact ⟨some ⟨mark, some '+', digits, hmark', by simp, hne'⟩, rfl, by
          simp [hcs, WrittenPower.chars]⟩
      | none => exact ⟨some ⟨mark, none, digits, hmark', by simp, hne'⟩, rfl, by
          simp [hcs, WrittenPower.chars]⟩

/-- Whatever is read are the parts of a numeral. -/
theorem exists_of_readParts {cs rest : List Char} {p : NumeralParts}
    (h : readParts cs = .ok (p, rest)) :
    ∃ n : WrittenNumber, n.parts = p ∧ cs = n.chars ++ rest := by
  obtain ⟨cs₁, cs₂, cs₃, hsigned, hwhole, hfraction, hpower⟩ := readParts_eq_ok_iff.1 h
  obtain ⟨negative, _, fraction, _⟩ := p
  obtain ⟨power, rfl, rfl⟩ := exists_of_readPower hpower
  obtain ⟨rfl, hdigits, -⟩ := readWhole_eq_ok_iff.1 hwhole
  obtain ⟨whole, rfl⟩ := exists_digitChars hdigits.allDigits
  have hne : whole ≠ [] := mt digitChars_eq_nil_iff.2 hdigits.ne_nil
  have hzero : whole.head? = some 0 → whole = [0] := by
    intro hhead
    obtain ⟨ds, rfl⟩ := List.head?_eq_some_iff.1 hhead
    rcases hdigits with hdigits | hdigits
    · have hds : digitChars ds = [] := (List.cons.inj hdigits).2
      rw [digitChars_eq_nil_iff.1 hds]
    · exact absurd rfl hdigits.head?_ne
  have hchars : ∀ fraction : List (Fin 10), cs₂ = (if fraction = [] then [] else
      '.' :: digitChars fraction) ++ (power.elim [] WrittenPower.chars ++ rest) →
      cs = chars ⟨negative, whole, fraction, power, hne, hzero⟩ ++ rest := by
    rintro fraction rfl
    cases hsigned <;> simp [chars]
  cases readFraction_eq_ok_iff.1 hfraction with
  | none => exact ⟨⟨negative, whole, [], power, hne, hzero⟩, rfl, hchars [] rfl⟩
  | some hcs hdigits =>
      obtain ⟨rfl, hall, hne', -⟩ := readDigits_eq_ok_iff.1 hdigits
      obtain ⟨fraction, rfl⟩ := exists_digitChars hall
      have hnil : fraction ≠ [] := mt digitChars_eq_nil_iff.2 hne'
      refine ⟨⟨negative, whole, fraction, power, hne, hzero⟩, ?_, hchars fraction ?_⟩
      · simp only [parts, if_neg hnil]
      · rw [if_neg hnil]
        exact hcs

/-! ## The nearest double -/

theorem decimal_parts (n : WrittenNumber) : n.parts.decimal = n.decimal := by
  have hfraction : n.parts.fraction.getD [] = digitChars n.fraction := by
    simp only [parts]
    split
    · next hnil => rw [hnil]; rfl
    · rfl
  have hpower : n.parts.power.getD 0 = n.power.elim 0 WrittenPower.value := by
    simp only [parts]
    cases n.power <;> rfl
  have hdigits : digitChars n.whole ++ digitChars n.fraction = digitChars (n.whole ++ n.fraction) :=
    List.map_append.symm
  have hlength : (digitChars n.fraction).length = n.fraction.length := List.length_map _
  rw [NumeralParts.decimal, hfraction, hpower, Decimal.ofParts, decimal]
  simp only [parts, hdigits, ofDigits_digitChars, hlength]

/-- The numeral is an integer of 64 bits and perhaps a sign. -/
structure IsPlain (n : WrittenNumber) : Prop where
  fraction : n.fraction = []
  power : n.power = none
  fits : digitsValue n.whole < UInt64.size

/-- A plain integer is read as its nearest double. -/
theorem toDouble_of_isPlain {n : WrittenNumber} (h : n.IsPlain) :
    n.number?.map Number.toDouble = some n.nearest := by
  obtain ⟨negative, whole, _, _, hne, hzero⟩ := n
  obtain ⟨rfl, rfl, hfits⟩ := h
  have hvalue : ofDigits (digitChars whole) = digitsValue whole := ofDigits_digitChars whole
  have hplain : (NumeralParts.mk negative (digitChars whole) none none).isPlain = true := by
    simpa [NumeralParts.isPlain, hvalue] using hfits
  have hnearest : nearest ⟨negative, whole, [], none, hne, hzero⟩
      = Double.ofRatio negative (digitsValue whole) 1 := by
    have hexponent : (none : Option WrittenPower).elim 0 WrittenPower.value
        - (([] : List (Fin 10)).length : Int) = 0 := rfl
    rw [← Decimal.toDouble_natural, nearest, decimal, List.append_nil, hexponent]
  simp only [number?, parts, if_true, Option.map_none, NumeralParts.toNumber?, hplain,
    Option.map_some, hnearest, NumeralParts.integer, hvalue, Option.some.injEq]
  generalize digitsValue whole = magnitude
  cases negative with
  | false => rw [if_pos (by decide), Number.toDouble_ofInt, Double.ofInt_natCast, Double.ofNat]
  | true =>
      rw [if_neg (by decide)]
      split
      · rw [Number.toDouble, Double.ofNat, Double.neg_ofRatio, Bool.not_false]
      · next hsigned =>
          have hneg : -(magnitude : Int) < 0 := by omega
          rw [Number.toDouble_ofInt, Double.ofInt, decide_eq_true hneg, Int.natAbs_neg,
            Int.natAbs_natCast]

/-- **A short numeral is read as its nearest double.** Its digits and its power of ten are doubles
themselves. -/
theorem toDouble_of_isShort {n : WrittenNumber} (h : n.decimal.IsShort) :
    n.number?.map Number.toDouble = some n.nearest := by
  by_cases hplain : n.parts.isPlain = true
  · refine toDouble_of_isPlain ?_
    simp only [NumeralParts.isPlain, parts, Bool.and_eq_true, Option.isNone_iff_eq_none,
      Option.map_eq_none_iff, decide_eq_true_eq, ofDigits_digitChars] at hplain
    obtain ⟨⟨hfraction, hpower⟩, hfits⟩ := hplain
    exact ⟨by simpa using hfraction, hpower, hfits⟩
  · have hread := NumeralParts.toNumber?_of_isShort (Bool.eq_false_iff.2 hplain)
      (n.decimal_parts ▸ h)
    rw [number?, hread, n.decimal_parts]
    rfl

end WrittenNumber

end RuleFilter.Json
