import Mathlib.Tactic.IntervalCases
import RuleFilter.Json.Printer
import RuleFilter.Proofs.Json.Grammar
import RuleFilter.Proofs.Json.Step

set_option autoImplicit false

/-! # Strings of the grammar are read

The reader of strings goes by single characters and remembers where it stands, while the grammar
takes an escape as a whole. Between the two stands what four digits do to the reader (`UnitStep`):
from there each character of the grammar moves the reader by that character, and it is moved by
nothing else, so it reads exactly the strings that are written (`readString_eq_ok_iff`). The string
that the printer writes is one of them (`writesChars_flatMap_escape`). -/

namespace RuleFilter.Json

/-! ## Digits of an escape -/

theorem lt_of_writesHexDigit {n : Nat} {c : Char} (h : WritesHexDigit n c) : n < 16 := by
  rcases h with h | h
  · exact (List.getElem?_eq_some_iff.1 h).1
  · exact (List.getElem?_eq_some_iff.1 h).1

theorem hexValue?_of_writesHexDigit {n : Nat} {c : Char} (h : WritesHexDigit n c) :
    hexValue? c = some n := by
  rcases h with h | h
  · obtain ⟨hn, rfl⟩ := List.getElem?_eq_some_iff.1 h
    change n < 16 at hn
    revert n
    decide
  · obtain ⟨hn, rfl⟩ := List.getElem?_eq_some_iff.1 h
    change n < 16 at hn
    revert n
    decide

theorem writesHexDigit_of_hexValue? {n : Nat} {c : Char} (h : hexValue? c = some n) :
    WritesHexDigit n c := by
  have hrange : (48 ≤ c.toNat ∧ c.toNat ≤ 57) ∨ (97 ≤ c.toNat ∧ c.toNat ≤ 102)
      ∨ (65 ≤ c.toNat ∧ c.toNat ≤ 70) := by
    simp only [hexValue?, Char.isDigit, Char.le_def, UInt32.le_iff_toNat_le] at h
    split_ifs at h with hdigit hsmall hcapital
    · exact .inl (by simpa using hdigit)
    · exact .inr (.inl hsmall)
    · exact .inr (.inr hcapital)
  have hc : c = Char.ofNat c.toNat := (Char.ofNat_toNat c).symm
  rw [hc] at h ⊢
  generalize c.toNat = k at hrange h ⊢
  rcases hrange with ⟨hleast, hmost⟩ | ⟨hleast, hmost⟩ | ⟨hleast, hmost⟩
  · interval_cases k <;> (cases h; exact .inl rfl)
  · interval_cases k <;> (cases h; exact .inl rfl)
  · interval_cases k <;> (cases h; exact .inr rfl)

theorem hexValue?_eq_some_iff {n : Nat} {c : Char} : hexValue? c = some n ↔ WritesHexDigit n c :=
  ⟨writesHexDigit_of_hexValue?, hexValue?_of_writesHexDigit⟩

/-- Four characters hold four bytes. -/
theorem hasFourBytes_cons (a b c d : Char) (cs : List Char) :
    hasFourBytes (a :: b :: c :: d :: cs) = true := by
  have hbytes : (String.ofList [a, b, c, d]).utf8ByteSize
      = a.utf8Size + (b.utf8Size + (c.utf8Size + d.utf8Size)) := by simp
  have := a.utf8Size_pos
  have := b.utf8Size_pos
  have := c.utf8Size_pos
  have := d.utf8Size_pos
  simp only [hasFourBytes, List.take_succ_cons, List.take_zero, hbytes, decide_eq_true_eq]
  omega

theorem WritesUnit.hasFourBytes {n : Nat} {cs rest : List Char} (h : WritesUnit n cs rest) :
    hasFourBytes cs = true := by
  cases h
  exact hasFourBytes_cons ..

theorem WritesUnit.lt {n : Nat} {cs rest : List Char} (h : WritesUnit n cs rest) : n < 0x10000 := by
  cases h with
  | digits h₃ h₂ h₁ h₀ =>
      have := lt_of_writesHexDigit h₃
      have := lt_of_writesHexDigit h₂
      have := lt_of_writesHexDigit h₁
      have := lt_of_writesHexDigit h₀
      omega

/-! ## Units -/

/-- Where the reader stands behind the four digits of a unit: behind a high surrogate its partner is
missing, and a low one is that partner. -/
inductive UnitStep (n : Nat) (read : List Char) : Option Nat → StringState → List Char → Prop
  | high (hlow : isLowSurrogate n = false) (hhigh : isHighSurrogate n = true) :
      UnitStep n read none (.partnerBackslash n) read
  | whole (hlow : isLowSurrogate n = false) (hhigh : isHighSurrogate n = false) :
      UnitStep n read none .plain (Char.ofNat n :: read)
  | pair {high : Nat} (hlow : isLowSurrogate n = true) :
      UnitStep n read (some high) .plain
        (Char.ofNat (0x10000 + (high - 0xD800) * 0x400 + (n - 0xDC00)) :: read)

/-- A digit that is not the last one leads to the next. -/
theorem readStringFrom_digit_eq_ok_iff {high : Option Nat} {missing value : Nat}
    {read cs rest : List Char} {s : String} :
    readStringFrom false (.numeric high (missing + 2) value) read cs = .ok (s, rest)
      ↔ ∃ d c after, WritesHexDigit d c ∧ cs = c :: after
        ∧ readStringFrom false (.numeric high (missing + 1) (16 * value + d)) read after
          = .ok (s, rest) := by
  constructor
  · intro h
    cases cs with
    | nil => cases h
    | cons c cs =>
        rcases readStringFrom_eq_ok_iff.1 h with ⟨hstate, -⟩ | ⟨state', read', hstep, h⟩
        · cases hstate
        · cases hstep with
          | digit hd => exact ⟨_, c, cs, hexValue?_eq_some_iff.1 hd, rfl, h⟩
  · rintro ⟨d, c, after, hd, rfl, h⟩
    exact readStringFrom_eq_ok_iff.2
      (.inr ⟨_, _, .digit (hexValue?_eq_some_iff.2 hd) (by omega), h⟩)

/-- The last digit ends the unit. -/
theorem readStringFrom_lastDigit_eq_ok_iff {high : Option Nat} {value : Nat}
    {read cs rest : List Char} {s : String} :
    readStringFrom false (.numeric high 1 value) read cs = .ok (s, rest)
      ↔ ∃ d c after state read', WritesHexDigit d c ∧ cs = c :: after
        ∧ UnitStep (16 * value + d) read high state read'
        ∧ readStringFrom false state read' after = .ok (s, rest) := by
  constructor
  · intro h
    cases cs with
    | nil => cases h
    | cons c cs =>
        rcases readStringFrom_eq_ok_iff.1 h with ⟨hstate, -⟩ | ⟨state, read', hstep, h⟩
        · cases hstate
        · cases hstep with
          | digit _ hmissing => exact absurd rfl hmissing
          | skipped _ hskipping => cases hskipping
          | high hd _ hlow hhigh =>
              exact ⟨_, c, cs, _, _, hexValue?_eq_some_iff.1 hd, rfl, .high hlow hhigh, h⟩
          | whole hd _ hlow hhigh =>
              exact ⟨_, c, cs, _, _, hexValue?_eq_some_iff.1 hd, rfl, .whole hlow hhigh, h⟩
          | pair hd hlow =>
              exact ⟨_, c, cs, _, _, hexValue?_eq_some_iff.1 hd, rfl, .pair hlow, h⟩
  · rintro ⟨d, c, after, state, read', hd, rfl, hunit, h⟩
    have hd := hexValue?_eq_some_iff.2 hd
    cases hunit with
    | high hlow hhigh =>
        exact readStringFrom_eq_ok_iff.2 (.inr ⟨_, _, .high hd rfl hlow hhigh, h⟩)
    | whole hlow hhigh =>
        exact readStringFrom_eq_ok_iff.2 (.inr ⟨_, _, .whole hd rfl hlow hhigh, h⟩)
    | pair hlow => exact readStringFrom_eq_ok_iff.2 (.inr ⟨_, _, .pair hd hlow, h⟩)

theorem readStringFrom_unit_eq_ok_iff {high : Option Nat} {read cs rest : List Char} {s : String} :
    readStringFrom false (.numeric high 4 0) read cs = .ok (s, rest)
      ↔ ∃ n after state read', WritesUnit n cs after ∧ UnitStep n read high state read'
        ∧ readStringFrom false state read' after = .ok (s, rest) := by
  have hvalue : ∀ d₃ d₂ d₁ d₀ : Nat, 16 * (16 * (16 * (16 * 0 + d₃) + d₂) + d₁) + d₀
      = 0x1000 * d₃ + 0x100 * d₂ + 0x10 * d₁ + d₀ := fun _ _ _ _ => by omega
  constructor
  · intro h
    obtain ⟨d₃, c₃, _, h₃, rfl, hread₂⟩ := readStringFrom_digit_eq_ok_iff.1 h
    obtain ⟨d₂, c₂, _, h₂, rfl, hread₁⟩ := readStringFrom_digit_eq_ok_iff.1 hread₂
    obtain ⟨d₁, c₁, _, h₁, rfl, hread₀⟩ := readStringFrom_digit_eq_ok_iff.1 hread₁
    obtain ⟨d₀, c₀, after, state, read', h₀, rfl, hunit, hread⟩ :=
      readStringFrom_lastDigit_eq_ok_iff.1 hread₀
    rw [hvalue] at hunit
    exact ⟨_, after, state, read', .digits h₃ h₂ h₁ h₀, hunit, hread⟩
  · rintro ⟨n, after, state, read', hdigits, hunit, h⟩
    cases hdigits with
    | @digits d₃ d₂ d₁ d₀ _ _ _ _ _ h₃ h₂ h₁ h₀ =>
        rw [← hvalue] at hunit
        have hread₀ := readStringFrom_lastDigit_eq_ok_iff.2
          ⟨d₀, _, after, state, read', h₀, rfl, hunit, h⟩
        have hread₁ := readStringFrom_digit_eq_ok_iff.2 ⟨d₁, _, _, h₁, rfl, hread₀⟩
        have hread₂ := readStringFrom_digit_eq_ok_iff.2 ⟨d₂, _, _, h₂, rfl, hread₁⟩
        exact readStringFrom_digit_eq_ok_iff.2 ⟨d₃, _, _, h₃, rfl, hread₂⟩

/-! ## Characters -/

theorem escapedChar?_eq_some_iff {letter c : Char} :
    escapedChar? letter = some c ↔ (letter, c) ∈ shortEscapes := by
  constructor
  · intro h
    unfold escapedChar? at h
    split at h <;> first | cases h; decide | cases h
  · intro h
    simp only [shortEscapes, List.mem_cons, Prod.mk.injEq, List.not_mem_nil, or_false] at h
    rcases h with ⟨rfl, rfl⟩ | ⟨rfl, rfl⟩ | ⟨rfl, rfl⟩ | ⟨rfl, rfl⟩ | ⟨rfl, rfl⟩ | ⟨rfl, rfl⟩
      | ⟨rfl, rfl⟩ | ⟨rfl, rfl⟩ <;> rfl

/-- No character is a surrogate. -/
theorem not_isSurrogate (c : Char) :
    isLowSurrogate c.toNat = false ∧ isHighSurrogate c.toNat = false := by
  have hvalid : c.toNat < 0xD800 ∨ (0xDFFF < c.toNat ∧ c.toNat < 0x110000) := c.valid
  simp only [isLowSurrogate, isHighSurrogate, Bool.and_eq_false_iff, decide_eq_false_iff_not]
  omega

theorem toNat_ofNat_of_isValidChar {n : Nat} (h : n.isValidChar) : (Char.ofNat n).toNat = n := by
  rw [Char.ofNat, dif_pos h]
  rfl

theorem toNat_ofNat_of_unit {n : Nat} (hn : n < 0x10000) (hlow : isLowSurrogate n = false)
    (hhigh : isHighSurrogate n = false) : (Char.ofNat n).toNat = n := by
  simp only [isLowSurrogate, isHighSurrogate, Bool.and_eq_false_iff, decide_eq_false_iff_not]
    at hlow hhigh
  refine toNat_ofNat_of_isValidChar ?_
  rw [Nat.isValidChar]
  omega

theorem readStringFrom_partner_eq_ok_iff {high : Nat} {read cs rest : List Char} {s : String} :
    readStringFrom false (.partnerBackslash high) read cs = .ok (s, rest)
      ↔ ∃ after, cs = '\\' :: 'u' :: after ∧ hasFourBytes after = true
        ∧ readStringFrom false (.numeric (some high) 4 0) read after = .ok (s, rest) := by
  constructor
  · intro h
    rcases cs with _ | ⟨c, _ | ⟨c', cs⟩⟩
    · cases h
    · rcases readStringFrom_eq_ok_iff.1 h with ⟨hstate, -⟩ | ⟨_, _, hstep, h⟩
      · cases hstate
      · cases hstep
        cases h
    · rcases readStringFrom_eq_ok_iff.1 h with ⟨hstate, -⟩ | ⟨_, _, hstep, h⟩
      · cases hstate
      · cases hstep with
        | partnerBackslash hc =>
            rcases readStringFrom_eq_ok_iff.1 h with ⟨hstate, -⟩ | ⟨_, _, hstep, h⟩
            · cases hstate
            · cases hstep with
              | partnerLetter hc' hbytes => exact ⟨cs, by rw [hc, hc'], hbytes, h⟩
  · rintro ⟨after, rfl, hbytes, h⟩
    have hletter := readStringFrom_eq_ok_iff.2 (.inr ⟨_, _, .partnerLetter rfl hbytes, h⟩)
    exact readStringFrom_eq_ok_iff.2 (.inr ⟨_, _, .partnerBackslash rfl, hletter⟩)

/-- Behind a backslash a character of the grammar is read. -/
theorem exists_of_readStringFrom_escape {read cs rest : List Char} {s : String}
    (h : readStringFrom false .escape read cs = .ok (s, rest)) :
    ∃ c after, WritesChar c ('\\' :: cs) after
      ∧ readStringFrom false .plain (c :: read) after = .ok (s, rest) := by
  rcases cs with _ | ⟨letter, cs⟩
  · cases h
  rcases readStringFrom_eq_ok_iff.1 h with ⟨hstate, -⟩ | ⟨_, _, hstep, hnext⟩
  · cases hstate
  cases hstep with
  | letter _ he => exact ⟨_, cs, .short (escapedChar?_eq_some_iff.1 he), hnext⟩
  | numeric hletter =>
      subst hletter
      obtain ⟨n, after, _, _, hdigits, hunit, hrest⟩ :=
        readStringFrom_unit_eq_ok_iff.1 hnext
      cases hunit with
      | whole hlow hhigh =>
          have hn := toNat_ofNat_of_unit hdigits.lt hlow hhigh
          exact ⟨Char.ofNat n, after, .unit (hn.symm ▸ hdigits), hrest⟩
      | high _ hhigh =>
          obtain ⟨behind, rfl, -, hpartner⟩ := readStringFrom_partner_eq_ok_iff.1 hrest
          obtain ⟨n', after, _, _, hdigits', hunit', hrest'⟩ :=
            readStringFrom_unit_eq_ok_iff.1 hpartner
          cases hunit' with
          | pair hlow =>
              simp only [isHighSurrogate, isLowSurrogate, Bool.and_eq_true, decide_eq_true_eq]
                at hhigh hlow
              obtain ⟨high, rfl⟩ := Nat.exists_eq_add_of_le hhigh.1
              obtain ⟨low, rfl⟩ := Nat.exists_eq_add_of_le hlow.1
              refine ⟨Char.ofNat (0x10000 + 0x400 * high + low), after,
                .pair hdigits (by omega) hdigits' (by omega) ?_, ?_⟩
              · refine toNat_ofNat_of_isValidChar ?_
                rw [Nat.isValidChar]
                omega
              · simpa [Nat.mul_comm] using hrest'

/-- A character of the grammar moves the reader by that character. -/
theorem readStringFrom_of_writesChar {c : Char} {read cs after rest : List Char} {s : String}
    (hc : WritesChar c cs after)
    (h : readStringFrom false .plain (c :: read) after = .ok (s, rest)) :
    readStringFrom false .plain read cs = .ok (s, rest) := by
  have hbackslash : ∀ cs, readStringFrom false .escape read cs = .ok (s, rest) →
      readStringFrom false .plain read ('\\' :: cs) = .ok (s, rest) :=
    fun cs h => readStringFrom_eq_ok_iff.2 (.inr ⟨_, _, .backslash rfl, h⟩)
  cases hc with
  | plain hcontrol hquote hbackslash =>
      exact readStringFrom_eq_ok_iff.2
        (.inr ⟨_, _, .plain hquote hbackslash (Nat.not_lt.2 hcontrol), h⟩)
  | @short letter _ _ hletter =>
      have hne : letter ≠ 'u' := by
        rintro rfl
        revert hletter
        simp [shortEscapes]
      exact hbackslash _ (readStringFrom_eq_ok_iff.2
        (.inr ⟨_, _, .letter hne (escapedChar?_eq_some_iff.2 hletter), h⟩))
  | unit hdigits =>
      obtain ⟨hlow, hhigh⟩ := not_isSurrogate c
      have hwhole : UnitStep c.toNat read none .plain (c :: read) := by
        have hstep : UnitStep c.toNat read none .plain (Char.ofNat c.toNat :: read) :=
          .whole hlow hhigh
        rwa [Char.ofNat_toNat] at hstep
      have hunit := readStringFrom_unit_eq_ok_iff.2 ⟨_, _, _, _, hdigits, hwhole, h⟩
      exact hbackslash _ (readStringFrom_eq_ok_iff.2
        (.inr ⟨_, _, .numeric rfl hdigits.hasFourBytes, hunit⟩))
  | @pair _ high low cs behind _ hdigits hsmall hdigits' hsmall' hvalue =>
      have hhigh : isLowSurrogate (0xD800 + high) = false
          ∧ isHighSurrogate (0xD800 + high) = true := by
        simp only [isLowSurrogate, isHighSurrogate, Bool.and_eq_false_iff, Bool.and_eq_true,
          decide_eq_false_iff_not, decide_eq_true_eq]
        omega
      have hlow : isLowSurrogate (0xDC00 + low) = true := by
        simp only [isLowSurrogate, Bool.and_eq_true, decide_eq_true_eq]
        omega
      have hc : Char.ofNat (0x10000 + (0xD800 + high - 0xD800) * 0x400 + (0xDC00 + low - 0xDC00))
          = c := by
        rw [Nat.add_sub_cancel_left, Nat.add_sub_cancel_left, Nat.mul_comm, ← hvalue,
          Char.ofNat_toNat]
      have hpair : UnitStep (0xDC00 + low) read (some (0xD800 + high)) .plain (c :: read) :=
        hc ▸ .pair hlow
      have hpartner := readStringFrom_unit_eq_ok_iff.2 ⟨_, _, _, _, hdigits', hpair, h⟩
      have hbehind := readStringFrom_partner_eq_ok_iff.2 ⟨_, rfl, hdigits'.hasFourBytes, hpartner⟩
      have hunit := readStringFrom_unit_eq_ok_iff.2
        ⟨_, _, _, _, hdigits, .high hhigh.1 hhigh.2, hbehind⟩
      exact hbackslash _ (readStringFrom_eq_ok_iff.2
        (.inr ⟨_, _, .numeric rfl hdigits.hasFourBytes, hunit⟩))

/-! ## Whole strings -/

theorem WritesUnit.length_lt {n : Nat} {cs rest : List Char} (h : WritesUnit n cs rest) :
    rest.length < cs.length := by
  cases h
  simp only [List.length_cons]
  omega

theorem WritesChar.length_lt {c : Char} {cs rest : List Char} (h : WritesChar c cs rest) :
    rest.length < cs.length := by
  cases h with
  | plain => exact Nat.lt_succ_self _
  | short =>
      simp only [List.length_cons]
      omega
  | unit h =>
      have := h.length_lt
      simp only [List.length_cons]
      omega
  | pair hhigh _ hlow =>
      have := hhigh.length_lt
      have := hlow.length_lt
      simp only [List.length_cons] at *
      omega

theorem readStringFrom_of_writesChars {s cs rest : List Char} (h : WritesChars s cs rest)
    (read : List Char) :
    readStringFrom false .plain read cs = .ok (String.ofList (read.reverse ++ s), rest) := by
  induction h generalizing read with
  | close => rw [List.append_nil]; rfl
  | @more c s cs after rest hc _ ih =>
      refine readStringFrom_of_writesChar hc ?_
      rw [ih, List.reverse_cons, List.append_assoc, List.singleton_append]

/-- What was read so far and the string that the grammar finds make up what is read. -/
theorem exists_of_readStringFrom {read cs rest : List Char} {s : String}
    (h : readStringFrom false .plain read cs = .ok (s, rest)) :
    ∃ ahead, WritesChars ahead cs rest ∧ s.toList = read.reverse ++ ahead := by
  match cs with
  | [] => cases h
  | c :: cs =>
      rcases readStringFrom_eq_ok_iff.1 h with ⟨-, rfl, rfl, rfl⟩ | ⟨_, _, hstep, hnext⟩
      · exact ⟨[], .close, by simp⟩
      obtain ⟨e, after, he, hrest⟩ : ∃ e after, WritesChar e (c :: cs) after
          ∧ readStringFrom false .plain (e :: read) after = .ok (s, rest) := by
        cases hstep with
        | plain hquote hbackslash hcontrol =>
            exact ⟨c, cs, .plain (Nat.not_lt.1 hcontrol) hquote hbackslash, hnext⟩
        | backslash hc => exact hc ▸ exists_of_readStringFrom_escape hnext
      have hshort := he.length_lt
      obtain ⟨ahead, hahead, hs⟩ := exists_of_readStringFrom hrest
      exact ⟨e :: ahead, .more he hahead, by simpa using hs⟩
termination_by cs.length
decreasing_by exact hshort

/-- The reader reads the strings of the grammar. -/
theorem readString_eq_ok_iff {s : String} {cs rest : List Char} :
    readString cs = .ok (s, rest) ↔ WritesChars s.toList cs rest := by
  constructor
  · intro h
    obtain ⟨ahead, hahead, hs⟩ := exists_of_readStringFrom h
    exact hs ▸ hahead
  · intro h
    rw [readString, readStringFrom_of_writesChars h, List.reverse_nil, List.nil_append,
      String.ofList_toList]

/-! ## The string that is written -/

theorem writesHexDigit_hexDigit {n : Nat} (hn : n < 16) : WritesHexDigit n (hexDigit n) :=
  hexValue?_eq_some_iff.1 (by revert n; decide)

/-- A control character without a letter of its own is written by its number, in two digits behind
two zeros. -/
theorem writesChar_escape (c : Char) (rest : List Char) : WritesChar c (escape c ++ rest) rest := by
  simp only [escape]
  split_ifs with hquote hbackslash hback hfeed hline hreturn htab hcontrol
  · exact .short (by rw [hquote]; decide)
  · exact .short (by rw [hbackslash]; decide)
  · exact .short (by rw [hback]; decide)
  · exact .short (by rw [hfeed]; decide)
  · exact .short (by rw [hline]; decide)
  · exact .short (by rw [hreturn]; decide)
  · exact .short (by rw [htab]; decide)
  · have hzero := writesHexDigit_hexDigit (n := 0) (by decide)
    have hhigh := writesHexDigit_hexDigit (n := c.toNat / 16) (by omega)
    have hlow := writesHexDigit_hexDigit (n := c.toNat % 16) (by omega)
    have hvalue : 0x1000 * 0 + 0x100 * 0 + 0x10 * (c.toNat / 16) + c.toNat % 16 = c.toNat := by
      omega
    have hdigits : WritesUnit _ _ rest := .digits hzero hzero hhigh hlow
    rw [hvalue] at hdigits
    exact .unit hdigits
  · exact .plain (Nat.not_lt.1 hcontrol) hquote hbackslash

theorem writesChars_flatMap_escape (cs rest : List Char) :
    WritesChars cs (cs.flatMap escape ++ '"' :: rest) rest := by
  induction cs with
  | nil => exact .close
  | cons c cs ih =>
      rw [List.flatMap_cons, List.append_assoc]
      exact .more (writesChar_escape c _) ih

/-- A string is read back from what stands between its quotes. -/
theorem readString_flatMap_escape (s : String) (rest : List Char) :
    readString (s.toList.flatMap escape ++ '"' :: rest) = .ok (s, rest) :=
  readString_eq_ok_iff.2 (writesChars_flatMap_escape s.toList rest)

end RuleFilter.Json
