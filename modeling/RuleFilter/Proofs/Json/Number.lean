import RuleFilter.Json.Printer
import RuleFilter.Proofs.Double.Integer
import RuleFilter.Proofs.Double.Scaling
import RuleFilter.Proofs.Json.Numeral
import RuleFilter.Proofs.Traversal

set_option autoImplicit false

/-! # Numbers and their texts

An integer is read back from its text, in the narrowest holder (`Number.readsBack_signed`,
`Number.readsBack_unsigned`). A double is laid out as a numeral whose decimal has that double next
to it (`exists_parts_of_numberText`), and is read back where reading its digits finds the nearest
double (`Number.ReadsBack`). This is so of short decimals (`Number.readsBack_of_isShort`), but
reading rounds more than once and may miss the nearest double of a long one. -/

namespace RuleFilter.Json

open Numeral

/-! ## The decimal of a numeral -/

/-- Digits are kept as long as the number they make fits in 64 bits. -/
theorem keepDigits_of_lt {n : Nat} {cs : List Char}
    (h : Nat.pow 10 cs.length * n + ofDigits cs < UInt64.size) :
    keepDigits n cs = (Nat.pow 10 cs.length * n + ofDigits cs, 0) := by
  induction cs generalizing n with
  | nil => simp [keepDigits, ofDigits]
  | cons c cs ih =>
      have hvalue : Nat.pow 10 (c :: cs).length * n + ofDigits (c :: cs)
          = Nat.pow 10 cs.length * (10 * n + digitValue c) + ofDigits cs := by
        have hcons : ofDigits (c :: cs) = Nat.pow 10 cs.length * digitValue c + ofDigits cs := by
          rw [← List.singleton_append, ofDigits_append]
          simp [ofDigits]
        rw [hcons, List.length_cons, Nat.mul_add, ← Nat.add_assoc]
        congr 2
        rw [← Nat.mul_assoc]
        rfl
      rw [hvalue] at h ⊢
      have hpos : 0 < Nat.pow 10 cs.length := Nat.pow_pos (by decide)
      have hfits : 10 * n + digitValue c < UInt64.size :=
        Nat.lt_of_le_of_lt (Nat.le_trans (Nat.le_mul_of_pos_left _ hpos) (Nat.le_add_right _ _)) h
      rw [keepDigits, if_pos hfits, ih h]

namespace NumeralParts

/-- The decimal that a numeral writes. -/
def decimal (p : NumeralParts) : Decimal :=
  .ofParts p.negative p.whole (p.fraction.getD []) (p.power.getD 0)

theorem kept_eq_decimal {p : NumeralParts} (h : p.decimal.digits < UInt64.size) :
    p.kept = p.decimal := by
  rw [decimal, Decimal.ofParts, ofDigits_append] at h ⊢
  have hwhole : keepDigits 0 p.whole = (ofDigits p.whole, 0) := by
    have hpos : 0 < Nat.pow 10 (p.fraction.getD []).length := Nat.pow_pos (by decide)
    rw [keepDigits_of_lt, Nat.mul_zero, Nat.zero_add]
    rw [Nat.mul_zero, Nat.zero_add]
    exact Nat.lt_of_le_of_lt
      (Nat.le_trans (Nat.le_mul_of_pos_left _ hpos) (Nat.le_add_right _ _)) h
  simp only [kept, hwhole, keepDigits_of_lt h]
  congr 1
  omega

/-- A short numeral with a point or a power is read as the double nearest to its decimal. -/
theorem toNumber?_of_isShort {p : NumeralParts} (hplain : p.isPlain = false)
    (hshort : p.decimal.IsShort) : p.toNumber? = some (.double p.decimal.toDouble) := by
  have hfits : p.decimal.digits < UInt64.size := Nat.lt_of_le_of_lt hshort.digits_le (by decide)
  rw [toNumber?, hplain, if_neg Bool.false_ne_true, kept_eq_decimal hfits,
    Decimal.scaled?_of_isShort hshort]
  rfl

end NumeralParts

/-! ## Layouts -/

/-- The digits of a decimal without the zeros at the end, and the exponent that goes with them. -/
theorem exists_trimmed (d : Decimal) (hd : d.digits ≠ 0) :
    ∃ digits exponent, digits = (NumeralLayout.trimZeros (digitsOf d.digits)).1
      ∧ exponent = d.exponent + (NumeralLayout.trimZeros (digitsOf d.digits)).2
      ∧ IsSignificant digits
      ∧ (Decimal.mk d.negative (ofDigits digits) exponent).toDouble = d.toDouble := by
  have hvalue : ofDigits (digitsOf d.digits) ≠ 0 := by rwa [ofDigits_digitsOf]
  obtain ⟨hne, hhead⟩ := NumeralLayout.head?_trimZeros hvalue
  refine ⟨_, _, rfl, rfl, ⟨NumeralLayout.allDigits_trimZeros (allDigits_digitsOf _), hne, ?_⟩, ?_⟩
  · rw [hhead]
    exact head?_digitsOf hd
  · rw [← Decimal.toDouble_shift _ _ _ (NumeralLayout.trimZeros (digitsOf d.digits)).2,
      NumeralLayout.ofDigits_trimZeros, ofDigits_digitsOf, Int.add_sub_cancel]

namespace NumeralParts

/-- The parts of a numeral that shows its digits in their places, the first for a power of ten. -/
def positional (negative : Bool) (digits : List Char) (exponent power : Int) : NumeralParts :=
  if 0 ≤ exponent then
    ⟨negative, digits ++ List.replicate exponent.toNat '0', some ['0'], none⟩
  else if 0 ≤ power then
    ⟨negative, digits.take (power.toNat + 1), some (digits.drop (power.toNat + 1)), none⟩
  else ⟨negative, ['0'], some (List.replicate (-power - 1).toNat '0' ++ digits), none⟩

/-- The parts of a numeral that writes the power of ten of its first digit. -/
def scientific (negative : Bool) (digits : List Char) (power : Int) : NumeralParts :=
  ⟨negative, digits.take 1, if digits.tail = [] then none else some digits.tail, some power⟩

section

variable {negative : Bool} {digits : List Char} {exponent power : Int}
  (hdigits : IsSignificant digits) (hpower : power = exponent + digits.length - 1)

include hdigits

/-- The first digits of a row that does not start with a zero are such a row. -/
theorem isSignificant_take (k : Nat) : IsSignificant (digits.take (k + 1)) := by
  obtain ⟨hall, hne, hhead⟩ := hdigits
  cases digits with
  | nil => exact absurd rfl hne
  | cons c cs =>
      exact ⟨fun c' hc' => hall c' (List.mem_of_mem_take hc'), by simp, hhead⟩

theorem scientific_wellFormed : (scientific negative digits power).WellFormed := by
  refine ⟨Or.inr (isSignificant_take hdigits 0), fun ds hds => ?_⟩
  simp only [scientific] at hds
  split at hds
  · cases hds
  · next hne =>
      cases hds
      exact ⟨fun c hc => hdigits.allDigits c (List.mem_of_mem_tail hc), hne⟩

include hpower

theorem positional_wellFormed : (positional negative digits exponent power).WellFormed := by
  obtain ⟨hall, hne, hhead⟩ := hdigits
  have hlength : 0 < digits.length := List.length_pos_of_ne_nil hne
  rw [positional]
  split
  · refine ⟨Or.inr ⟨?_, by simp [hne], ?_⟩, ?_⟩
    · exact allDigits_append.2 ⟨hall, allDigits_replicate_zero _⟩
    · rw [List.head?_append_of_ne_nil _ hne]
      exact hhead
    · rintro ds ⟨⟩
      exact ⟨allDigits_replicate_zero 1, by simp⟩
  · split
    · refine ⟨Or.inr (isSignificant_take ⟨hall, hne, hhead⟩ _), ?_⟩
      rintro ds ⟨⟩
      refine ⟨fun c hc => hall c (List.mem_of_mem_drop hc), ?_⟩
      rw [Ne, List.drop_eq_nil_iff]
      omega
    · refine ⟨Or.inl rfl, ?_⟩
      rintro ds ⟨⟩
      exact ⟨allDigits_append.2 ⟨allDigits_replicate_zero _, hall⟩, by simp [hne]⟩

theorem positional_decimal :
    (positional negative digits exponent power).decimal.toDouble
      = (Decimal.mk negative (ofDigits digits) exponent).toDouble := by
  have hlength : 0 < digits.length := List.length_pos_of_ne_nil hdigits.ne_nil
  rw [positional]
  split
  · next hexponent =>
      have hzeros : digits ++ List.replicate exponent.toNat '0' ++ ['0']
          = digits ++ List.replicate (exponent.toNat + 1) '0' := by
        rw [List.append_assoc, List.replicate_succ']
      have hshift : (0 : Int) - (['0'].length : Int) = exponent - (exponent.toNat + 1 : Nat) := by
        simp only [List.length_singleton]
        omega
      rw [decimal, Option.getD_some, Option.getD_none, Decimal.ofParts, hzeros,
        ofDigits_append_zeros, hshift, Decimal.toDouble_shift]
  · split
    · next hpos =>
        have hshift : (0 : Int) - ((digits.drop (power.toNat + 1)).length : Int) = exponent := by
          rw [List.length_drop]
          omega
        rw [decimal, Option.getD_some, Option.getD_none, Decimal.ofParts, List.take_append_drop,
          hshift]
    · next hneg =>
        have hzeros : ['0'] ++ (List.replicate (-power - 1).toNat '0' ++ digits)
            = List.replicate ((-power - 1).toNat + 1) '0' ++ digits := rfl
        have hshift : (0 : Int) - ((List.replicate (-power - 1).toNat '0' ++ digits).length : Int)
            = exponent := by
          rw [List.length_append, List.length_replicate]
          omega
        rw [decimal, Option.getD_some, Option.getD_none, Decimal.ofParts, hshift, hzeros,
          ofDigits_zeros_append]

theorem scientific_decimal :
    (scientific negative digits power).decimal = ⟨negative, ofDigits digits, exponent⟩ := by
  have hfraction : (if digits.tail = [] then none else some digits.tail).getD [] = digits.tail := by
    split
    · next hnil => exact hnil.symm
    · rfl
  have hlength : 0 < digits.length := List.length_pos_of_ne_nil hdigits.ne_nil
  have hshift : power - (digits.tail.length : Int) = exponent := by
    rw [List.length_tail]
    omega
  have hrow : digits.take 1 ++ digits.tail = digits := by
    rw [← List.drop_one, List.take_append_drop]
  simp only [decimal, scientific, hfraction, Option.getD_some, Decimal.ofParts, hrow, hshift]

end

variable {negative : Bool} {digits : List Char} {exponent power : Int}

/-- A row shown in its places is the numeral of its parts. -/
theorem positional_chars (plus : Bool) :
    (positional negative digits exponent power).chars plus
      = (if negative then ['-'] else []) ++
        (if 0 ≤ exponent then digits ++ List.replicate exponent.toNat '0' ++ ['.', '0']
        else if 0 ≤ power then
          digits.take (power.toNat + 1) ++ '.' :: digits.drop (power.toNat + 1)
        else ['0', '.'] ++ List.replicate (-power - 1).toNat '0' ++ digits) := by
  rw [positional]
  split
  · simp [chars]
  · split
    · simp [chars]
    · simp [chars]

/-- A row shown with the power of its first digit is the numeral of its parts. -/
theorem scientific_chars (plus : Bool) :
    (scientific negative digits power).chars plus
      = (if negative then ['-'] else []) ++
        (digits.take 1 ++ (if digits.tail = [] then [] else '.' :: digits.tail)
          ++ (if power < 0 then ['e', '-'] else if plus then ['e', '+'] else ['e'])
          ++ digitsOf power.natAbs) := by
  have hmark : powerChars plus power
      = (if power < 0 then ['e', '-'] else if plus then ['e', '+'] else ['e'])
        ++ digitsOf power.natAbs := by
    rw [powerChars]
    split
    · rfl
    · cases plus <;> rfl
  by_cases htail : digits.tail = []
  · simp only [chars, scientific, hmark, if_pos htail, Option.elim_none, Option.elim_some,
      List.append_assoc, List.nil_append]
  · simp only [chars, scientific, hmark, if_neg htail, Option.elim_some, List.append_assoc]

end NumeralParts

/-- A decimal is laid out as a numeral, never as a plain integer, that has the decimal's double next
to it. -/
theorem exists_parts_of_textOfDecimal (layout : NumeralLayout) (d : Decimal) :
    ∃ p : NumeralParts, p.WellFormed
      ∧ (layout.textOfDecimal d).toList = p.chars layout.signedPower
      ∧ p.isPlain = false ∧ p.decimal.toDouble = d.toDouble := by
  obtain ⟨negative, value, exponent⟩ := d
  by_cases hvalue : value = 0
  · subst hvalue
    refine ⟨⟨negative, ['0'], some ['0'], none⟩, ⟨Or.inl rfl, ?_⟩, ?_, rfl, ?_⟩
    · rintro ds ⟨⟩
      exact ⟨allDigits_replicate_zero 1, by simp⟩
    · simp [NumeralLayout.textOfDecimal, NumeralParts.chars]
    · rw [Decimal.toDouble_zero]
      exact Decimal.toDouble_zero negative _
  · obtain ⟨digits, shifted, hdigits, hshifted, hsignificant, hdouble⟩ :=
      exists_trimmed ⟨negative, value, exponent⟩ hvalue
    obtain ⟨power, hpower⟩ : ∃ power, power = shifted + digits.length - 1 := ⟨_, rfl⟩
    by_cases hrange : layout.leastPower ≤ power ∧ power < layout.endPower
    · refine ⟨.positional negative digits shifted power,
        NumeralParts.positional_wellFormed hsignificant hpower, ?_, ?_, ?_⟩
      · rw [NumeralParts.positional_chars]
        simp only [NumeralLayout.textOfDecimal, if_neg hvalue, String.toList_ofList, ← hdigits,
          ← hshifted, ← hpower, if_pos hrange]
      · rw [NumeralParts.positional]
        split
        · rfl
        · split <;> rfl
      · rw [NumeralParts.positional_decimal hsignificant hpower, hdouble]
    · refine ⟨.scientific negative digits power, NumeralParts.scientific_wellFormed hsignificant,
        ?_, ?_, ?_⟩
      · rw [NumeralParts.scientific_chars]
        simp only [NumeralLayout.textOfDecimal, if_neg hvalue, String.toList_ofList, ← hdigits,
          ← hshifted, ← hpower, if_neg hrange]
        -- a single digit has no point behind it
        rcases digits with _ | ⟨c, _ | ⟨c', cs⟩⟩ <;> rfl
      · simp [NumeralParts.isPlain, NumeralParts.scientific]
      · rw [NumeralParts.scientific_decimal hsignificant hpower, hdouble]

end RuleFilter.Json

/-! ## Numbers -/

namespace RuleFilter

namespace Double

@[simp] theorem isFinite_neg (x : Double) : x.neg.isFinite = x.isFinite := by cases x <;> rfl

end Double

theorem Decimal.isFinite_of_scaled? {d : Decimal} {x : Double} (h : d.scaled? = some x) :
    x.isFinite = true := by
  rw [scaled?] at h
  split at h
  · next hfinite =>
      cases h
      split
      · rwa [Double.isFinite_neg]
      · exact hfinite
  · cases h

namespace Number

/-- Neither an infinity nor a NaN, which have no text. -/
def IsFinite : Number → Prop
  | double x => x.isFinite = true
  | _ => True

@[simp] theorem held_signed (n : Int64) : (signed n).held = signed n := rfl

@[simp] theorem held_double (x : Double) : (double x).held = double x := rfl

theorem ofInt_toInt (n : Int64) : ofInt n.toInt = signed n := by
  rw [ofInt, if_pos ⟨n.minValue_le_toInt, n.toInt_le⟩, Int64.ofInt_toInt]

/-- An integer that one of the widths holds is not taken to a double. -/
theorem isFinite_ofInt {n : Int} (hleast : Int64.minValue.toInt ≤ n) (hend : n < UInt64.size) :
    (ofInt n).IsFinite := by
  rw [ofInt]
  split
  · trivial
  · next hsigned =>
      have hmax : Int64.minValue.toInt ≤ 0 ∧ 0 ≤ Int64.maxValue.toInt := by decide
      rw [if_pos ⟨by omega, hend⟩]
      trivial

/-- The narrowest holder is the narrowest again. -/
@[simp] theorem held_ofInt (n : Int) : (ofInt n).held = ofInt n := by
  by_cases hsigned : Int64.minValue.toInt ≤ n ∧ n ≤ Int64.maxValue.toInt
  · rw [ofInt, if_pos hsigned, held_signed]
  · by_cases hunsigned : 0 ≤ n ∧ n < UInt64.size
    · have hvalue : ((UInt64.ofNat n.toNat).toNat : Int) = n := by
        rw [UInt64.toNat_ofNat_of_lt' (by omega)]
        omega
      rw [ofInt, if_neg hsigned, if_pos hunsigned, held, hvalue, ofInt, if_neg hsigned,
        if_pos hunsigned]
    · rw [ofInt, if_neg hsigned, if_neg hunsigned, held_double]

end Number

namespace Json

open Numeral

namespace NumeralParts

/-- The parts of a plain integer. -/
def ofInt (n : Int) : NumeralParts := ⟨n < 0, digitsOf n.natAbs, none, none⟩

theorem ofInt_wellFormed (n : Int) : (ofInt n).WellFormed :=
  ⟨isWhole_digitsOf n.natAbs, by simp [ofInt]⟩

/-- An integer of one of the two widths stands for itself. -/
theorem toNumber?_ofInt {n : Int} (hleast : Int64.minValue.toInt ≤ n) (hend : n < UInt64.size) :
    (ofInt n).toNumber? = some (Number.ofInt n) := by
  have hvalue : ofDigits (digitsOf n.natAbs) = n.natAbs := ofDigits_digitsOf _
  have hmin : Int64.minValue.toInt = -(Nat.pow 2 63 : Nat) := rfl
  have hsize : n.natAbs < UInt64.size := by
    have : Nat.pow 2 63 < UInt64.size := by decide
    omega
  have hplain : (ofInt n).isPlain = true := by simp [isPlain, ofInt, hvalue, hsize]
  rw [toNumber?, if_pos hplain, integer]
  simp only [ofInt, hvalue]
  by_cases hneg : n < 0
  · have hn : -(n.natAbs : Int) = n := by omega
    rw [if_neg (by simp [hneg]), if_neg (by omega), hn]
  · have hn : (n.natAbs : Int) = n := by omega
    rw [if_pos (by simp [hneg]), hn]

variable {p : NumeralParts} {n : Number}

/-- What is read is finite, and in its narrowest holder. -/
theorem finite_of_toNumber? (h : p.toNumber? = some n) : n.IsFinite ∧ n.held = n := by
  rw [toNumber?] at h
  split at h
  · next hplain =>
      have hsize : ofDigits p.whole < UInt64.size := by
        simp only [isPlain, Bool.and_eq_true, decide_eq_true_eq] at hplain
        exact hplain.2
      have hmin : Int64.minValue.toInt = -(Nat.pow 2 63 : Nat) := rfl
      obtain rfl := Option.some.inj h
      rw [integer]
      split
      · exact ⟨Number.isFinite_ofInt (by omega) (by omega), Number.held_ofInt _⟩
      · split
        · refine ⟨?_, rfl⟩
          have hfinite : (Double.ofInt (ofDigits p.whole)).isFinite = true :=
            Double.isFinite_ofInt (by simpa using hsize)
          rw [Double.ofInt_natCast] at hfinite
          rwa [Number.IsFinite, Double.isFinite_neg]
        · exact ⟨Number.isFinite_ofInt (by omega) (by omega), Number.held_ofInt _⟩
  · obtain ⟨x, hx, rfl⟩ := Option.map_eq_some_iff.1 h
    exact ⟨Decimal.isFinite_of_scaled? hx, rfl⟩

end NumeralParts

/-- A number is read where there is a numeral, unless it is lost beyond every double. -/
theorem readNumber_eq_ok_iff {cs rest : List Char} {n : Number} :
    readNumber cs = .ok (n, rest)
      ↔ ∃ parts, readParts cs = .ok (parts, rest) ∧ parts.toNumber? = some n := by
  simp only [readNumber, Except.bind_eq_ok_iff]
  constructor
  · rintro ⟨⟨parts, rest⟩, hparts, h⟩
    simp only at h
    split at h
    · next hn =>
        cases h
        exact ⟨parts, hparts, hn⟩
    · cases h
  · rintro ⟨parts, hparts, hn⟩
    refine ⟨(parts, rest), hparts, ?_⟩
    simp only [hn]
    rfl

/-- A numeral starts with a digit or a minus sign. -/
theorem exists_cons_of_readParts {cs rest : List Char} {p : NumeralParts}
    (h : readParts cs = .ok (p, rest)) :
    ∃ c after, cs = c :: after ∧ (c = '-' ∨ c.isDigit = true) := by
  obtain ⟨cs₁, _, _, hsigned, hwhole, -⟩ := readParts_eq_ok_iff.1 h
  generalize p.negative = negative at hsigned
  cases hsigned with
  | minus => exact ⟨'-', cs₁, rfl, Or.inl rfl⟩
  | none =>
      obtain ⟨c, after, rfl, hc⟩ := exists_cons_of_readWhole hwhole
      exact ⟨c, after, rfl, Or.inr hc⟩

theorem exists_cons_of_readNumber {cs rest : List Char} {n : Number}
    (h : readNumber cs = .ok (n, rest)) :
    ∃ c after, cs = c :: after ∧ (c = '-' ∨ c.isDigit = true) := by
  obtain ⟨p, hparts, -⟩ := readNumber_eq_ok_iff.1 h
  exact exists_cons_of_readParts hparts

/-! ## Numbers that are read back -/

end Json

/-- The text of the number is read as the number. -/
def Number.ReadsBack (n : Number) : Prop :=
  n.IsFinite → Json.readNumber (Json.numberText n) = .ok (n.held, [])

instance (n : Number) : Decidable n.IsFinite :=
  match n with
  | .signed _ | .unsigned _ => .isTrue trivial
  | .double x => inferInstanceAs (Decidable (x.isFinite = true))

instance (n : Number) : Decidable n.ReadsBack := inferInstanceAs (Decidable (_ → _ = _))

namespace Number

/-- The number as it is held, if it is finite: an infinity or a NaN is never read. -/
def held? (n : Number) : Option Number := if n.IsFinite then some n.held else none

theorem givesWhen_held? (n : Number) : GivesWhen n.held? n.IsFinite n.held :=
  ⟨fun h => if_pos h, fun h => if_neg h⟩

end Number

namespace Json

open Numeral

variable {n : Number}

/-- The text of a double is a numeral, never a plain integer, with the double next to it. -/
theorem exists_parts_of_double {x : Double} (hx : x.isFinite = true) :
    ∃ p : NumeralParts, p.WellFormed ∧ numberText (.double x) = p.chars numeralLayout.signedPower
      ∧ p.isPlain = false ∧ p.decimal.toDouble = x := by
  obtain ⟨negative, m, rfl⟩ : ∃ negative m, x = .finite negative m := by
    cases x with
    | finite negative m => exact ⟨negative, m, rfl⟩
    | _ => simp [Double.isFinite] at hx
  obtain ⟨p, hp, htext, hplain, hvalue⟩ := exists_parts_of_textOfDecimal numeralLayout
    (Double.shortest numeralLayout.tie negative m)
  exact ⟨p, hp, htext, hplain, by rw [hvalue, Double.shortest_toDouble]⟩

/-- The text of an integer is the numeral of its parts. -/
theorem numberText_signed (n : Int64) :
    numberText (.signed n) = (NumeralParts.ofInt n.toInt).chars false := by
  by_cases hneg : n.toInt < 0
  · simp [numberText, NumeralParts.ofInt, NumeralParts.chars, hneg]
  · simp [numberText, NumeralParts.ofInt, NumeralParts.chars, hneg]

theorem numberText_unsigned (n : UInt64) :
    numberText (.unsigned n) = (NumeralParts.ofInt n.toNat).chars false := by
  simp [numberText, NumeralParts.ofInt, NumeralParts.chars]

/-- The text of a finite number is a numeral. -/
theorem exists_parts_of_numberText (hn : n.IsFinite) :
    ∃ (plus : Bool) (p : NumeralParts), p.WellFormed ∧ numberText n = p.chars plus := by
  cases n with
  | signed n => exact ⟨false, _, NumeralParts.ofInt_wellFormed _, numberText_signed n⟩
  | unsigned n => exact ⟨false, _, NumeralParts.ofInt_wellFormed _, numberText_unsigned n⟩
  | double x =>
      obtain ⟨p, hp, htext, -⟩ := exists_parts_of_double hn
      exact ⟨_, p, hp, htext⟩

/-- A number that is read back is so whatever ends it. -/
theorem readNumber_numberText (hn : n.IsFinite) (hread : n.ReadsBack) {rest : List Char}
    (hrest : EndsValue rest) : readNumber (numberText n ++ rest) = .ok (n.held, rest) := by
  obtain ⟨plus, p, hp, htext⟩ := exists_parts_of_numberText hn
  have hparts : readParts (numberText n) = .ok (p, []) := by
    have := readParts_chars plus hp endsValue_nil
    rwa [List.append_nil, ← htext] at this
  obtain ⟨p', hparts', hvalue⟩ := readNumber_eq_ok_iff.1 (hread hn)
  rw [hparts] at hparts'
  cases hparts'
  exact readNumber_eq_ok_iff.2 ⟨p, htext ▸ readParts_chars plus hp hrest, hvalue⟩

/-- The text of a finite number starts with a digit or a minus sign. -/
theorem head_numberText (hn : n.IsFinite) :
    ∃ c cs, numberText n = c :: cs ∧ (c = '-' ∨ c.isDigit = true) := by
  obtain ⟨plus, p, hp, htext⟩ := exists_parts_of_numberText hn
  obtain ⟨c, cs, hwhole⟩ := List.exists_cons_of_ne_nil hp.whole.ne_nil
  rw [htext]
  cases hneg : p.negative with
  | true =>
      exact ⟨'-', _, by rw [NumeralParts.chars, hneg]; rfl, Or.inl rfl⟩
  | false =>
      refine ⟨c, _, by rw [NumeralParts.chars, hneg, hwhole]; rfl, Or.inr ?_⟩
      exact hp.whole.allDigits c (by rw [hwhole]; simp)

end Json

namespace Number

open Json

/-- A number is read back when the parts of its text stand for it. -/
theorem readsBack_of_parts {n : Number} {plus : Bool} {p : NumeralParts} (hp : p.WellFormed)
    (htext : numberText n = p.chars plus) (hvalue : p.toNumber? = some n.held) : n.ReadsBack := by
  intro _
  have hparts := readParts_chars plus hp endsValue_nil
  rw [List.append_nil, ← htext] at hparts
  exact readNumber_eq_ok_iff.2 ⟨p, hparts, hvalue⟩

theorem readsBack_signed (n : Int64) : (signed n).ReadsBack := by
  refine readsBack_of_parts (NumeralParts.ofInt_wellFormed _) (numberText_signed n) ?_
  have hend : n.toInt < UInt64.size := Int.lt_of_lt_of_le n.toInt_lt (by decide)
  rw [NumeralParts.toNumber?_ofInt n.minValue_le_toInt hend, ofInt_toInt, held_signed]

theorem readsBack_unsigned (n : UInt64) : (unsigned n).ReadsBack := by
  refine readsBack_of_parts (NumeralParts.ofInt_wellFormed _) (numberText_unsigned n) ?_
  have hleast : Int64.minValue.toInt ≤ (n.toNat : Int) :=
    Int.le_trans (by decide) (Int.natCast_nonneg _)
  exact NumeralParts.toNumber?_ofInt hleast (Int.ofNat_lt.2 n.toNat_lt)

/-- A double whose text has few digits and no large power of ten is read back. -/
theorem readsBack_of_isShort {x : Double}
    (hshort : ∀ p : NumeralParts, numberText (.double x) = p.chars numeralLayout.signedPower →
      p.WellFormed → p.decimal.IsShort) : (double x).ReadsBack := by
  intro hx
  obtain ⟨p, hp, htext, hplain, hvalue⟩ := exists_parts_of_double hx
  refine readsBack_of_parts hp htext ?_ hx
  rw [NumeralParts.toNumber?_of_isShort hplain (hshort p htext hp), hvalue, held_double]

end Number

end RuleFilter
