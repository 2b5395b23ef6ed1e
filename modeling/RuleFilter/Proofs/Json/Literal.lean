import RuleFilter.Proofs.Double.Exact
import RuleFilter.Proofs.Json.Decoding

set_option autoImplicit false

/-! # Literals of integers

The literal of an integer is its digits, behind a minus sign where it is negative
(`Json.IsLiteral`); zero may have that sign as well, and is then a double. Up to `2⁵³` the number
that is read is the integer (`Json.IsLiteral.exists_number`), as a document by itself and wherever a
value may stand in another text (`Json.IsLiteral.exists_spelled`). -/

namespace RuleFilter

namespace Json

open Numeral

/-- The text is the numeral of the integer: its digits, and a minus sign perhaps. -/
inductive IsLiteral : String → Int → Prop
  | digits {cs : List Char} (h : IsWhole cs) : IsLiteral (String.ofList cs) (ofDigits cs)
  | minus {cs : List Char} (h : IsWhole cs) : IsLiteral (String.ofList ('-' :: cs)) (-ofDigits cs)

/-- The parts of a literal: a sign and digits, with neither point nor power. -/
theorem IsLiteral.exists_parts {text : String} {k : Int} (h : IsLiteral text k) :
    ∃ negative cs, IsWhole cs ∧ text.toList = (NumeralParts.mk negative cs none none).chars false
      ∧ (if negative then -(ofDigits cs : Int) else ofDigits cs) = k := by
  cases h with
  | @digits cs h => exact ⟨false, cs, h, by simp [NumeralParts.chars], rfl⟩
  | @minus cs h => exact ⟨true, cs, h, by simp [NumeralParts.chars], rfl⟩

/-- The number of a sign and digits is an integer that is held as it was read, or minus zero. -/
theorem NumeralParts.toNumber?_of_integer {negative : Bool} {cs : List Char} {k : Int}
    (h : (if negative then -(ofDigits cs : Int) else ofDigits cs) = k)
    (hk : k.natAbs ≤ Nat.pow 2 53) :
    (NumeralParts.mk negative cs none none).toNumber? = some (.ofInt k)
      ∨ k = 0
        ∧ (NumeralParts.mk negative cs none none).toNumber? = some (.double (.zero true)) := by
  have hsize : Nat.pow 2 53 < UInt64.size ∧ Nat.pow 2 53 ≤ Nat.pow 2 63 := by decide
  simp only [toNumber?, isPlain, integer, Option.isNone_none, Bool.true_and, decide_eq_true_eq]
  generalize ofDigits cs = magnitude at h ⊢
  have hplain : magnitude < UInt64.size := by
    split at h <;> omega
  rw [if_pos hplain]
  cases negative with
  | false =>
      rw [if_neg Bool.false_ne_true] at h
      rw [if_pos (by rfl), h]
      exact .inl rfl
  | true =>
      rw [if_pos rfl] at h
      rw [if_neg (by decide)]
      by_cases hzero : magnitude = 0
      · rw [if_pos (.inl hzero), hzero]
        exact .inr ⟨by omega, by decide +kernel⟩
      · rw [if_neg (by omega), h]
        exact .inl rfl

/-- **A literal is read as its integer**, whatever ends it, and the number is held as it was
read. -/
theorem IsLiteral.exists_number {text : String} {k : Int} (h : IsLiteral text k)
    (hk : k.natAbs ≤ Nat.pow 2 53) :
    ∃ n : Number, n.toDouble.HasValue k ∧ n.IsFinite ∧ n.held = n
      ∧ ∀ rest, EndsValue rest → readNumber (text.toList ++ rest) = .ok (n, rest) := by
  obtain ⟨negative, cs, hwhole, htext, hvalue⟩ := h.exists_parts
  obtain ⟨n, hn, hvalue⟩ : ∃ n : Number,
      (NumeralParts.mk negative cs none none).toNumber? = some n ∧ n.toDouble.HasValue k := by
    rcases NumeralParts.toNumber?_of_integer hvalue hk with hn | ⟨rfl, hn⟩
    · exact ⟨_, hn, Number.hasValue_ofInt hk⟩
    · exact ⟨_, hn, Double.hasValue_zero true⟩
  obtain ⟨hfinite, hheld⟩ := NumeralParts.finite_of_toNumber? hn
  refine ⟨n, hvalue, hfinite, hheld, fun rest hrest => readNumber_eq_ok_iff.2 ⟨_, ?_, hn⟩⟩
  rw [htext]
  exact readParts_chars false ⟨hwhole, by simp⟩ hrest

/-- The literal of an integer is one of the texts of its number, wherever a value may stand. -/
theorem IsLiteral.exists_spelled {text : String} {k : Int} (h : IsLiteral text k)
    (hk : k.natAbs ≤ Nat.pow 2 53) :
    ∃ n : Number, n.toDouble.HasValue k ∧ n.IsFinite ∧ ofText text = .ok (number n)
      ∧ ∀ rest, EndsValue rest → Spelled (number n) (text.toList ++ rest) rest := by
  obtain ⟨n, hvalue, hfinite, hheld, hread⟩ := h.exists_number hk
  have hspelled : ∀ rest, EndsValue rest → Spelled (number n) (text.toList ++ rest) rest := by
    intro rest hrest
    obtain ⟨c, after, hcs, hc⟩ := exists_cons_of_readNumber (hread rest hrest)
    obtain ⟨_, _, hcons, hblank, -⟩ := startsValue_of_numeral hc after
    cases hcons
    rw [spelled_number_iff hfinite, hheld, hcs, skipBlanks_cons hblank, ← hcs]
    exact hread rest hrest
  refine ⟨n, hvalue, hfinite, ?_, hspelled⟩
  have hspells : Spells text (number n) := by
    have hwhole := hspelled [] endsValue_nil
    rw [List.append_nil] at hwhole
    exact ⟨[], hwhole, rfl⟩
  have hflat : (number n).depth < nestingBudget := by simp [depth, nestingBudget]
  rw [ofText_of_spells hspells hfinite hflat, held, hheld]

end Json

end RuleFilter
