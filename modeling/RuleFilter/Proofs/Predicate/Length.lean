import RuleFilter.Proofs.Double.Exact
import RuleFilter.Proofs.Predicate.Ordering

set_option autoImplicit false

/-! # Lengths are compared as integers

A text stands in order by its bytes of UTF-8, a list by its items and a map by its entries
(`Value.HasLength`). The comparison is made among doubles, but nothing of it is rounded: a length of
at most `2⁵³` is a double, and the whole part of a reference is one. So the operators compare the
length with an integer, the one that is left of the reference when its fraction is dropped
(`Value.lengths_are_compared_as_integers`), and that may be any integer a double reaches. -/

namespace RuleFilter

namespace Text

/-- The bytes that characters take in UTF-8, one to four each. -/
def utf8Length : List Char → Nat
  | [] => 0
  | c :: cs => c.utf8Size + utf8Length cs

theorem utf8ByteSize_ofList (cs : List Char) :
    (String.ofList cs).utf8ByteSize = utf8Length cs := by
  induction cs with
  | nil => rfl
  | cons c cs ih =>
      rw [String.ofList_cons, String.utf8ByteSize_append, String.utf8ByteSize_singleton, ih,
        utf8Length]

/-- The size of a text is that of its characters. -/
theorem utf8Length_toList (s : String) : utf8Length s.toList = s.utf8ByteSize := by
  rw [← utf8ByteSize_ofList, String.ofList_toList]

end Text

namespace Value

open Predicate (answer answer_orderTest_tag)

/-- The value is a text of so many bytes of UTF-8, a list of so many items or a map of so many
entries. -/
inductive HasLength : Value → Nat → Prop
  | string (s : String) : HasLength (string s) (Text.utf8Length s.toList)
  | list (items : List Value) : HasLength (list items) items.length
  | map (entries : List (String × Value)) : HasLength (map entries) entries.length

variable {v : Value} {n : Nat} {x : Double}

theorem HasLength.orderTo (h : v.HasLength n) (x : Double) :
    v.orderTo x = (Double.ofNat n).compare x.trunc := by
  have hoperand : v.operand? = some (.length n) := by
    cases h with
    | string s =>
        rw [Text.utf8Length_toList]
        rfl
    | list _ | map _ => rfl
  rw [Value.orderTo, hoperand, Option.bind_some, Operand.compare]

/-- A length and the whole part of a reference are compared as the integers they are. -/
theorem HasLength.orderTo_of_isFinite (h : v.HasLength n) (hn : n ≤ Nat.pow 2 53)
    (hx : x.isFinite = true) : v.orderTo x = some (compare (n : Int) x.integerPart) := by
  rw [h.orderTo, Double.compare_of_hasValue (Double.hasValue_ofNat hn) (Double.hasValue_trunc hx)]

/-- Every length there is lies between the infinities. -/
theorem HasLength.orderTo_infinity (h : v.HasLength n) (hn : n < UInt64.size) :
    v.orderTo (.infinity false) = some .lt ∧ v.orderTo (.infinity true) = some .gt := by
  have hfinite : (Double.ofNat n).isFinite = true := by
    rw [← Double.ofInt_natCast]
    exact Double.isFinite_ofInt hn
  rw [h.orderTo, h.orderTo]
  exact Double.compare_infinity hfinite

/-- **Lengths are compared as integers.** The operators ask how a length of at most `2⁵³` lies to
the integer that is left of the reference when its fraction is dropped. Every length that a value
can have is below the positive infinity and above the negative one, and no length satisfies anything
with a NaN. -/
theorem lengths_are_compared_as_integers (h : v.HasLength n) (test : OrderTest) :
    (n ≤ Nat.pow 2 53 → ∀ x : Double, x.isFinite = true →
        answer test.operator.tag (.number x) v = .ok (decide (test.Holds n x.integerPart)))
      ∧ (n < UInt64.size →
          answer test.operator.tag (.number (.infinity false)) v = .ok (test.accepts .lt)
          ∧ answer test.operator.tag (.number (.infinity true)) v = .ok (test.accepts .gt))
      ∧ answer test.operator.tag (.number .nan) v = .ok false := by
  refine ⟨fun hn x hx => ?_, fun hn => ?_, ?_⟩
  · rw [answer_orderTest_tag, h.orderTo_of_isFinite hn hx, Option.map_some, Option.getD_some,
      test.accepts_compare]
  · obtain ⟨hbelow, habove⟩ := h.orderTo_infinity hn
    rw [answer_orderTest_tag, answer_orderTest_tag, hbelow, habove]
    exact ⟨rfl, rfl⟩
  · exact answer_of_orderTo_eq_none (orderTo_eq_none (.inr rfl)) test

/-- One letter of two bytes is neither longer nor shorter than two and a half, and an empty list not
longer than minus a half. Both are shorter than infinitely many, and no more than that. -/
theorem lengths_are_compared_as_integers_of_letter :
    answer ">=" (.number (Double.ofRatio false 5 2)) (string "é") = .ok true
      ∧ answer ">" (.number (Double.ofRatio true 1 2)) (list []) = .ok false
      ∧ answer "<=" (.number (.infinity false)) (string "é") = .ok true
      ∧ answer "<" (.number (.infinity true)) (list []) = .ok false
      ∧ answer ">=" (.number .nan) (string "é") = .ok false := by
  have hletter : (string "é").HasLength 2 := .string "é"
  have hlist : (list []).HasLength 0 := .list []
  have htwo : (Double.ofRatio false 5 2).isFinite = true
      ∧ (Double.ofRatio false 5 2).integerPart = 2 := by decide +kernel
  have hzero : (Double.ofRatio true 1 2).isFinite = true
      ∧ (Double.ofRatio true 1 2).integerPart = 0 := by decide +kernel
  obtain ⟨hfinite, -, hnan⟩ := lengths_are_compared_as_integers hletter .greaterOrEqual
  obtain ⟨-, hinfinite, -⟩ := lengths_are_compared_as_integers hletter .lessOrEqual
  obtain ⟨hnegative, -, -⟩ := lengths_are_compared_as_integers hlist .greater
  obtain ⟨-, hbelow, -⟩ := lengths_are_compared_as_integers hlist .less
  refine ⟨?_, ?_, (hinfinite (by decide)).1, (hbelow (by decide)).2, hnan⟩
  · exact (hfinite (by decide) _ htwo.1).trans (by rw [htwo.2]; rfl)
  · exact (hnegative (by decide) _ hzero.1).trans (by rw [hzero.2]; rfl)

end Value

end RuleFilter
