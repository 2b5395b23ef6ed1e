import RuleFilter.Proofs.Json.Literal
import RuleFilter.Proofs.Matcher.Meaning
import RuleFilter.Proofs.Predicate.Ordering
import RuleFilter.Proofs.Rule.Decoding
import RuleFilter.Value.Candidate

set_option autoImplicit false

/-! # Rules on integers compare integers

An integer reaches a comparison by many ways: a candidate is held in one of ten widths, as a double
or as the number of a document (`Value.HoldsInteger`), and a reference is given in one of these or
decoded from a rule (`OrderedReference.IsInteger`). Up to `2⁵³` every way ends at a double that is
the integer, so what the rules ask is asked of the integers (`Rule.integers_are_compared`). -/

namespace RuleFilter

/-! ## Ways of an integer -/

/-- The value is the integer: held in one of the widths or as a double, or read from its literal. -/
inductive Value.HoldsInteger : Value → Int → Prop
  | int8 (n : Int8) : HoldsInteger (Candidate.value n) n.toInt
  | int16 (n : Int16) : HoldsInteger (Candidate.value n) n.toInt
  | int32 (n : Int32) : HoldsInteger (Candidate.value n) n.toInt
  | int64 (n : Int64) : HoldsInteger (Candidate.value n) n.toInt
  | isize (n : ISize) : HoldsInteger (Candidate.value n) n.toInt
  | uint8 (n : UInt8) : HoldsInteger (Candidate.value n) n.toNat
  | uint16 (n : UInt16) : HoldsInteger (Candidate.value n) n.toNat
  | uint32 (n : UInt32) : HoldsInteger (Candidate.value n) n.toNat
  | uint64 (n : UInt64) : HoldsInteger (Candidate.value n) n.toNat
  | usize (n : USize) : HoldsInteger (Candidate.value n) n.toNat
  | double {x : Double} {k : Int} (h : x.HasValue k) : HoldsInteger (Candidate.value x) k
  | document {literal : String} {k : Int} {d : Json} (hliteral : Json.IsLiteral literal k)
      (hread : Json.ofText literal = .ok d) : HoldsInteger (Candidate.value d) k

/-- Of whatever width, an integer of at most `2⁵³` is compared as itself. -/
theorem Value.HoldsInteger.exists_number {v : Value} {k : Int} (h : v.HoldsInteger k)
    (hk : k.natAbs ≤ Nat.pow 2 53) : ∃ n : Number, v = number n ∧ n.toDouble.HasValue k := by
  have hsigned {n : Int64} (hn : n.toInt = k) :
      ∃ m : Number, number (.signed n) = number m ∧ m.toDouble.HasValue k := by
    subst hn
    exact ⟨_, rfl, Number.hasValue_signed hk⟩
  have hunsigned {n : UInt64} (hn : (n.toNat : Int) = k) :
      ∃ m : Number, number (.unsigned n) = number m ∧ m.toDouble.HasValue k := by
    subst hn
    exact ⟨_, rfl, Number.hasValue_unsigned hk⟩
  cases h with
  | int8 n => exact hsigned n.toInt_toInt64
  | int16 n => exact hsigned n.toInt_toInt64
  | int32 n => exact hsigned n.toInt_toInt64
  | int64 n => exact hsigned rfl
  | isize n => exact hsigned n.toInt_toInt64
  | uint8 n => exact hunsigned (congrArg Int.ofNat n.toNat_toUInt64)
  | uint16 n => exact hunsigned (congrArg Int.ofNat n.toNat_toUInt64)
  | uint32 n => exact hunsigned (congrArg Int.ofNat n.toNat_toUInt64)
  | uint64 n => exact hunsigned rfl
  | usize n => exact hunsigned (congrArg Int.ofNat n.toNat_toUInt64)
  | double h => exact ⟨_, rfl, h⟩
  | document hliteral hread =>
      obtain ⟨n, hvalue, -, htext, -⟩ := hliteral.exists_spelled hk
      cases htext.symm.trans hread
      exact ⟨n.held, rfl, n.toDouble_held.symm ▸ hvalue⟩

/-! ## The text of a rule -/

namespace RuleSet

/-- The text of one rule, with a literal as its reference. -/
def literalText (field tag literal : String) : String :=
  "[[\x7b\"field\":" ++ (Json.string field).text ++ (",\"type\":" ++ (Json.string tag).text
    ++ (",\"value\":" ++ literal ++ "\x7d]]"))

/-- The marks and parts of that text, one after the other. -/
theorem toList_literalText (field tag literal : String) :
    (literalText field tag literal).toList
      = '[' :: '[' :: '\x7b' :: (Json.stringText "field" ++ ':' :: (Json.stringText field
        ++ ',' :: (Json.stringText "type" ++ ':' :: (Json.stringText tag
        ++ ',' :: (Json.stringText "value"
        ++ ':' :: (literal.toList ++ ['\x7d', ']', ']'])))))) := by
  simp only [literalText, String.toList_append, Json.text, String.toList_ofList, Json.render,
    List.append_assoc]
  rfl

/-- What the text spells, as long as the literal spells the number. -/
theorem spells_literalText (field tag : String) {literal : String} {n : Number}
    (h : ∀ rest, Json.EndsValue rest →
      Json.Spelled (.number n) (literal.toList ++ rest) rest) :
    Json.Spells (literalText field tag literal) (.array [.array [.object
      [("field", .string field), ("type", .string tag), ("value", .number n)]]]) := by
  have hstring (s : String) (cs : List Char) :
      Json.Spelled (.string s) (Json.stringText s ++ ',' :: cs) (',' :: cs) :=
    Json.spelled_render (.string s) trivial (List.forall_mem_nil _) (Json.endsValue_comma cs)
  have hvalue := h ['\x7d', ']', ']'] (Json.endsValue_brace _)
  refine ⟨[], ?_, rfl⟩
  rw [toList_literalText]
  refine ⟨_, Json.skipBlanks_cons rfl _, _, [']'],
    Json.nextItem_of_startsValue ⟨'[', _, rfl, rfl, by decide⟩, ?_, rfl, rfl⟩
  refine ⟨_, Json.skipBlanks_cons rfl _, _, [']', ']'],
    Json.nextItem_of_startsValue ⟨'\x7b', _, rfl, rfl, by decide⟩, ?_, rfl, rfl⟩
  refine ⟨_, Json.skipBlanks_cons rfl _, ?_⟩
  -- the three members, each from its key to what ends its value
  exact ⟨_, _, _, _, _, Json.nextKey_stringText _ _, Json.readString_flatMap_escape _ _,
      Json.readColon_colon _, hstring field _,
    _, _, _, _, _, Json.nextKey_comma_stringText _ _, Json.readString_flatMap_escape _ _,
      Json.readColon_colon _, hstring tag _,
    _, _, _, _, _, Json.nextKey_comma_stringText _ _, Json.readString_flatMap_escape _ _,
      Json.readColon_colon _, hvalue, rfl⟩

/-- A rule is decoded with the integer its literal says. -/
theorem exists_ofText_literalText {literal : String} {k : Int} (h : Json.IsLiteral literal k)
    (hk : k.natAbs ≤ Nat.pow 2 53) (field tag : String) :
    ∃ x : Double, x.HasValue k
      ∧ ofText (literalText field tag literal) = .ok [[⟨field, tag, .number x⟩]] := by
  obtain ⟨n, hvalue, hfinite, -, hspelled⟩ := h.exists_spelled hk
  let d : Json := .array [.array [.object
    [("field", .string field), ("type", .string tag), ("value", .number n)]]]
  have hflat : d.depth < Json.nestingBudget := by
    simp [d, Json.depth, Json.depthItems, Json.depthMembers, Json.nestingBudget]
  have hreference : OrderedReference.ofJson? (.number n) = some (.number n.toDouble) :=
    (OrderedReference.givesWhen_ofJson? (.number n)).eq_some hfinite
  have hdocument : ofDocument? d = some [[⟨field, tag, .number n.toDouble⟩]] := by
    simp only [d, ofDocument?, Json.arrayOf?, List.mapM_cons, List.mapM_nil, Rule.ofDocument?,
      List.foldlM_cons, List.foldlM_nil, RuleDraft.take, Json.string?, hreference]
    rfl
  obtain ⟨hok, -⟩ := ofText_of_spells (spells_literalText field tag hspelled) hflat
  exact ⟨n.toDouble, hvalue, hok _ hdocument⟩

end RuleSet

/-- The reference is the integer: given in one of the widths, or decoded from its literal. -/
inductive OrderedReference.IsInteger : OrderedReference → Int → Prop
  | given {n : Number} {k : Int} (h : (Value.number n).HoldsInteger k) : IsInteger (.ofNumber n) k
  | decoded {field tag literal : String} {r : OrderedReference} {k : Int}
      (hliteral : Json.IsLiteral literal k)
      (hread : RuleSet.ofText (RuleSet.literalText field tag literal) = .ok [[⟨field, tag, r⟩]]) :
      IsInteger r k

theorem OrderedReference.IsInteger.exists_number {r : OrderedReference} {k : Int}
    (h : r.IsInteger k)
    (hk : k.natAbs ≤ Nat.pow 2 53) : ∃ x : Double, r = number x ∧ x.HasValue k := by
  cases h with
  | given h =>
      obtain ⟨n, hn, hvalue⟩ := h.exists_number hk
      cases hn
      exact ⟨_, rfl, hvalue⟩
  | @decoded field tag literal r k hliteral hread =>
      obtain ⟨x, hvalue, hok⟩ := RuleSet.exists_ofText_literalText hliteral hk field tag
      cases hok.symm.trans hread
      exact ⟨x, rfl, hvalue⟩

/-! ## Comparison -/

namespace Rule

open Predicate (answer answer_orderTest_tag answer_negatedTag)

variable {n : Number} {x : Double} {a b : Int}

theorem orderTo_of_hasValue (hn : n.toDouble.HasValue a) (hx : x.HasValue b) :
    (Value.number n).orderTo x = some (compare a b) :=
  Double.compare_of_hasValue hn hx

theorem answer_equal_of_hasValue (hn : n.toDouble.HasValue a) (hx : x.HasValue b) :
    answer Operator.equal.tag (.number x) (.number n) = .ok (decide (a = b)) := by
  have hequal : answer Operator.equal.tag (.number x) (.number n)
      = .ok ((Value.number n).orderTo x == some .eq) := rfl
  have hdecide : (some (compare a b) == some .eq) = decide (a = b) := by
    rw [Bool.eq_iff_iff, beq_iff_eq, Option.some.injEq, Int.compare_eq_eq, decide_eq_true_iff]
  rw [hequal, orderTo_of_hasValue hn hx, hdecide]

theorem answer_orderTest_of_hasValue (hn : n.toDouble.HasValue a) (hx : x.HasValue b)
    (test : OrderTest) :
    answer test.operator.tag (.number x) (.number n) = .ok (decide (test.Holds a b)) := by
  rw [answer_orderTest_tag, orderTo_of_hasValue hn hx, Option.map_some, Option.getD_some,
    test.accepts_compare]

/-- **Rules on integers compare integers.** Every literal of an integer of at most `2⁵³` can be
read, as a document and as the reference of a rule. Where a candidate is one such integer and a
reference is another, in whatever ways they came, equality and the ordering operators hold of them
as they hold of the integers, and the negated ones hold where these do not. -/
theorem integers_are_compared :
    (∀ (literal : String) (k : Int), Json.IsLiteral literal k → k.natAbs ≤ Nat.pow 2 53 →
        (∃ d, Json.ofText literal = .ok d)
        ∧ ∀ field tag, ∃ r,
          RuleSet.ofText (RuleSet.literalText field tag literal) = .ok [[⟨field, tag, r⟩]])
      ∧ ∀ (v : Value) (r : OrderedReference) (a b : Int), v.HoldsInteger a → r.IsInteger b →
        a.natAbs ≤ Nat.pow 2 53 → b.natAbs ≤ Nat.pow 2 53 →
        ∀ (field : String) (source : Option String) (root : Value),
          FieldPath.resolve ⟨field⟩ source root = .ok (some v) →
          (ofOperator field .equal r).outcome source root = .ok (decide (a = b))
          ∧ (ofNegated field .equal r).outcome source root = .ok (!decide (a = b))
          ∧ ∀ test : OrderTest,
            (ofOperator field test.operator r).outcome source root
              = .ok (decide (test.Holds a b))
            ∧ (ofNegated field test.operator r).outcome source root
              = .ok (!decide (test.Holds a b)) := by
  constructor
  · intro literal k hliteral hk
    obtain ⟨n, -, -, hread, -⟩ := hliteral.exists_spelled hk
    refine ⟨⟨_, hread⟩, fun field tag => ?_⟩
    obtain ⟨x, -, hok⟩ := RuleSet.exists_ofText_literalText hliteral hk field tag
    exact ⟨_, hok⟩
  · intro v r a b hv hr ha hb field source root hfound
    obtain ⟨n, rfl, hn⟩ := hv.exists_number ha
    obtain ⟨x, rfl, hx⟩ := hr.exists_number hb
    have houtcome (tag : String) :
        Rule.outcome source root ⟨field, tag, .number x⟩ = answer tag (.number x) (.number n) :=
      outcome_of_resolve hfound
    have hequal := answer_equal_of_hasValue hn hx
    refine ⟨(houtcome _).trans hequal, (houtcome _).trans ?_, fun test => ?_⟩
    · rw [answer_negatedTag, hequal]
      rfl
    · have hordered := answer_orderTest_of_hasValue hn hx test
      refine ⟨(houtcome _).trans hordered, (houtcome _).trans ?_⟩
      rw [answer_negatedTag, hordered]
      rfl

/-- The largest integers of both signs, in widths of their own, and minus zero as it is written. -/
theorem integers_are_compared_at_bounds :
    let largest : Value := .number (.unsigned 9007199254740992)
    let smallest : OrderedReference := .ofNumber (.signed (-9007199254740992))
    let zero : Value := .map [("n", .number (.signed 0))]
    (ofOperator "" .greater smallest).outcome none largest = .ok true
      ∧ (ofNegated "" .equal smallest).outcome none largest = .ok true
      ∧ ∃ r, RuleSet.ofText (RuleSet.literalText "n" "==" "-0") = .ok [[⟨"n", "==", r⟩]]
        ∧ (ofOperator "n" .equal r).outcome none zero = .ok true := by
  obtain ⟨hread, hcompare⟩ := integers_are_compared
  intro largest smallest zero
  have hlargest : largest.HoldsInteger 9007199254740992 := .uint64 9007199254740992
  have hsmallest : smallest.IsInteger (-9007199254740992) := .given (.int64 (-9007199254740992))
  obtain ⟨-, hdiffer, hordered⟩ :=
    hcompare _ _ _ _ hlargest hsmallest (by decide) (by decide) "" none largest rfl
  have hliteral : Json.IsLiteral "-0" 0 := .minus (.inl rfl)
  obtain ⟨-, hrule⟩ := hread "-0" 0 hliteral (by decide)
  obtain ⟨r, hr⟩ := hrule "n" "=="
  obtain ⟨hequal, -⟩ :=
    hcompare _ r _ _ (.int8 0) (.decoded hliteral hr) (by decide) (by decide) "n" none zero rfl
  exact ⟨(hordered .greater).1, hdiffer, r, hr, hequal⟩

end Rule

end RuleFilter
