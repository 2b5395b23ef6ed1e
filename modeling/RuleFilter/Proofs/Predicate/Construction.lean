import RuleFilter.Predicate
import RuleFilter.Proofs.Traversal

set_option autoImplicit false

/-! # Which predicates can be built

A predicate is built in two steps, and each has a check of its own. The tag has to be the text of an
operator, with one negation in front or none (`OperatorTag.ofText?_eq_some_iff`); then the reference
has to suit the operator (`Operator.Takes`). An unknown tag is complained of whatever the reference
is, and as it was written. A reference that does not suit is complained of under the operator,
whether it was negated or not (`Predicate.Refusal`).

The operators come in families that ask for the same kind of reference: those that order, those that
test a text, patterns, and equality, which asks for nothing (`Operator.families`). What is said of
building is proved family by family. -/

namespace RuleFilter

/-! ## Tags -/

namespace Operator

theorem ofTag?_tag (op : Operator) : ofTag? op.tag = some op := by
  cases op <;> rfl

/-- An operator is found by its own tag and by no other. -/
theorem ofTag?_eq_some_iff {text : String} {op : Operator} :
    ofTag? text = some op ↔ text = op.tag := by
  constructor
  · intro h
    have hfound := List.find?_some h
    simp only [decide_eq_true_eq] at hfound
    exact hfound.symm
  · rintro rfl
    exact ofTag?_tag op

theorem head?_tag_ne_negation (op : Operator) : op.tag.toList.head? ≠ some negation := by
  cases op <;> decide

end Operator

namespace OperatorTag

/-- The tag as it is written. -/
def text (t : OperatorTag) : String :=
  if t.negated then t.operator.negatedTag else t.operator.tag

theorem ofText?_text (t : OperatorTag) : ofText? t.text = some t := by
  obtain ⟨negated, op⟩ := t
  cases negated <;> cases op <;> rfl

/-- A tag is read from the one text in which it is written. -/
theorem ofText?_eq_some_iff {text : String} {t : OperatorTag} :
    ofText? text = some t ↔ text = t.text := by
  constructor
  · intro h
    unfold ofText? at h
    split at h
    · next c rest hchars =>
        split at h
        · next hc =>
            obtain ⟨op, hop, rfl⟩ := Option.map_eq_some_iff.1 h
            have hrest : String.ofList rest = op.tag := Operator.ofTag?_eq_some_iff.1 hop
            have htext : text = String.ofList (c :: rest) := by
              rw [← hchars, String.ofList_toList]
            show text = String.ofList (Operator.negation :: op.tag.toList)
            rw [htext, hc, ← hrest, String.toList_ofList]
        · obtain ⟨op, hop, rfl⟩ := Option.map_eq_some_iff.1 h
          exact Operator.ofTag?_eq_some_iff.1 hop
    · cases h
  · rintro rfl
    exact ofText?_text t

/-- A text is that of one tag only. -/
theorem text_injective {t t' : OperatorTag} (h : t.text = t'.text) : t = t' := by
  have hread : some t = some t' := by
    rw [← ofText?_text t, h, ofText?_text]
  exact Option.some.inj hread

/-- A tag is negated when it begins with the mark of negation. -/
theorem negated_iff_head? (t : OperatorTag) :
    t.negated = true ↔ t.text.toList.head? = some Operator.negation := by
  obtain ⟨negated, op⟩ := t
  cases negated with
  | true => simp [text, Operator.negatedTag]
  | false => simp [text, op.head?_tag_ne_negation]

end OperatorTag

/-! ## References -/

theorem OrderTest.isOrdering_operator (test : OrderTest) : test.operator.isOrdering = true := by
  cases test <;> rfl

namespace Operator

/-- The reference suits the operator. -/
def Takes : Operator → Reference → Prop
  | equal, _ => True
  | less, r | lessOrEqual, r | greater, r | greaterOrEqual, r => r.kind = .number
  | equalFold, r | contains, r | startsWith, r | endsWith, r => r.kind = .string
  | regexp, r => ∃ s, r = .string s ∧ (Pattern.ofText? s).isSome = true

/-- What is wrong with a reference that does not suit the operator. -/
inductive Refuses (op : Operator) (r : Reference) : Error → Prop
  | notNumber (hop : op.isOrdering = true) (h : r.kind ≠ .number) :
      Refuses op r (.invalidReference op .number r.kind)
  | notString (hop : op.isTextual = true) (h : r.kind ≠ .string) :
      Refuses op r (.invalidReference op .string r.kind)
  | noPattern {s : String} (hop : op = regexp) (hr : r = .string s)
      (h : Pattern.ofText? s = none) : Refuses op r .invalidPattern

/-- Every operator is of one family. -/
theorem families (op : Operator) :
    op = equal ∨ (∃ test : OrderTest, op = test.operator) ∨ (∃ test : TextTest, op = test.operator)
      ∨ op = regexp := by
  cases op with
  | equal => exact .inl rfl
  | less => exact .inr (.inl ⟨.less, rfl⟩)
  | lessOrEqual => exact .inr (.inl ⟨.lessOrEqual, rfl⟩)
  | greater => exact .inr (.inl ⟨.greater, rfl⟩)
  | greaterOrEqual => exact .inr (.inl ⟨.greaterOrEqual, rfl⟩)
  | equalFold => exact .inr (.inr (.inl ⟨.equalFold, rfl⟩))
  | contains => exact .inr (.inr (.inl ⟨.contains, rfl⟩))
  | startsWith => exact .inr (.inr (.inl ⟨.startsWith, rfl⟩))
  | endsWith => exact .inr (.inr (.inl ⟨.endsWith, rfl⟩))
  | regexp => exact .inr (.inr (.inr rfl))

variable {op : Operator} {r : Reference} {e : Error}

/-- The operators that put candidates in order are those of the order tests. -/
theorem exists_orderTest (h : op.isOrdering = true) : ∃ test : OrderTest, op = test.operator := by
  rcases op.families with rfl | htest | ⟨test, rfl⟩ | rfl
  · cases h
  · exact htest
  · cases test <;> cases h
  · cases h

theorem not_textual_of_ordering (h : op.isOrdering = true) : ¬ op.isTextual = true := by
  intro htextual
  cases op with
  | equal | equalFold | regexp | contains | startsWith | endsWith => cases h
  | less | lessOrEqual | greater | greaterOrEqual => cases htextual

theorem refuses_iff_of_ordering (h : op.isOrdering = true) :
    op.Refuses r e ↔ r.kind ≠ .number ∧ e = .invalidReference op .number r.kind := by
  constructor
  · intro hrefuses
    cases hrefuses with
    | notNumber _ hkind => exact ⟨hkind, rfl⟩
    | notString hop => exact absurd hop (not_textual_of_ordering h)
    | noPattern hop =>
        subst hop
        cases h
  · rintro ⟨hkind, rfl⟩
    exact .notNumber h hkind

theorem refuses_iff_of_textual (h : op.isTextual = true) (hne : op ≠ regexp) :
    op.Refuses r e ↔ r.kind ≠ .string ∧ e = .invalidReference op .string r.kind := by
  constructor
  · intro hrefuses
    cases hrefuses with
    | notNumber hop => exact absurd h (not_textual_of_ordering hop)
    | notString _ hkind => exact ⟨hkind, rfl⟩
    | noPattern hop => exact absurd hop hne
  · rintro ⟨hkind, rfl⟩
    exact .notString h hkind

theorem refuses_regexp_iff :
    regexp.Refuses r e ↔ (r.kind ≠ .string ∧ e = .invalidReference regexp .string r.kind)
      ∨ ∃ s, r = .string s ∧ Pattern.ofText? s = none ∧ e = .invalidPattern := by
  constructor
  · intro h
    cases h with
    | notNumber hop => cases hop
    | notString _ hkind => exact .inl ⟨hkind, rfl⟩
    | noPattern _ hr hnone => exact .inr ⟨_, hr, hnone, rfl⟩
  · rintro (⟨hkind, rfl⟩ | ⟨s, hr, hnone, rfl⟩)
    · exact .notString rfl hkind
    · exact .noPattern rfl hr hnone

end Operator

namespace Predicate

variable {op : Operator} {r : Reference} {e : Error}

/-! ### The reference an operator needs -/

theorem numberFor_eq_error_iff :
    numberFor op r = .error e ↔ r.kind ≠ .number ∧ e = .invalidReference op .number r.kind := by
  unfold numberFor
  cases r <;> simp [Reference.kind, eq_comm]

theorem exists_numberFor_iff : (∃ x, numberFor op r = .ok x) ↔ r.kind = .number := by
  unfold numberFor
  cases r <;> simp [Reference.kind]

theorem textFor_eq_error_iff :
    textFor op r = .error e ↔ r.kind ≠ .string ∧ e = .invalidReference op .string r.kind := by
  unfold textFor
  cases r <;> simp [Reference.kind, eq_comm]

theorem exists_textFor_iff : (∃ s, textFor op r = .ok s) ↔ r.kind = .string := by
  unfold textFor
  cases r <;> simp [Reference.kind]

/-! ## What is built -/

/-- What comes of an operator and a reference: a predicate of the operator if the reference suits,
and otherwise what is wrong with it. -/
structure BuildsFor (op : Operator) (r : Reference) (result : Except Error Predicate) : Prop where
  accepts : (∃ p, result = .ok p) ↔ op.Takes r
  operator : ∀ p, result = .ok p → p.operator = op ∧ p.isNegated = false
  refuses : ∀ e, result = .error e ↔ op.Refuses r e

/-- A predicate that is made of what the operator needs, and of nothing else. -/
theorem BuildsFor.of_map {α : Type} {need : Except Error α} {make : α → Predicate}
    (htakes : (∃ a, need = .ok a) ↔ op.Takes r)
    (hmake : ∀ a, (make a).operator = op ∧ (make a).isNegated = false)
    (hrefuses : ∀ e, need = .error e ↔ op.Refuses r e) : BuildsFor op r (need.map make) := by
  refine ⟨?_, ?_, fun e => Except.map_eq_error_iff.trans (hrefuses e)⟩
  · rw [← htakes]
    simp only [Except.map_eq_ok_iff]
    constructor
    · rintro ⟨p, a, ha, -⟩
      exact ⟨a, ha⟩
    · rintro ⟨a, ha⟩
      exact ⟨make a, a, ha, rfl⟩
  · intro p h
    obtain ⟨a, -, rfl⟩ := Except.map_eq_ok_iff.1 h
    exact hmake a

theorem buildsFor_equal (r : Reference) : BuildsFor .equal r (ofOperator .equal r) := by
  refine ⟨⟨fun _ => trivial, fun _ => ⟨equal r, rfl⟩⟩, ?_, ?_⟩
  · intro p h
    cases h
    exact ⟨rfl, rfl⟩
  · intro e
    constructor
    · intro h
      cases h
    · intro h
      cases h with
      | notNumber hop | notString hop | noPattern hop => cases hop

theorem ofOperator_orderTest (test : OrderTest) (r : Reference) :
    ofOperator test.operator r = (numberFor test.operator r).map (order test) := by
  cases test <;> rfl

theorem buildsFor_order (test : OrderTest) (r : Reference) :
    BuildsFor test.operator r (ofOperator test.operator r) := by
  have htakes : test.operator.Takes r ↔ r.kind = .number := by
    cases test <;> exact Iff.rfl
  rw [ofOperator_orderTest]
  refine .of_map (exists_numberFor_iff.trans htakes.symm) (fun x => ⟨rfl, rfl⟩) fun e => ?_
  rw [numberFor_eq_error_iff, Operator.refuses_iff_of_ordering test.isOrdering_operator]

theorem ofOperator_textTest (test : TextTest) (r : Reference) :
    ofOperator test.operator r = (textFor test.operator r).map (text test) := by
  cases test <;> rfl

theorem buildsFor_text (test : TextTest) (r : Reference) :
    BuildsFor test.operator r (ofOperator test.operator r) := by
  have htakes : test.operator.Takes r ↔ r.kind = .string := by
    cases test <;> exact Iff.rfl
  have htextual : test.operator.isTextual = true ∧ test.operator ≠ .regexp := by
    cases test <;> decide
  rw [ofOperator_textTest]
  refine .of_map (exists_textFor_iff.trans htakes.symm) (fun s => ⟨rfl, rfl⟩) fun e => ?_
  rw [textFor_eq_error_iff, Operator.refuses_iff_of_textual htextual.1 htextual.2]

/-- The pattern that a reference holds. -/
def patternFor (r : Reference) : Except Error Pattern := do
  match Pattern.ofText? (← textFor .regexp r) with
  | some p => return p
  | none => throw .invalidPattern

theorem patternFor_string (s : String) :
    patternFor (.string s)
      = match Pattern.ofText? s with
        | some p => .ok p
        | none => .error .invalidPattern := by
  show (match Pattern.ofText? s with
    | some p => pure p
    | none => throw .invalidPattern : Except Error Pattern) = _
  cases Pattern.ofText? s <;> rfl

theorem patternFor_of_kind_ne (h : r.kind ≠ .string) :
    patternFor r = .error (.invalidReference .regexp .string r.kind) := by
  unfold patternFor
  rw [textFor_eq_error_iff.2 ⟨h, rfl⟩]
  rfl

theorem exists_patternFor_iff : (∃ p, patternFor r = .ok p) ↔ Operator.regexp.Takes r := by
  show _ ↔ ∃ s, r = .string s ∧ (Pattern.ofText? s).isSome = true
  cases r with
  | string s =>
      rw [patternFor_string]
      cases hpattern : Pattern.ofText? s <;> simp [hpattern]
  | _ =>
      rw [patternFor_of_kind_ne (by simp [Reference.kind])]
      simp

theorem patternFor_eq_error_iff : patternFor r = .error e ↔ Operator.regexp.Refuses r e := by
  rw [Operator.refuses_regexp_iff]
  cases r with
  | string s =>
      rw [patternFor_string]
      cases hpattern : Pattern.ofText? s <;> simp [hpattern, Reference.kind, eq_comm]
  | _ =>
      rw [patternFor_of_kind_ne (by simp [Reference.kind])]
      simp [Reference.kind, eq_comm]

theorem ofOperator_regexp (r : Reference) :
    ofOperator .regexp r = (patternFor r).map pattern := by
  unfold ofOperator patternFor
  cases textFor .regexp r with
  | error e => rfl
  | ok s =>
      simp only [bind, Except.bind]
      cases Pattern.ofText? s <;> rfl

theorem buildsFor_regexp (r : Reference) : BuildsFor .regexp r (ofOperator .regexp r) := by
  rw [ofOperator_regexp]
  exact .of_map exists_patternFor_iff (fun p => ⟨rfl, rfl⟩) fun e => patternFor_eq_error_iff

/-- Every operator is built from the references that suit it, and complains of the others. -/
theorem buildsFor_ofOperator (op : Operator) (r : Reference) :
    BuildsFor op r (ofOperator op r) := by
  rcases op.families with rfl | ⟨test, rfl⟩ | ⟨test, rfl⟩ | rfl
  · exact buildsFor_equal r
  · exact buildsFor_order test r
  · exact buildsFor_text test r
  · exact buildsFor_regexp r

/-! ## Predicates of tags -/

/-- Why there is no predicate of a tag and a reference. -/
inductive Refusal (tag : String) (r : Reference) : Error → Prop
  /-- The tag is that of no operator, as it was written. -/
  | unknown (h : ∀ t : OperatorTag, tag ≠ t.text) : Refusal tag r (.unknownOperator tag)
  /-- The operator, negated or not, does not take the reference. -/
  | reference {t : OperatorTag} {e : Error} (htag : tag = t.text) (h : t.operator.Refuses r e) :
      Refusal tag r e

variable {tag : String}

theorem ofTag_text (t : OperatorTag) (r : Reference) :
    ofTag t.text r = (ofOperator t.operator r).map fun p => if t.negated then not p else p := by
  rw [ofTag, OperatorTag.ofText?_text]

/-- The negated tag makes the negated predicate. -/
theorem ofTag_negatedTag (op : Operator) (r : Reference) :
    ofTag op.negatedTag r = (ofTag op.tag r).map not := by
  have hplain := ofTag_text ⟨false, op⟩ r
  have hnegated := ofTag_text ⟨true, op⟩ r
  simp only [OperatorTag.text, Bool.false_eq_true, if_false, if_true] at hplain hnegated
  rw [hplain, hnegated]
  cases ofOperator op r <;> rfl

/-- A tag is written in one way or is unknown. -/
theorem ofTag_of_unknown (h : ∀ t : OperatorTag, tag ≠ t.text) (r : Reference) :
    ofTag tag r = .error (.unknownOperator tag) := by
  have hnone : OperatorTag.ofText? tag = none := by
    rw [Option.eq_none_iff_forall_ne_some]
    intro t ht
    exact h t (OperatorTag.ofText?_eq_some_iff.1 ht)
  rw [ofTag, hnone]

theorem exists_ofTag_iff :
    (∃ p, ofTag tag r = .ok p) ↔ ∃ t : OperatorTag, tag = t.text ∧ t.operator.Takes r := by
  by_cases hknown : ∃ t : OperatorTag, tag = t.text
  · obtain ⟨t, rfl⟩ := hknown
    rw [ofTag_text]
    simp only [Except.map_eq_ok_iff]
    constructor
    · rintro ⟨p, inner, hinner, -⟩
      exact ⟨t, rfl, (buildsFor_ofOperator t.operator r).accepts.1 ⟨inner, hinner⟩⟩
    · rintro ⟨t', htext, htakes⟩
      obtain rfl := OperatorTag.text_injective htext
      obtain ⟨inner, hinner⟩ := (buildsFor_ofOperator t.operator r).accepts.2 htakes
      exact ⟨_, inner, hinner, rfl⟩
  · have hunknown : ∀ t : OperatorTag, tag ≠ t.text := fun t ht => hknown ⟨t, ht⟩
    rw [ofTag_of_unknown hunknown]
    constructor
    · rintro ⟨p, h⟩
      cases h
    · rintro ⟨t, ht, -⟩
      exact absurd ht (hunknown t)

/-- The tag says which operator the predicate has, and whether it is negated. -/
theorem text_of_ofTag {p : Predicate} (h : ofTag tag r = .ok p) :
    tag = OperatorTag.text ⟨p.isNegated, p.operator⟩ := by
  obtain ⟨t, rfl, -⟩ := exists_ofTag_iff.1 ⟨p, h⟩
  rw [ofTag_text] at h
  obtain ⟨inner, hinner, rfl⟩ := Except.map_eq_ok_iff.1 h
  obtain ⟨hoperator, hplain⟩ := (buildsFor_ofOperator t.operator r).operator inner hinner
  obtain ⟨negated, op⟩ := t
  cases negated with
  | true =>
      show OperatorTag.text ⟨true, op⟩ = OperatorTag.text ⟨true, inner.operator⟩
      rw [hoperator]
  | false =>
      show OperatorTag.text ⟨false, op⟩ = OperatorTag.text ⟨inner.isNegated, inner.operator⟩
      rw [hoperator, hplain]

theorem ofTag_eq_error_iff : ofTag tag r = .error e ↔ Refusal tag r e := by
  by_cases hknown : ∃ t : OperatorTag, tag = t.text
  · obtain ⟨t, rfl⟩ := hknown
    rw [ofTag_text, Except.map_eq_error_iff, (buildsFor_ofOperator t.operator r).refuses]
    constructor
    · intro h
      exact .reference rfl h
    · intro h
      cases h with
      | unknown h => exact absurd rfl (h t)
      | reference htext h =>
          obtain rfl := OperatorTag.text_injective htext
          exact h
  · have hunknown : ∀ t : OperatorTag, tag ≠ t.text := fun t ht => hknown ⟨t, ht⟩
    rw [ofTag_of_unknown hunknown]
    constructor
    · rintro ⟨⟩
      exact .unknown hunknown
    · intro h
      cases h with
      | unknown => rfl
      | reference htext => exact absurd htext (hunknown _)

end Predicate

end RuleFilter
