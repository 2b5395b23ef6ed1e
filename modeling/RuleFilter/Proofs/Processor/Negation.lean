import RuleFilter.Proofs.Path.Search
import RuleFilter.Proofs.Predicate.Construction
import RuleFilter.Proofs.Processor.Compile
import RuleFilter.Proofs.Processor.Selection

set_option autoImplicit false

/-! # A rule and its opposite

Negating a tag negates what the predicate says of a value, and nothing else. What comes before it
stays as it is: whether the rule compiles, where the path leads, and whether the predicate fails on
what is there. So on an element to which the path does not lead, neither a rule nor its opposite
holds, and on one where it leads to a value and nothing fails, exactly one of them does
(`Condition.opposed_opposite`).

Over a collection the two runs meet the same errors, since they fail on the same elements
(`Matcher.FailsAlike`). Where there is none, every element that the path finds a value in is a match
of one run and not of the other (`Outcome.Split`). -/

namespace RuleFilter

open FieldPath (Search)

/-- A value is found. -/
def FieldPath.Search.isFound : Search → Bool
  | .ok (some _) => true
  | _ => false

/-- What a rule and its opposite say of an element, given what the path finds in it. -/
inductive Opposed : Search → Except Error Bool → Except Error Bool → Prop
  | fails (found : Search) (e : Error) : Opposed found (.error e) (.error e)
  | absent : Opposed (.ok none) (.ok false) (.ok false)
  | decided (v : Value) (holds : Bool) : Opposed (.ok (some v)) (.ok holds) (.ok (!holds))

namespace Opposed

variable {found : Search} {a b : Except Error Bool}

theorem error_iff (h : Opposed found a b) (e : Error) : a = .error e ↔ b = .error e := by
  cases h <;> simp

/-- Where nothing fails, a value that is found is held by one of the two, and what is not found by
none. -/
theorem count {holds holds' : Bool} (h : Opposed found a b) (ha : a = .ok holds)
    (hb : b = .ok holds') :
    (if holds then 1 else 0) + (if holds' then 1 else 0) = if found.isFound then 1 else 0 := by
  cases h with
  | fails => cases ha
  | absent =>
      cases ha
      cases hb
      rfl
  | decided v =>
      cases ha
      cases hb
      cases holds <;> rfl

end Opposed

/-! ## One element -/

namespace Condition

theorem path_of_ofRule {rule : Rule} {c : Condition} (h : ofRule rule = .ok c) :
    c.path = ⟨rule.field⟩ := by
  obtain ⟨q, -, rfl⟩ := Except.map_eq_ok_iff.1 h
  rfl

/-- The condition that says the opposite where a value is found. -/
def opposite (c : Condition) : Condition := ⟨c.path, .not c.predicate⟩

theorem ofRule_ofNegated (field : String) (op : Operator) (r : OrderedReference) :
    ofRule (.ofNegated field op r) = (ofRule (.ofOperator field op r)).map opposite := by
  unfold ofRule Rule.ofNegated Rule.ofOperator
  simp only [Predicate.ofTag_negatedTag]
  cases Predicate.ofTag op.tag r.reference <;> rfl

theorem opposed_opposite (c : Condition) (source : Option String) (root : Value) :
    Opposed (c.path.resolve source root) (c.holds source root) (c.opposite.holds source root) := by
  unfold holds opposite
  rcases c.path.resolve source root with e | _ | v
  · exact .fails _ e
  · exact .absent
  · -- the predicate is asked about the value, once plainly and once negated
    show Opposed _ (c.predicate.test v) ((c.predicate.test v).map (!·))
    cases c.predicate.test v with
    | error e => exact .fails _ e
    | ok holds => exact .decided v holds

end Condition

/-! ## Matchers of one rule -/

namespace Matcher

theorem accepts_singleton (c : Condition) (source : Option String) (root : Value) :
    accepts ⟨[[c]], source⟩ root = c.holds source root := by
  simp only [accepts, allHold, anyHolds]
  rcases c.holds source root with e | _ | _ <;> rfl

/-- The matchers have the same errors on the same elements. -/
def FailsAlike (m n : Matcher) : Prop :=
  ∀ (v : Value) (e : Error), m.accepts v = .error e ↔ n.accepts v = .error e

/-- On every element the matchers say opposite things of what is found in it. -/
def Opposes (m n : Matcher) (find : Value → Search) : Prop :=
  ∀ v, Opposed (find v) (m.accepts v) (n.accepts v)

variable {m n : Matcher} {find : Value → Search}

theorem FailsAlike.exists_ok_iff (h : m.FailsAlike n) (v : Value) :
    (∃ b, m.accepts v = .ok b) ↔ ∃ b, n.accepts v = .ok b := by
  have hv := h v
  cases hm : m.accepts v <;> cases hn : n.accepts v <;> simp_all

theorem FailsAlike.scan_eq_error_iff (h : m.FailsAlike n) (values : List Value) (e : Error) :
    m.scan values = .error e ↔ n.scan values = .error e := by
  simp only [scan_eq_mapM, mapM_eq_error_iff, h.exists_ok_iff, h _ e]

theorem Opposes.failsAlike (h : m.Opposes n find) : m.FailsAlike n := by
  intro v e
  exact (h v).error_iff e

variable {α : Type} [Candidate α]

theorem FailsAlike.decides (h : m.FailsAlike n) {items : List α} (hm : m.Decides items) :
    n.Decides items := by
  intro x hx
  exact (h.exists_ok_iff _).1 (hm x hx)

/-- An element in which a value is found matches one of the two, and any other matches none. -/
theorem Opposes.count_one (h : m.Opposes n find) {x : α}
    (hx : ∃ b, m.accepts (Candidate.value x) = .ok b) :
    (if m.isMatch x then 1 else 0) + (if n.isMatch x then 1 else 0)
      = if Search.isFound (find (Candidate.value x)) then 1 else 0 := by
  obtain ⟨b', hb'⟩ := (h.failsAlike.exists_ok_iff _).1 hx
  obtain ⟨b, hb⟩ := hx
  rw [isMatch_eq hb, isMatch_eq hb']
  exact (h _).count hb hb'

/-- No element matches both. -/
theorem Opposes.disjoint (h : m.Opposes n find) (items : List α) :
    (m.matching items).Disjoint (n.matching items) := by
  intro x hm hn
  have hm' : m.isMatch x = true := List.of_mem_filter hm
  have hn' : n.isMatch x = true := List.of_mem_filter hn
  have hone := h.count_one ⟨true, isMatch_eq_true_iff.1 hm'⟩
  rw [if_pos hm', if_pos hn'] at hone
  split at hone <;> omega

theorem Opposes.count_matching (h : m.Opposes n find) {items : List α} (hm : m.Decides items) :
    (m.matching items).length + (n.matching items).length
      = items.countP fun x => Search.isFound (find (Candidate.value x)) := by
  unfold matching
  rw [← List.countP_eq_length_filter, ← List.countP_eq_length_filter]
  induction items with
  | nil => rfl
  | cons x xs ih =>
      unfold Decides at hm
      rw [List.forall_mem_cons] at hm
      have hone := h.count_one hm.1
      have hrest := ih hm.2
      simp only [List.countP_cons]
      omega

end Matcher

/-! ## Runs over a collection -/

/-- Two runs over one collection fail alike, or they share out what is found: their totals add up to
it, and they leave nothing in common. -/
inductive Outcome.Split {α : Type} (found : Nat) (o o' : Outcome (List α)) : Prop
  | fails (e : Error) (h : o.answer = .error e) (h' : o'.answer = .error e)
  | shares (s s' : Selection) (h : o.answer = .ok s) (h' : o'.answer = .ok s')
      (htotal : s.total + s'.total = found) (hleft : o.left.Disjoint o'.left)

namespace Processor

variable {α : Type} [Candidate α] {p : Processor} {R S : RuleSet} {m n : Matcher}
  {find : Value → Search}

/-- Runs of matchers that oppose each other share out what is found, in whatever windows. -/
theorem split_keep_of_opposes (hm : p.compile R = .ok m) (hn : p.compile S = .ok n)
    (h : m.Opposes n find) (w w' : Window) (items : List α) :
    Outcome.Split (items.countP fun x => Search.isFound (find (Candidate.value x)))
      (p.keep R w items) (p.keep S w' items) := by
  cases hscan : m.scan (items.map Candidate.value) with
  | error e =>
      have hscan' := (h.failsAlike.scan_eq_error_iff _ e).1 hscan
      rw [keep_of_scan_error hm hscan, keep_of_scan_error hn hscan']
      exact .fails e rfl rfl
  | ok mask =>
      have hdecides := Matcher.decides_of_scan hscan
      have hdecides' := h.failsAlike.decides hdecides
      have hleft : (p.keep R w items).left.Disjoint (p.keep S w' items).left := by
        intro x hx hx'
        exact h.disjoint items (left_keep_subset_matching hm hdecides w hx)
          (left_keep_subset_matching hn hdecides' w' hx')
      have hkeep := congrArg Outcome.answer (keep_of_decides hm hdecides w)
      have hkeep' := congrArg Outcome.answer (keep_of_decides hn hdecides' w')
      exact .shares _ _ hkeep hkeep' (h.count_matching hdecides) hleft

/-- A run of a rule and one of its opposite share out the elements that the path finds a value
in. -/
theorem split_keep_opposite (p : Processor) (field : String) (op : Operator)
    (r : OrderedReference) (w w' : Window) (items : List α) :
    Outcome.Split
      (items.countP fun x => Search.isFound
        (FieldPath.resolve ⟨field⟩ p.settings.fieldNameTag (Candidate.value x)))
      (p.keep [[.ofOperator field op r]] w items) (p.keep [[.ofNegated field op r]] w' items) := by
  have hrule := compile_singleton p (.ofOperator field op r)
  have hopposite := compile_singleton p (.ofNegated field op r)
  rw [Condition.ofRule_ofNegated] at hopposite
  cases hc : Condition.ofRule (.ofOperator field op r) with
  | error e =>
      rw [hc] at hrule hopposite
      rw [keep_of_compile_error hrule, keep_of_compile_error hopposite]
      exact .fails e rfl rfl
  | ok c =>
      rw [hc] at hrule hopposite
      refine split_keep_of_opposes hrule hopposite (fun v => ?_) w w' items
      have hpath : c.path = ⟨field⟩ := Condition.path_of_ofRule hc
      rw [Matcher.accepts_singleton, Matcher.accepts_singleton, ← hpath]
      exact c.opposed_opposite _ v

/-- **A rule and its opposite split the elements.** Either both do not compile, for the same reason,
or on every element they say opposite things of what the path finds: they fail alike, or nothing is
found and neither holds, or a value is found and exactly one holds. So two runs over a collection,
with or without a window, fail alike, or their totals add up to the number of elements in which a
value is found, and no element is kept by both. -/
theorem rule_and_opposite_split_elements (field : String) (op : Operator) (r : OrderedReference) :
    let rule := Rule.ofOperator field op r
    let opposite := Rule.ofNegated field op r
    ((∃ e, Condition.ofRule rule = .error e ∧ Condition.ofRule opposite = .error e)
      ∨ ∃ c c', Condition.ofRule rule = .ok c ∧ Condition.ofRule opposite = .ok c'
        ∧ ∀ source root, Opposed (FieldPath.resolve ⟨field⟩ source root)
            (c.holds source root) (c'.holds source root))
    ∧ ∀ (p : Processor) {α : Type} [Candidate α] (items : List α),
        let found := items.countP fun x => Search.isFound
          (FieldPath.resolve ⟨field⟩ p.settings.fieldNameTag (Candidate.value x))
        Outcome.Split found (p.apply [[rule]] items) (p.apply [[opposite]] items)
        ∧ ∀ w : Window, Outcome.Split found (p.applyWindow [[rule]] w items)
            (p.applyWindow [[opposite]] w items) := by
  intro rule opposite
  constructor
  · have hnegated : Condition.ofRule opposite = (Condition.ofRule rule).map Condition.opposite :=
      Condition.ofRule_ofNegated field op r
    cases hc : Condition.ofRule rule with
    | error e =>
        rw [hc] at hnegated
        exact .inl ⟨e, rfl, hnegated⟩
    | ok c =>
        rw [hc] at hnegated
        refine .inr ⟨c, c.opposite, rfl, hnegated, fun source root => ?_⟩
        have hpath : c.path = ⟨field⟩ := Condition.path_of_ofRule hc
        rw [← hpath]
        exact c.opposed_opposite source root
  · intro p α _ items found
    refine ⟨split_keep_opposite p field op r _ _ items, fun w => ?_⟩
    unfold applyWindow
    split
    · exact .fails _ rfl rfl
    · exact split_keep_opposite p field op r w w items

end Processor

end RuleFilter
