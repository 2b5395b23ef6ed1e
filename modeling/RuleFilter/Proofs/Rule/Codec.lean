import RuleFilter.Proofs.Rule.Decoding

set_option autoImplicit false

/-! # Rule sets are read back

The document of a rule holds the rule (`Rule.ofDocument?_toJson`), since a reference in order is
what its own document means. So what is written of a rule set is decoded as the rule set, as long as
its numbers are read back and it is nested no deeper than may be read: around each value it has two
arrays and an object, which leave 124 for the values (`RuleSet.ofText_toText`). -/

namespace RuleFilter

open Json

theorem Json.reads_readText? (s : String) : Reads readText? (string s) s := by
  intro rest _
  simp only [render, stringText, List.cons_append, List.append_assoc, List.nil_append]
  rw [readText?, skipBlanks_cons rfl]
  exact readString_flatMap_escape s rest

/-! ## The documents of rules -/

theorem Rule.ofDocument?_toJson {rule : Rule} (h : rule.value.reference.IsFinite) :
    ofDocument? rule.toJson = some rule := by
  have hvalue := (OrderedReference.givesWhen_ofJson? _).eq_some (Reference.isFinite_toJson h)
  rw [rule.value.ofJson_toJson] at hvalue
  simp only [toJson, ofDocument?, List.foldlM_cons, List.foldlM_nil, RuleDraft.take, string?,
    hvalue]
  rfl

/-- What is found again in each place is found again in all. -/
theorem mapM_map_eq_some {α β : Type} {f : β → Option α} {g : α → β} {xs : List α}
    (h : ∀ x ∈ xs, f (g x) = some x) : (xs.map g).mapM f = some xs := by
  induction xs with
  | nil => rfl
  | cons x xs ih =>
      rw [List.map_cons, List.mapM_cons, h x List.mem_cons_self,
        ih fun y hy => h y (List.mem_cons_of_mem _ hy)]
      rfl

namespace RuleSet

variable {rules : RuleSet}

theorem ofDocument?_toJson
    (h : ∀ group ∈ rules, ∀ rule ∈ group, rule.value.reference.IsFinite) :
    ofDocument? (toJson rules) = some rules :=
  mapM_map_eq_some fun group hgroup => mapM_map_eq_some fun rule hrule =>
    rule.ofDocument?_toJson (h group hgroup rule hrule)

theorem isFinite_toJson (h : ∀ group ∈ rules, ∀ rule ∈ group, rule.value.reference.IsFinite) :
    (toJson rules).IsFinite := by
  refine isFiniteItems_iff.2 (List.forall_mem_map.2 fun group hgroup => ?_)
  refine isFiniteItems_iff.2 (List.forall_mem_map.2 fun rule hrule => ?_)
  exact ⟨trivial, trivial, Reference.isFinite_toJson (h group hgroup rule hrule), trivial⟩

/-- The numbers of a rule set are those of its values. -/
theorem forall_mem_numbers_toJson {p : Number → Prop}
    (h : ∀ group ∈ rules, ∀ rule ∈ group, ∀ x ∈ rule.value.reference.numbers, p (.double x)) :
    ∀ n ∈ (toJson rules).numbers, p n := by
  refine forall_mem_numbersItems_iff.2 (List.forall_mem_map.2 fun group hgroup => ?_)
  refine forall_mem_numbersItems_iff.2 (List.forall_mem_map.2 fun rule hrule => ?_)
  have hnumbers : rule.toJson.numbers = rule.value.reference.numbers.map .double := by
    simp [Rule.toJson, numbers, numbersMembers, Reference.numbers_toJson]
  rw [hnumbers]
  exact List.forall_mem_map.2 (h group hgroup rule hrule)

/-- Around each value stand two arrays and an object. -/
theorem depth_toJson_le {n : Nat}
    (h : ∀ group ∈ rules, ∀ rule ∈ group, rule.value.reference.depth ≤ n) :
    (toJson rules).depth ≤ n + 3 := by
  refine Nat.succ_le_succ (depthItems_le_iff.2 (List.forall_mem_map.2 fun group hgroup => ?_))
  refine Nat.succ_le_succ (depthItems_le_iff.2 (List.forall_mem_map.2 fun rule hrule => ?_))
  have hvalue : rule.value.reference.toJson.depth ≤ n := by
    rw [Reference.depth_toJson]
    exact h group hgroup rule hrule
  simp only [Rule.toJson, depth, depthMembers]
  omega

theorem depth_toJson_lt
    (h : ∀ group ∈ rules, ∀ rule ∈ group, rule.value.reference.Writable 124) :
    (toJson rules).depth < nestingBudget :=
  Nat.lt_succ_of_le
    (depth_toJson_le fun group hgroup rule hmem => (h group hgroup rule hmem).depth_le)

/-- Rules whose values can be written are read back where their numbers are. -/
theorem ofText_of_writable
    (hwritable : ∀ group ∈ rules, ∀ rule ∈ group, rule.value.reference.Writable 124)
    (hread : ∀ rule ∈ rules.flatten, ∀ x ∈ rule.value.reference.numbers,
      Number.ReadsBack (.double x)) :
    ofText rules.toText = .ok rules := by
  have hvalues : ∀ group ∈ rules, ∀ rule ∈ group, rule.value.reference.IsFinite :=
    fun group hgroup rule hmem => (hwritable group hgroup rule hmem).finite
  have hnumbers : ∀ n ∈ (toJson rules).numbers, n.ReadsBack :=
    forall_mem_numbers_toJson fun group hgroup rule hmem =>
      hread rule (List.mem_flatten.2 ⟨group, hgroup, hmem⟩)
  exact (ofText_of_spells (spells_text (isFinite_toJson hvalues) hnumbers)
    (depth_toJson_lt hwritable)).1 rules (ofDocument?_toJson hvalues)

/-- **A rule set is read back from its text.** A number that is not finite has no text, the digits
that are written of a double have to be read as that double, and values may use up what nesting the
rules around them leave. -/
theorem ofText_toText {rules : RuleSet}
    (hfinite : ∀ rule ∈ rules.flatten, rule.value.reference.IsFinite)
    (hread : ∀ rule ∈ rules.flatten, ∀ x ∈ rule.value.reference.numbers,
      Number.ReadsBack (.double x))
    (hdepth : ∀ rule ∈ rules.flatten, rule.value.reference.depth ≤ 124) :
    RuleSet.ofText rules.toText = .ok rules := by
  refine ofText_of_writable (fun group hgroup rule hmem => ?_) hread
  have hflat : rule ∈ rules.flatten := List.mem_flatten.2 ⟨group, hgroup, hmem⟩
  exact ⟨hfinite rule hflat, hdepth rule hflat⟩

/-- Escapes, an empty group and maps within lists. -/
theorem ofText_toText_nested :
    let half : Double := .ofRatio false 1 2
    let rules : RuleSet :=
      [[⟨"a\"b\n", "!==", .list [.map [("", .null), ("\x01", .number half), ("é", .map [])]]⟩], []]
    RuleSet.ofText rules.toText = .ok rules := by
  intro half rules
  have hkeys : KeysRise [("", OrderedReference.null), ("\x01", .number half), ("é", .map [])] := by
    decide
  have hmap := OrderedReference.reference_map hkeys
  have hnone : (OrderedReference.map []).reference = .map [] := rfl
  have hhalf : half.isFinite = true ∧ Number.ReadsBack (.double half) := by decide +kernel
  refine ofText_toText ?_ ?_ ?_
  · simp [rules, hmap, hnone, hhalf, Reference.IsFinite, Reference.IsFiniteItems,
      Reference.IsFiniteEntries]
  · simp [rules, hmap, hnone, hhalf, Reference.numbers, Reference.numbersItems,
      Reference.numbersEntries]
  · simp [rules, hmap, hnone, Reference.depth, Reference.depthItems, Reference.depthEntries]

end RuleSet

end RuleFilter
