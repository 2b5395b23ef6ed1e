import RuleFilter.Proofs.Processor.Compile
import RuleFilter.Proofs.Processor.Selection

set_option autoImplicit false

/-! # Filtering twice

The groups of a rule set are tried one after the other, so a rule set that goes on with the groups
of another looks at these only on elements that its own groups let through
(`Matcher.accepts_append`). Errors that the second groups meet are therefore the errors they meet on
the matches of the first (`Matcher.scan_append_eq_error_iff`), and what matches both are the matches
of the second among the matches of the first (`Matcher.matching_append`). Filtering what is left by
the first rule set comes to the same as filtering once, as long as the first run cuts nothing
off. -/

namespace RuleFilter

/-- Two operations come to the same: they have one answer and, if it is no error, leave the same. -/
structure Outcome.SameResult {α : Type} (o o' : Outcome α) : Prop where
  answer : o.answer = o'.answer
  left : ∀ selection, o.answer = .ok selection → o.left = o'.left

theorem Outcome.SameResult.of_error {α : Type} {o o' : Outcome α} {e : Error}
    (h : o.answer = .error e) (h' : o'.answer = .error e) : o.SameResult o' := by
  refine ⟨h.trans h'.symm, fun selection hok => ?_⟩
  rw [h] at hok
  cases hok

theorem RuleSet.ruleCount_append (R S : RuleSet) :
    ruleCount (R ++ S) = ruleCount R + ruleCount S := by
  rw [ruleCount, List.flatten_append, List.length_append]
  rfl

/-! ## Matchers one after the other -/

namespace Matcher

/-- The groups of one matcher and then those of another, looking fields up as the first does. -/
def append (m n : Matcher) : Matcher := ⟨m.groups ++ n.groups, m.source⟩

/-- Groups are looked at when all groups before them hold. -/
theorem allHold_append (source : Option String) (root : Value) (gs hs : List (List Condition)) :
    allHold source root (gs ++ hs)
      = if allHold source root gs = .ok true then allHold source root hs
        else allHold source root gs := by
  induction gs with
  | nil => rfl
  | cons g gs ih =>
      rw [List.cons_append, allHold, allHold, ih]
      cases anyHolds source root g with
      | error e => simp
      | ok holds => cases holds <;> simp

variable {m n : Matcher}

theorem accepts_append (hsource : m.source = n.source) (v : Value) :
    (m.append n).accepts v = if m.accepts v = .ok true then n.accepts v else m.accepts v := by
  rw [accepts, accepts, accepts, ← hsource]
  exact allHold_append m.source v m.groups n.groups

variable {α : Type} [Candidate α]

/-- Where the first matcher has an answer, the second is asked about its matches only. -/
theorem accepts_append_of_decides (hsource : m.source = n.source) {x : α}
    (hx : ∃ b, m.accepts (Candidate.value x) = .ok b) :
    (m.append n).accepts (Candidate.value x)
      = if m.isMatch x then n.accepts (Candidate.value x) else .ok false := by
  obtain ⟨b, hb⟩ := hx
  rw [accepts_append hsource, hb, isMatch_eq hb]
  cases b <;> rfl

/-- The second matcher fails on the first of the first's matches on which it fails. -/
theorem scan_append_eq_error_iff (hsource : m.source = n.source) {items : List α}
    (hdecides : m.Decides items) (e : Error) :
    (m.append n).scan (items.map Candidate.value) = .error e
      ↔ n.scan ((m.matching items).map Candidate.value) = .error e := by
  induction items with
  | nil => rfl
  | cons x xs ih =>
      have hx := hdecides x List.mem_cons_self
      have hxs := ih fun y hy => hdecides y (List.mem_cons_of_mem _ hy)
      rw [List.map_cons, scan, accepts_append_of_decides hsource hx]
      by_cases hmatch : m.isMatch x = true
      · -- both scans ask the second matcher about the element
        have hmatching : m.matching (x :: xs) = x :: m.matching xs :=
          List.filter_cons_of_pos hmatch
        rw [if_pos hmatch, hmatching, List.map_cons, scan]
        simp only [Except.bind_eq_error_iff, hxs]
        simp [pure, Except.pure]
      · -- one scan passes the element by, and the other does not come to it
        have hmatching : m.matching (x :: xs) = m.matching xs := List.filter_cons_of_neg hmatch
        rw [if_neg hmatch, hmatching, ← hxs]
        simp [bind, Except.bind, pure, Except.pure]
        cases (m.append n).scan (xs.map Candidate.value) <;> simp

/-- Both matchers together have an answer where the first has one, and the second on its matches. -/
theorem decides_append (hsource : m.source = n.source) {items : List α}
    (hm : m.Decides items) (hn : n.Decides (m.matching items)) : (m.append n).Decides items := by
  intro x hx
  rw [accepts_append_of_decides hsource (hm x hx)]
  by_cases hmatch : m.isMatch x = true
  · rw [if_pos hmatch]
    exact hn x (List.mem_filter.2 ⟨hx, hmatch⟩)
  · rw [if_neg hmatch]
    exact ⟨false, rfl⟩

theorem isMatch_append (hsource : m.source = n.source) {x : α}
    (hx : ∃ b, m.accepts (Candidate.value x) = .ok b) :
    (m.append n).isMatch x = (n.isMatch x && m.isMatch x) := by
  have haccepts := accepts_append_of_decides hsource hx
  cases hmatch : m.isMatch x with
  | false =>
      rw [hmatch] at haccepts
      rw [isMatch_eq haccepts, Bool.and_false]
  | true =>
      rw [hmatch] at haccepts
      rw [isMatch, haccepts, Bool.and_true]
      rfl

/-- The matches of both are the matches of the second among those of the first. -/
theorem matching_append (hsource : m.source = n.source) {items : List α}
    (hdecides : m.Decides items) :
    (m.append n).matching items = n.matching (m.matching items) := by
  rw [matching, matching, matching, List.filter_filter]
  exact List.filter_congr fun x hx => isMatch_append hsource (hdecides x hx)

end Matcher

/-! ## Rule sets one after the other -/

namespace Processor

variable {p : Processor} {R S : RuleSet}

/-- Rules compile one rule set after the other, once they are not too many together. -/
theorem compile_append (hcount : RuleSet.ruleCount (R ++ S) ≤ p.settings.maxRules.toNat) :
    p.compile (R ++ S) = do return (← p.compile R).append (← p.compile S) := by
  have hsum := RuleSet.ruleCount_append R S
  rw [compile_of_le hcount, compile_of_le (by omega), compile_of_le (by omega), List.mapM_append]
  cases R.mapM (List.mapM Condition.ofRule) with
  | error e => rfl
  | ok gs =>
      cases S.mapM (List.mapM Condition.ofRule) with
      | error e => rfl
      | ok hs => rfl

theorem source_of_compile {m : Matcher} (hm : p.compile R = .ok m) :
    m.source = p.settings.fieldNameTag :=
  (compile_eq_ok_iff.1 hm).2.source

variable {α : Type} [Candidate α]

/-- **Filtering by two rule sets one after the other is filtering by both at once.** The first run
has to succeed and to keep all of its matches. An error of the second rule set, also one of
its construction, is then met in both ways, and in neither way on an element that the first rule set
refuses. -/
theorem apply_append {items : List α} {first : Selection}
    (hcount : RuleSet.ruleCount (R ++ S) ≤ p.settings.maxRules.toNat)
    (hfirst : (p.apply R items).answer = .ok first)
    (htotal : first.total ≤ p.settings.maxResults.toNat) :
    (p.apply S (p.apply R items).left).SameResult (p.apply (R ++ S) items) := by
  obtain ⟨m, hm, hdecides, hmatches⟩ := exists_decides_of_keep hfirst
  have hfits : (m.matching items).length ≤ p.settings.maxResults.toNat := hmatches ▸ htotal
  have hleft : (p.apply R items).left = m.matching items := by
    rw [apply_of_fits hm hdecides hfits]
    rfl
  have hboth := compile_append hcount
  rw [hm] at hboth
  rw [hleft]
  cases hn : p.compile S with
  | error e =>
      rw [hn] at hboth
      exact .of_error (congrArg Outcome.answer (keep_of_compile_error hn _ _))
        (congrArg Outcome.answer (keep_of_compile_error hboth _ _))
  | ok n =>
      rw [hn] at hboth
      have hsource : m.source = n.source := (source_of_compile hm).trans (source_of_compile hn).symm
      cases hscan : n.scan ((m.matching items).map Candidate.value) with
      | error e =>
          have hscan' := (Matcher.scan_append_eq_error_iff hsource hdecides e).2 hscan
          exact .of_error (congrArg Outcome.answer (keep_of_scan_error hn hscan _))
            (congrArg Outcome.answer (keep_of_scan_error hboth hscan' _))
      | ok mask =>
          have hdecides' := Matcher.decides_of_scan hscan
          have hfits' := n.length_matching_le (m.matching items)
          have hsecond := apply_of_fits hn hdecides' (Nat.le_trans hfits' hfits)
          have hmatching := Matcher.matching_append hsource hdecides
          have honce := apply_of_fits hboth (Matcher.decides_append hsource hdecides hdecides')
            (hmatching ▸ Nat.le_trans hfits' hfits)
          rw [hsecond, honce, hmatching]
          exact ⟨rfl, fun _ _ => rfl⟩

/-- The second rule set fails on a record that the first refuses: by itself, and not behind it. -/
theorem apply_append_hides_error :
    let p : Processor := ⟨⟨none, "filter", 2, 2⟩, by decide⟩
    let R : RuleSet := [[⟨"open", "==", .bool true⟩]]
    let S : RuleSet := [[⟨"name", "^=", .string "a"⟩]]
    let named : Value := .map [("open", .bool true), ("name", .string "ab")]
    let other : Value := .map [("open", .bool true), ("name", .string "b")]
    let unnamed : Value := .map [("open", .bool false), ("name", .bool false)]
    let items := [named, unnamed, other]
    RuleSet.ruleCount (R ++ S) ≤ p.settings.maxRules.toNat
      ∧ (p.apply R items).answer = .ok ⟨2, 2⟩ ∧ 2 ≤ p.settings.maxResults.toNat
      ∧ (p.apply S items).answer = .error (.notText .startsWith .bool)
      ∧ (p.apply (R ++ S) items).answer = .ok ⟨1, 1⟩
      ∧ (p.apply S (p.apply R items).left).SameResult (p.apply (R ++ S) items) := by
  intro p R S named other unnamed items
  have hcount : RuleSet.ruleCount (R ++ S) ≤ p.settings.maxRules.toNat := by decide
  have hfirst : (p.apply R items).answer = .ok ⟨2, 2⟩ := by rfl
  have hfits : 2 ≤ p.settings.maxResults.toNat := by decide
  exact ⟨hcount, hfirst, hfits, by rfl, by rfl, apply_append hcount hfirst hfits⟩

end Processor

end RuleFilter
