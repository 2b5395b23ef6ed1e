import RuleFilter.Proofs.Matcher.Meaning
import RuleFilter.Proofs.Matcher.Scan

set_option autoImplicit false

/-! # How rules are arranged

The order of rules decides which of them are looked at, and so which errors are met. It decides
nothing else. A rule set that has, inside every group of another, a group of its own asks for at
least as much (`RuleSet.Subsumes`), and what matches it cannot be refused by the other: a group that
is refuted has been looked at to the end, so no rule in it holds, also not those of the group inside
it. Putting rules in another order or repeating them subsumes in both directions. -/

namespace RuleFilter

/-! ## Arrangements -/

namespace RuleSet

/-- Every group of the second rule set has in it all the rules of a group of the first. -/
def Subsumes (R S : RuleSet) : Prop := ∀ group ∈ S, ∃ inner ∈ R, inner ⊆ group

namespace Subsumes

variable {R S T : RuleSet}

theorem trans (hRS : R.Subsumes S) (hST : S.Subsumes T) : R.Subsumes T := by
  intro group hgroup
  obtain ⟨middle, hmiddle, hsub⟩ := hST group hgroup
  obtain ⟨inner, hinner, hsub'⟩ := hRS middle hmiddle
  exact ⟨inner, hinner, List.Subset.trans hsub' hsub⟩

/-- A rule set asks for at least as much as one with some of its groups. -/
theorem of_subset (h : S ⊆ R) : R.Subsumes S := fun group hgroup =>
  ⟨group, h hgroup, List.Subset.refl group⟩

/-- A group asks for at least as much as one with more rules, whatever groups stand around it. -/
theorem of_group {g h : RuleGroup} (hsub : g ⊆ h) (before after : RuleSet) :
    Subsumes (before ++ g :: after) (before ++ h :: after) := by
  intro group hgroup
  rcases List.mem_append.1 hgroup with hbefore | hrest
  · exact ⟨group, List.mem_append_left _ hbefore, List.Subset.refl group⟩
  · rcases List.mem_cons.1 hrest with rfl | hafter
    · exact ⟨g, List.mem_append_right _ List.mem_cons_self, hsub⟩
    · exact ⟨group, List.mem_append_right _ (List.mem_cons_of_mem _ hafter),
        List.Subset.refl group⟩

end Subsumes

/-- The second rule set is the first with groups, or rules within groups, put in another order,
repeated, or freed of repetitions, any number of times. -/
inductive Rearranged : RuleSet → RuleSet → Prop
  | groups {R S : RuleSet} (h : R.Perm S) : Rearranged R S
  | repeatGroup (g : RuleGroup) (R : RuleSet) : Rearranged (g :: R) (g :: g :: R)
  | rules {g h : RuleGroup} (hperm : g.Perm h) (R : RuleSet) : Rearranged (g :: R) (h :: R)
  | repeatRule (rule : Rule) (g : RuleGroup) (R : RuleSet) :
      Rearranged ((rule :: g) :: R) ((rule :: rule :: g) :: R)
  | symm {R S : RuleSet} (h : Rearranged R S) : Rearranged S R
  | trans {R S T : RuleSet} (hRS : Rearranged R S) (hST : Rearranged S T) : Rearranged R T

/-- Arrangements of the same rules ask for the same. -/
theorem Rearranged.subsumes {R S : RuleSet} (h : R.Rearranged S) :
    R.Subsumes S ∧ S.Subsumes R := by
  induction h with
  | groups hperm => exact ⟨.of_subset hperm.symm.subset, .of_subset hperm.subset⟩
  | repeatGroup g R =>
      exact ⟨.of_subset (by simp), .of_subset (by simp)⟩
  | rules hperm R =>
      exact ⟨.of_group hperm.subset [] R, .of_group hperm.symm.subset [] R⟩
  | repeatRule rule g R =>
      exact ⟨.of_group (by simp) [] R, .of_group (by simp) [] R⟩
  | symm _ ih => exact ⟨ih.2, ih.1⟩
  | trans _ _ ihRS ihST => exact ⟨ihRS.1.trans ihST.1, ihST.2.trans ihRS.2⟩

end RuleSet

/-! ## What an arrangement decides -/

namespace Processor

open RuleGroup

/-- Where both rule sets have an answer for an element that matches the first, it matches the
second. -/
def KeepsMatches (p : Processor) (R S : RuleSet) : Prop :=
  ∀ m n : Matcher, p.compile R = .ok m → p.compile S = .ok n →
    ∀ (v : Value) (b : Bool), m.accepts v = .ok true → n.accepts v = .ok b → b = true

/-- Where both rule sets have an answer for an element, it is the same. -/
def AnswersAlike (p : Processor) (R S : RuleSet) : Prop :=
  ∀ m n : Matcher, p.compile R = .ok m → p.compile S = .ok n →
    ∀ (v : Value) (a b : Bool), m.accepts v = .ok a → n.accepts v = .ok b → a = b

variable {p : Processor} {R S : RuleSet}

/-- A group is not refuted if one inside it is satisfied. -/
theorem not_refuted_of_satisfied {outcome : Rule → Except Error Bool} {g h : RuleGroup}
    (hsub : g ⊆ h) (hg : Satisfied outcome g) : ¬ Refuted outcome h := by
  obtain ⟨rule, hrule, htrue⟩ := hg
  intro hh
  have hfalse : outcome rule = .ok false := hh rule (hsub hrule.mem)
  rw [htrue] at hfalse
  cases hfalse

theorem keepsMatches_of_subsumes (h : R.Subsumes S) : p.KeepsMatches R S := by
  intro m n hm hn v b htrue hb
  cases b with
  | true => rfl
  | false =>
      obtain ⟨group, hgroup, hrefuted⟩ := (Matcher.accepts_eq_ok_false_iff hn).1 hb
      obtain ⟨inner, hinner, hsub⟩ := h group hgroup.mem
      have hsatisfied := (Matcher.accepts_eq_ok_true_iff hm).1 htrue inner hinner
      exact absurd hrefuted (not_refuted_of_satisfied hsub hsatisfied)

/-- Rule sets that keep each other's matches answer alike. -/
theorem answersAlike_of_keepsMatches (hRS : p.KeepsMatches R S) (hSR : p.KeepsMatches S R) :
    p.AnswersAlike R S := by
  intro m n hm hn v a b ha hb
  cases a with
  | true => exact (hRS m n hm hn v b ha hb).symm
  | false =>
      cases b with
      | false => rfl
      | true => exact hSR n m hn hm v false hb ha

/-! ## Whole collections -/

theorem mask_eq_of_answersAlike (h : p.AnswersAlike R S) {m n : Matcher}
    (hm : p.compile R = .ok m) (hn : p.compile S = .ok n) {values : List Value}
    {mask mask' : List Bool} (hmask : m.scan values = .ok mask)
    (hmask' : n.scan values = .ok mask') : mask = mask' := by
  rw [Matcher.scan_eq_mapM, mapM_eq_ok_iff] at hmask hmask'
  induction hmask generalizing mask' with
  | nil =>
      cases hmask'
      rfl
  | cons ha _ ih =>
      cases hmask' with
      | cons hb hrest => rw [h m n hm hn _ _ _ ha hb, ih hrest]

variable {α : Type} [Candidate α]

/-- A call that succeeds has marked the elements that match. -/
theorem exists_scan_of_keep {w : Window} {items : List α} {selection : Selection}
    (h : (p.keep R w items).answer = .ok selection) :
    ∃ m mask, p.compile R = .ok m ∧ m.scan (items.map Candidate.value) = .ok mask := by
  rw [keep] at h
  split at h
  · cases h
  · next mask hscan =>
      obtain ⟨m, hm, hmask⟩ := Except.bind_eq_ok_iff.1 hscan
      exact ⟨m, mask, hm, hmask⟩

/-- What is kept depends on the rules through the marks only. -/
theorem keep_eq_of_scan {m n : Matcher} {mask : List Bool} (hm : p.compile R = .ok m)
    (hn : p.compile S = .ok n) {items : List α}
    (hmask : m.scan (items.map Candidate.value) = .ok mask)
    (hmask' : n.scan (items.map Candidate.value) = .ok mask) (w : Window) :
    p.keep R w items = p.keep S w items := by
  have hscan : (do (← p.compile R).scan (items.map Candidate.value))
      = (do (← p.compile S).scan (items.map Candidate.value)) := by
    rw [hm, hn]
    exact hmask.trans hmask'.symm
  rw [keep, keep, hscan]

theorem keep_eq_of_answersAlike (h : p.AnswersAlike R S) {w : Window} {items : List α}
    {selection selection' : Selection} (hR : (p.keep R w items).answer = .ok selection)
    (hS : (p.keep S w items).answer = .ok selection') : p.keep R w items = p.keep S w items := by
  obtain ⟨m, mask, hm, hmask⟩ := exists_scan_of_keep hR
  obtain ⟨n, mask', hn, hmask'⟩ := exists_scan_of_keep hS
  have hmasks : mask = mask' := mask_eq_of_answersAlike h hm hn hmask hmask'
  exact keep_eq_of_scan hm hn hmask (hmasks ▸ hmask') w

/-- **Order can hide an error and flips no answer.** A rule set keeps the matches of one that
subsumes it. Arrangements of the same rules answer alike, and keep the same of a collection where
both succeed. One more rule in a group loses no match, and one more group gains none. -/
theorem arrangement_flips_no_answer (p : Processor) :
    (∀ R S : RuleSet, R.Subsumes S → p.KeepsMatches R S)
    ∧ (∀ R S : RuleSet, R.Rearranged S → p.AnswersAlike R S
        ∧ ∀ {α : Type} [Candidate α] (items : List α) (selection selection' : Selection),
            (p.apply R items).answer = .ok selection →
            (p.apply S items).answer = .ok selection' →
            p.apply R items = p.apply S items)
    ∧ (∀ (before after : RuleSet) (first last : RuleGroup) (rule : Rule),
        p.KeepsMatches (before ++ (first ++ last) :: after)
          (before ++ (first ++ rule :: last) :: after))
    ∧ ∀ (before after : RuleSet) (group : RuleGroup),
        p.KeepsMatches (before ++ group :: after) (before ++ after) := by
  refine ⟨fun R S => keepsMatches_of_subsumes, fun R S h => ?_,
    fun before after first last rule => ?_, fun before after group => ?_⟩
  · have halike : p.AnswersAlike R S :=
      answersAlike_of_keepsMatches (keepsMatches_of_subsumes h.subsumes.1)
        (keepsMatches_of_subsumes h.subsumes.2)
    exact ⟨halike, fun items _ _ => keep_eq_of_answersAlike halike⟩
  · have hsub : first ++ last ⊆ first ++ rule :: last :=
      List.append_subset.2 ⟨List.subset_append_left _ _,
        fun r hr => List.mem_append_right _ (List.mem_cons_of_mem _ hr)⟩
    exact keepsMatches_of_subsumes (.of_group hsub before after)
  · have hsub : before ++ after ⊆ before ++ group :: after :=
      List.append_subset.2 ⟨List.subset_append_left _ _,
        fun g hg => List.mem_append_right _ (List.mem_cons_of_mem _ hg)⟩
    exact keepsMatches_of_subsumes (.of_subset hsub)

/-- Repeating a rule and the group changes nothing, and a rule that fails does no harm behind one
that holds; in front of it, it is met. -/
theorem arrangement_flips_no_answer_hides_error :
    let p : Processor := ⟨⟨none, "filter", 9, 2⟩, by decide⟩
    let holding : Rule := ⟨"open", "==", .bool true⟩
    let failing : Rule := ⟨"open", "~=", .string "x"⟩
    let R : RuleSet := [[holding, failing]]
    let S : RuleSet := [[holding, holding, failing], [holding, failing]]
    let T : RuleSet := [[failing, holding]]
    let c : Condition := ⟨⟨"open"⟩, .equal (.bool true)⟩
    let d : Condition := ⟨⟨"open"⟩, .text .contains "x"⟩
    let m : Matcher := ⟨[[c, d]], none⟩
    let n : Matcher := ⟨[[c, c, d], [c, d]], none⟩
    let item : Value := .map [("open", .bool true)]
    R.Rearranged S ∧ R.Rearranged T
      ∧ p.apply R [item] = p.apply S [item]
      ∧ (p.apply S [item]).answer = .ok ⟨1, 1⟩
      ∧ (p.apply T [item]).answer = .error (.notText .contains .bool)
      ∧ p.compile R = .ok m ∧ p.compile S = .ok n ∧ m.accepts item = .ok true
      ∧ ∀ b, n.accepts item = .ok b → b = true := by
  have hrepeated (a b : Rule) : RuleSet.Rearranged [[a, b]] [[a, a, b], [a, b]] :=
    .trans (.repeatGroup [a, b] []) (.repeatRule a [b] [[a, b]])
  have hswapped (a b : Rule) : RuleSet.Rearranged [[a, b]] [[b, a]] :=
    .rules (List.Perm.swap b a []) []
  obtain ⟨hkeeps, harranged, _⟩ :=
    arrangement_flips_no_answer ⟨⟨none, "filter", 9, 2⟩, by decide⟩
  have hS := hrepeated ⟨"open", "==", .bool true⟩ ⟨"open", "~=", .string "x"⟩
  have hkept := hkeeps _ _ hS.subsumes.1
    ⟨[[⟨⟨"open"⟩, .equal (.bool true)⟩, ⟨⟨"open"⟩, .text .contains "x"⟩]], none⟩
  exact ⟨hS, hswapped _ _, (harranged _ _ hS).2 _ ⟨1, 1⟩ ⟨1, 1⟩ (by rfl) (by rfl),
    by rfl, by rfl, by rfl, by rfl, by rfl, fun b => hkept _ (by rfl) (by rfl) _ b (by rfl)⟩

end Processor

end RuleFilter
