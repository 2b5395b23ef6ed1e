import RuleFilter.Processor.Basic
import RuleFilter.Proofs.Entries
import RuleFilter.Proofs.Rule.Normal

set_option autoImplicit false

/-! # A request's query means its rules

Of the parameters of a request a processor looks at one, the first that has its key
(`Processor.parseQuery_of_first`). What has other keys may come and go and change places, and what
follows may be anything: none of it is even read (`Processor.parseQuery_congr`). Rules that are
carried there as they are written are the rules that are applied. -/

namespace RuleFilter

/-- A list of rules has a text of at least two brackets. -/
theorem RuleSet.toText_ne_empty (rules : RuleSet) : rules.toText ≠ "" := by
  obtain ⟨c, cs, hrender, -⟩ := Json.startsValue_render rules.toJson
  intro h
  rw [toText, Json.text, hrender, ← String.ofList_nil, String.ofList_inj] at h
  cases h

namespace Processor

variable {p : Processor} {params params' before after : List (String × String)} {text : String}

/-! ## The parameter that counts -/

/-- The text of the first pair with the key is read, unless it is empty. -/
theorem parseQuery_of_first (h : p.settings.queryKey ∉ before.map Prod.fst) :
    p.parseQuery (before ++ (p.settings.queryKey, text) :: after)
      = if text = "" then .ok [] else RuleSet.ofText text := by
  have hlookup : (before ++ (p.settings.queryKey, text) :: after).lookup p.settings.queryKey
      = some text := by
    rw [List.lookup_append, lookup_eq_none_iff_not_mem.2 h, List.lookup_cons_self, Option.none_or]
  rw [parseQuery, hlookup]

/-- Where no pair has the key there are no rules. -/
theorem parseQuery_of_not_mem (h : p.settings.queryKey ∉ params.map Prod.fst) :
    p.parseQuery params = .ok [] := by
  rw [parseQuery, lookup_eq_none_iff_not_mem.2 h]

/-- **Only the first pair with the key counts.** -/
theorem parseQuery_congr
    (h : (params.filter (·.1 = p.settings.queryKey)).head?
      = (params'.filter (·.1 = p.settings.queryKey)).head?) :
    p.parseQuery params = p.parseQuery params' := by
  rw [parseQuery, parseQuery, lookup_eq_head?_filter, lookup_eq_head?_filter, h]

/-- Behind the first pair with the key anything may stand. -/
theorem parseQuery_append_congr (before after after' : List (String × String)) (text : String) :
    p.parseQuery (before ++ (p.settings.queryKey, text) :: after)
      = p.parseQuery (before ++ (p.settings.queryKey, text) :: after') := by
  refine parseQuery_congr ?_
  simp [List.filter_append, List.head?_append]

/-- What cannot be read is the text of that pair. -/
theorem parseQuery_eq_error_iff {e : Error} :
    p.parseQuery params = .error e ↔ ∃ before text after,
      params = before ++ (p.settings.queryKey, text) :: after
        ∧ p.settings.queryKey ∉ before.map Prod.fst ∧ text ≠ ""
        ∧ RuleSet.ofText text = .error e := by
  constructor
  · intro h
    cases hlookup : params.lookup p.settings.queryKey with
    | none =>
        rw [parseQuery, hlookup] at h
        cases h
    | some text =>
        obtain ⟨before, after, rfl, hbefore⟩ := List.lookup_eq_some_iff.1 hlookup
        have hfresh : p.settings.queryKey ∉ before.map Prod.fst := by
          intro hmem
          obtain ⟨e, he, hkey⟩ := List.mem_map.1 hmem
          have hne := hbefore e he
          rw [hkey, bne_self_eq_false] at hne
          cases hne
        rw [parseQuery_of_first hfresh] at h
        split at h
        · cases h
        · next htext => exact ⟨before, text, after, rfl, hfresh, htext, h⟩
  · rintro ⟨before, text, after, rfl, hfresh, htext, herror⟩
    rw [parseQuery_of_first hfresh, if_neg htext, herror]

/-! ## Rules in a request -/

/-- Reads the rules of a request and goes on with them, if they can be read. -/
def afterQuery {β : Type} (p : Processor) (params : List (String × String)) (given : β)
    (work : RuleSet → Outcome β) : Outcome β :=
  match p.parseQuery params with
  | .ok rules => work rules
  | .error e => ⟨given, .error e⟩

/-- Rules that are read back are what their text means in a request. -/
theorem parseQuery_toText {rules : RuleSet} (hrules : RuleSet.ofText rules.toText = .ok rules)
    (h : p.settings.queryKey ∉ before.map Prod.fst) :
    p.parseQuery (before ++ (p.settings.queryKey, rules.toText) :: after) = .ok rules := by
  rw [parseQuery_of_first h, if_neg rules.toText_ne_empty, hrules]

/-- **A request's query means its rules.** Requests have the same rules, or the same error, where
their pairs with the processor's key are the same, whatever other pairs stand before, between and
after them, and where they are the same up to the first such pair. Without such a pair, or with an
empty first one, there are no rules; and an error is one of the first pair's text. Where that text
is written from rules whose numbers are read back, a request does to every collection what the rules
do. -/
theorem query_means_its_rules (p : Processor) :
    (∀ params params' : List (String × String),
        params.filter (·.1 = p.settings.queryKey) = params'.filter (·.1 = p.settings.queryKey) →
          p.parseQuery params = p.parseQuery params')
      ∧ (∀ (before after after' : List (String × String)) (text : String),
          p.parseQuery (before ++ (p.settings.queryKey, text) :: after)
            = p.parseQuery (before ++ (p.settings.queryKey, text) :: after'))
      ∧ (∀ params : List (String × String), p.settings.queryKey ∉ params.map Prod.fst →
          p.parseQuery params = .ok [])
      ∧ (∀ before after : List (String × String), p.settings.queryKey ∉ before.map Prod.fst →
          p.parseQuery (before ++ (p.settings.queryKey, "") :: after) = .ok [])
      ∧ (∀ (params : List (String × String)) (e : Error),
          p.parseQuery params = .error e ↔ ∃ before text after,
            params = before ++ (p.settings.queryKey, text) :: after
              ∧ p.settings.queryKey ∉ before.map Prod.fst ∧ text ≠ ""
              ∧ RuleSet.ofText text = .error e)
      ∧ ∀ (rules : RuleSet) (before after : List (String × String)),
          (∀ rule ∈ rules.flatten, rule.value.reference.IsFinite
            ∧ (∀ x ∈ rule.value.reference.numbers, Number.ReadsBack (.double x))
            ∧ rule.value.reference.depth ≤ 124) →
          p.settings.queryKey ∉ before.map Prod.fst →
          let params := before ++ (p.settings.queryKey, rules.toText) :: after
          p.parseQuery params = .ok rules
            ∧ (∀ {α : Type} [Candidate α] (items : List α),
                p.afterQuery params items (p.apply · items) = p.apply rules items)
            ∧ ∀ document : Json,
                p.afterQuery params document (p.applyJson · document)
                  = p.applyJson rules document := by
  refine ⟨fun params params' h => parseQuery_congr (congrArg List.head? h), parseQuery_append_congr,
    fun params => parseQuery_of_not_mem, fun before after h => ?_,
    fun params e => parseQuery_eq_error_iff, fun rules before after hrules hfresh => ?_⟩
  · rw [parseQuery_of_first h, if_pos rfl]
  · intro params
    have hagain : RuleSet.ofText rules.toText = .ok rules := by
      refine RuleSet.ofText_of_writable (fun group hgroup rule hmem => ?_)
        fun rule hmem => (hrules rule hmem).2.1
      obtain ⟨hfinite, -, hdepth⟩ := hrules rule (List.mem_flatten.2 ⟨group, hgroup, hmem⟩)
      exact ⟨hfinite, hdepth⟩
    have hparse : p.parseQuery params = .ok rules := parseQuery_toText hagain hfresh
    refine ⟨hparse, fun items => ?_, fun document => ?_⟩ <;> rw [afterQuery, hparse]

/-- What is no JSON stands under another key and in a second pair of the key; the first pair has the
rules that an item is true or less than a half. -/
theorem query_means_its_rules_among_others :
    let half : Double := .ofRatio false 1 2
    let rules : RuleSet := [[⟨"", "==", .bool true⟩, ⟨"", "<", .number half⟩]]
    let params := [("page", "]"), ("filter", rules.toText), ("filter", "[")]
    initial.afterQuery params [true, false, true] (initial.apply · [true, false, true])
        = ⟨[true, true], .ok ⟨2, 2⟩⟩
      ∧ initial.parseQuery params = initial.parseQuery [("filter", rules.toText), ("sort", "")]
      ∧ initial.parseQuery [("filter", ""), ("filter", rules.toText)] = .ok []
      ∧ initial.parseQuery [("Filter", rules.toText)] = .ok [] := by
  intro half rules params
  obtain ⟨hothers, hbehind, hnone, hempty, -, hcarried⟩ := query_means_its_rules initial
  have hrules : ∀ rule ∈ rules.flatten, rule.value.reference.IsFinite
      ∧ (∀ x ∈ rule.value.reference.numbers, Number.ReadsBack (.double x))
      ∧ rule.value.reference.depth ≤ 124 := by
    have hhalf : half.isFinite = true ∧ Number.ReadsBack (.double half) := by decide +kernel
    simp [rules, hhalf, Reference.IsFinite, Reference.numbers, Reference.depth]
  obtain ⟨-, happly, -⟩ := hcarried rules [("page", "]")] [("filter", "[")] hrules (by decide)
  have hpage : initial.parseQuery params
      = initial.parseQuery [("filter", rules.toText), ("filter", "[")] := hothers _ _ rfl
  have hsecond := hbehind [] [("filter", "[")] [("sort", "")] rules.toText
  exact ⟨(happly [true, false, true]).trans (by cbv), hpage.trans hsecond,
    hempty [] [("filter", rules.toText)] (by decide), hnone _ (by simp [rules]; decide)⟩

end Processor

end RuleFilter
