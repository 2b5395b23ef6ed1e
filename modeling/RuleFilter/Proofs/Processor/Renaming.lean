import RuleFilter.Proofs.Matcher.Agreement
import RuleFilter.Proofs.Path.FieldChange
import RuleFilter.Proofs.Path.Segments
import RuleFilter.Proofs.Processor.Places

set_option autoImplicit false

/-! # Aliases are names

Looking fields up by the aliases of a source is looking them up, without a source, in records whose
fields are declared under those names (`Value.renamed`). A field that the source hides is declared
there under some name with a dot in it, which no segment of a path is. -/

namespace RuleFilter

/-- Declares fields under their query names for a source, and hidden ones under other names. -/
def FieldChange.byAlias (source : String) (hidden : FieldDef → String) : FieldChange where
  identity := id
  definition d := { d with name := (d.queryName? (some source)).getD (hidden d) }
  keeps _ := true

/-- Segments find the same fields by declared names after a renaming as by aliases before it. -/
theorem FieldChange.byAlias_respected {source segment : String} {hidden : FieldDef → String}
    (hdot : ∀ d : FieldDef, '.' ∈ (hidden d).toList) (hsegment : '.' ∉ segment.toList)
    (path : String) :
    (byAlias source hidden).Respected ⟨path, some source⟩ ⟨path, none⟩ segment where
  path := rfl
  name d := by
    have hname : ((byAlias source hidden).definition d).queryName? none
        = some ((d.queryName? (some source)).getD (hidden d)) := rfl
    rw [hname, Option.some.injEq]
    cases d.queryName? (some source) with
    | some name => rw [Option.getD_some, Option.some.injEq]
    | none =>
        -- the name given to a hidden field has a dot, and the segment has none
        have hne : hidden d ≠ segment := fun h => hsegment (h ▸ hdot d)
        simp [hne]
  exported _ := rfl
  flatten _ := rfl
  keeps _ _ := rfl

/-- The value with every field declared, at any depth, under its query name for a source, and under
a name of its own if the source hides it. -/
def Value.renamed (source : String) (hidden : FieldDef → String) (v : Value) : Value :=
  v.changed (.byAlias source hidden)

open FieldPath (Search Walk)

theorem FieldPath.resolve_agree_renamed {source : String} {hidden : FieldDef → String}
    (hdot : ∀ d : FieldDef, '.' ∈ (hidden d).toList) (p : FieldPath) (v : Value) :
    Search.Agree (fun u u' => u' = u.renamed source hidden)
      (p.resolve (some source) v) (p.resolve none (v.renamed source hidden)) :=
  resolve_changed (fun _ hsegment =>
    FieldChange.byAlias_respected hdot (not_dot_mem_of_mem_segments hsegment) p.text) v

theorem Matcher.accepts_renamed {source : String} {hidden : FieldDef → String}
    (hdot : ∀ d : FieldDef, '.' ∈ (hidden d).toList) (groups : List (List Condition)) (v : Value) :
    accepts ⟨groups, some source⟩ v = accepts ⟨groups, none⟩ (v.renamed source hidden) := by
  refine accepts_eq_of_agree (FieldPath.resolve_agree_renamed hdot · v) ?_ groups
  intro u u' hu p
  rw [hu]
  exact (p.test_changed _ u).symm

/-- **Aliases are a renaming.** With an alias source every path leads from a value to the same
error, to nothing, or to a value, as it does without a source from the renamed value, there to the
renamed value. So applying rules to a collection with a source and to the renamed collection without
one goes alike. -/
theorem Processor.aliases_are_renaming (source : String) (hidden : FieldDef → String)
    (hdot : ∀ d : FieldDef, '.' ∈ (hidden d).toList) :
    (∀ (path : FieldPath) (v : Value),
      Search.Agree (fun w w' => w' = w.renamed source hidden)
        (path.resolve (some source) v) (path.resolve none (v.renamed source hidden)))
    ∧ ∀ p q : Processor, p.settings.fieldNameTag = some source →
        q.settings = { p.settings with fieldNameTag := none } →
        ∀ {α : Type} [Candidate α] (rules : RuleSet) (items : List α),
          RunsAlike p rules items q rules
            (items.map fun x => (Candidate.value x).renamed source hidden) := by
  refine ⟨FieldPath.resolve_agree_renamed hdot, fun p q hp hq α _ rules items => ?_⟩
  refine .of_accepts (by rw [hq]) (by rw [hq]) ?_
  rw [List.forall₂_map_right_iff, List.forall₂_same]
  intro x _ groups
  have hsource : q.settings.fieldNameTag = none := by rw [hq]
  rw [hp, hsource]
  exact Matcher.accepts_renamed hdot groups (Candidate.value x)

/-- One name comes with options, one alias is empty, and a hidden member is flattened. -/
theorem Processor.aliases_are_renaming_of_account :
    let hidden : FieldDef → String := fun d => "." ++ d.name
    let base : Value := .record 2 [(⟨"pin", [("json", "code")], false, false⟩, .string "1234")]
    let account : Value :=
      .record 1 [(⟨"name", [("json", "label,omitempty")], true, false⟩, .string "ann"),
        (⟨"kind", [("json", ",omitempty")], true, false⟩, .string "guest"),
        (⟨"base", [("json", "-")], true, true⟩, base)]
    let renamed : Value :=
      .record 1 [(⟨"label", [("json", "label,omitempty")], true, false⟩, .string "ann"),
        (⟨"kind", [("json", ",omitempty")], true, false⟩, .string "guest"),
        (⟨".base", [("json", "-")], true, true⟩,
          .record 2 [(⟨"code", [("json", "code")], false, false⟩, .string "1234")])]
    let p : Processor := ⟨⟨some "json", "filter", 3, 2⟩, by decide⟩
    let q : Processor := ⟨⟨none, "filter", 3, 2⟩, by decide⟩
    let rules : RuleSet := [[⟨"label", "==", .string "ann"⟩], [⟨"code", "==", .null⟩]]
    account.renamed "json" hidden = renamed
      ∧ Search.Agree (fun w w' => w' = w.renamed "json" hidden)
          (FieldPath.resolve ⟨"base"⟩ (some "json") account)
          (FieldPath.resolve ⟨"base"⟩ none renamed)
      ∧ RunsAlike p rules [account] q rules [renamed]
      ∧ FieldPath.resolve ⟨"code"⟩ (some "json") account
          = .error (.privateField "code" "code") := by
  intro hidden base account renamed p q rules
  have hdot : ∀ d : FieldDef, '.' ∈ (hidden d).toList := by simp [hidden]
  obtain ⟨hpath, hrun⟩ := Processor.aliases_are_renaming "json" hidden hdot
  have hrenamed : account.renamed "json" hidden = renamed := by rfl
  have hcode : FieldPath.resolve ⟨"code"⟩ (some "json") account
      = .error (.privateField "code" "code") := by
    have hsegments : FieldPath.segments ⟨"code"⟩ = ["code"] := by rfl
    rw [FieldPath.resolve_record hsegments, Walk.promoted_cons, Walk.promoted_cons,
      Walk.promoted_cons]
    rfl
  exact ⟨hrenamed, hrenamed ▸ hpath ⟨"base"⟩ account,
    hrenamed ▸ hrun p q rfl rfl rules [account], hcode⟩

end RuleFilter
