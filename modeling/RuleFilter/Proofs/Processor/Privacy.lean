import RuleFilter.Proofs.Matcher.Agreement
import RuleFilter.Proofs.Path.FieldChange
import RuleFilter.Proofs.Processor.Places

set_option autoImplicit false

/-! # Private fields are not observed

A field is private when it is neither exported nor flattened. Taking out what private fields hold,
at any depth, and which objects the records are leaves all that queries may depend on
(`Value.redacted`). Values that differ in nothing else (`Value.SameButPrivate`) cannot be told
apart: along every path the same is found or the same error met, and every rule set makes the same
of them, alone and in collections. -/

namespace RuleFilter

/-- Queries can reach what the field holds, by its name or by promotion. -/
def FieldDef.isReadable (d : FieldDef) : Bool := d.exported || d.flatten

/-- Takes out of records what their private fields hold, and which objects they are. -/
def FieldChange.redaction : FieldChange := ⟨fun _ => 0, id, FieldDef.isReadable⟩

/-- A walk reads no private field and no identity. -/
theorem FieldChange.redaction_respected (w : FieldPath.Walk) (segment : String) :
    redaction.Respected w w segment where
  path := rfl
  name _ := Iff.rfl
  exported _ := rfl
  flatten _ := rfl
  keeps d h := by
    rcases h with h | h <;> simp [redaction, FieldDef.isReadable, h]

namespace Value

/-- The value without what private fields hold at any depth, and without identities. -/
def redacted (v : Value) : Value := v.changed .redaction

/-- The values have the same shape and the same field definitions everywhere, and differ only in
what private fields hold. -/
def SameButPrivate (v w : Value) : Prop := v.redacted = w.redacted

theorem respects_sameButPrivate : Predicate.Respects SameButPrivate := by
  intro v w h p
  rw [← p.test_changed .redaction v, ← p.test_changed .redaction w]
  exact congrArg p.test h

theorem SameButPrivate.resolve_agree {v w : Value} (h : v.SameButPrivate w) (p : FieldPath)
    (source : Option String) :
    FieldPath.Search.Agree SameButPrivate (p.resolve source v) (p.resolve source w) := by
  have hresolve : ∀ u : Value,
      FieldChange.redaction.Agree (p.resolve source u) (p.resolve source u.redacted) :=
    FieldPath.resolve_changed fun segment _ => FieldChange.redaction_respected _ segment
  exact (hresolve v).trans_map (h ▸ hresolve w)

theorem SameButPrivate.accepts_eq {v w : Value} (h : v.SameButPrivate w) (m : Matcher) :
    m.accepts v = m.accepts w :=
  Matcher.accepts_eq_of_agree (h.resolve_agree · m.source) respects_sameButPrivate m.groups

end Value

open FieldPath (Search Walk)

/-- **Private fields are not observed.** From values that differ only in what private fields hold,
every path leads to the same error, to nothing twice, or to values that again differ only so. Every
matcher has the same answer for them, and applying rules to collections of them goes alike. -/
theorem Processor.private_fields_unobservable :
    (∀ v w : Value, v.SameButPrivate w →
      (∀ (path : FieldPath) (source : Option String),
        Search.Agree Value.SameButPrivate (path.resolve source v) (path.resolve source w))
      ∧ ∀ m : Matcher, m.accepts v = m.accepts w)
    ∧ ∀ {α β : Type} [Candidate α] [Candidate β] (items : List α) (items' : List β),
        List.Forall₂ (fun x y => (Candidate.value x).SameButPrivate (Candidate.value y))
          items items' →
        ∀ (p : Processor) (rules : RuleSet), RunsAlike p rules items p rules items' := by
  constructor
  · intro v w h
    exact ⟨h.resolve_agree, h.accepts_eq⟩
  · intro α β _ _ items items' h p rules
    refine .of_accepts rfl rfl (h.imp fun x y hxy groups => ?_)
    exact hxy.accepts_eq ⟨groups, p.settings.fieldNameTag⟩

/-- A password and a pin differ in kind and are not told apart, while what stands beside the pin in
a private member is read. -/
theorem Processor.private_fields_unobservable_in_account :
    let account (password pin : Value) : Value :=
      .record 1 [(⟨"name", [], true, false⟩, .string "ann"),
        (⟨"password", [], false, false⟩, password),
        (⟨"base", [], false, true⟩, .record 2 [(⟨"id", [], true, false⟩, .string "a7"),
          (⟨"pin", [], false, false⟩, pin)])]
    let v := account (.string "secret") .nil
    let w := account .nil (.number (.signed 1234))
    let rules : RuleSet := [[⟨"id", "==", .string "a7"⟩], [⟨"password", "==", .null⟩]]
    v.SameButPrivate w
      ∧ Search.Agree Value.SameButPrivate (FieldPath.resolve ⟨"base.pin"⟩ none v)
          (FieldPath.resolve ⟨"base.pin"⟩ none w)
      ∧ (∀ m : Matcher, m.accepts v = m.accepts w)
      ∧ RunsAlike Processor.initial rules [v] Processor.initial rules [w]
      ∧ FieldPath.resolve ⟨"id"⟩ none v = .ok (some (.string "a7"))
      ∧ (Processor.initial.apply [[⟨"password", "==", .null⟩]] [v]).answer
          = .error (.privateField "password" "password") := by
  intro account v w rules
  have h : v.SameButPrivate w := by rfl
  obtain ⟨hpath, hmatcher⟩ := Processor.private_fields_unobservable.1 v w h
  have hid : FieldPath.resolve ⟨"id"⟩ none v = .ok (some (.string "a7")) := by
    have hsegments : FieldPath.segments ⟨"id"⟩ = ["id"] := by rfl
    rw [FieldPath.resolve_record hsegments, Walk.promoted_cons, Walk.promoted_cons,
      Walk.promoted_cons]
    rfl
  exact ⟨h, hpath ⟨"base.pin"⟩ none, hmatcher,
    Processor.private_fields_unobservable.2 [v] [w] (.cons h .nil) Processor.initial rules, hid,
    by rfl⟩

end RuleFilter
