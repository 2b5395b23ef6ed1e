import RuleFilter.Proofs.Matcher.Agreement
import RuleFilter.Proofs.Path.Related
import RuleFilter.Proofs.Processor.Places
import RuleFilter.Proofs.Value.Alike

set_option autoImplicit false

/-! # Representation is not observed

Values that are alike show the same surface to every walk, and no predicate tells them apart. So
rules make the same of them, alone and in collections: what is answered depends neither on the order
in which a map happens to list its entries nor on the width in which a number is held. -/

namespace RuleFilter

open FieldPath (Search Walk)

/-! ## Walks -/

theorem Value.AlikeEntries.lookup_agree {entries entries' : List (String × Value)}
    (h : Value.AlikeEntries entries entries') (k : String) :
    Search.Agree Value.Alike (.ok (entries.lookup k)) (.ok (entries'.lookup k)) := by
  cases h with
  | nil => exact .nothing
  | @cons k' _ _ _ _ head tail =>
      rw [List.lookup_cons, List.lookup_cons]
      cases k == k' with
      | true => exact .found head
      | false => exact tail.lookup_agree k

theorem Value.AlikeFields.sameField {w : Walk} {segment : String}
    {fields fields' : List (FieldDef × Value)} (h : Value.AlikeFields fields fields') :
    List.Forall₂ (Walk.SameField Value.Alike w w segment) fields fields' := by
  match h with
  | .nil => exact .nil
  | .cons head tail => exact .cons ⟨Iff.rfl, rfl, rfl, fun _ => head⟩ tail.sameField

/-- Values that are alike show a segment the same surface. -/
theorem Value.Alike.sameSurface {v v' : Value} (h : v.Alike v') (w : Walk) (segment : String) :
    Walk.SameSurface Value.Alike w w segment v v' := by
  cases h with
  | nil => exact .nil
  | map h horder => exact .map (horder.lookup_eq segment ▸ h.lookup_agree segment)
  | record h => exact .record h.sameField
  | _ => exact .closed rfl ⟨rfl, rfl⟩ ⟨rfl, rfl⟩

theorem Value.Alike.resolve_agree {v v' : Value} (h : v.Alike v') (p : FieldPath)
    (source : Option String) :
    Search.Agree Value.Alike (p.resolve source v) (p.resolve source v') :=
  FieldPath.resolve_related (fun segment _ _ _ hu => hu.sameSurface ⟨p.text, source⟩ segment)
    h.isNil_eq h

/-! ## Answers -/

theorem Predicate.respects_alike : Predicate.Respects Value.Alike :=
  fun _ _ h p => p.test_eq_of_alike h

theorem Value.Alike.accepts_eq {v v' : Value} (h : v.Alike v') (m : Matcher) :
    m.accepts v = m.accepts v' :=
  Matcher.accepts_eq_of_agree (h.resolve_agree · m.source) Predicate.respects_alike m.groups

/-- **Representation is not observed.** From values that are alike every path leads to the same
error, to nothing twice, or to values that are alike again. Every matcher has the same answer for
them, and applying rules to collections of them, element by element, goes alike. -/
theorem Processor.representation_unobservable :
    (∀ v v' : Value, v.Alike v' →
      (∀ (path : FieldPath) (source : Option String),
        Search.Agree Value.Alike (path.resolve source v) (path.resolve source v'))
      ∧ ∀ m : Matcher, m.accepts v = m.accepts v')
    ∧ ∀ {α β : Type} [Candidate α] [Candidate β] (items : List α) (items' : List β),
        List.Forall₂ (fun x y => (Candidate.value x).Alike (Candidate.value y)) items items' →
        ∀ (p : Processor) (rules : RuleSet), RunsAlike p rules items p rules items' := by
  constructor
  · intro v v' h
    exact ⟨h.resolve_agree, h.accepts_eq⟩
  · intro α β _ _ items items' h p rules
    refine .of_accepts rfl rfl (h.imp fun x y hxy groups => ?_)
    exact hxy.accepts_eq ⟨groups, p.settings.fieldNameTag⟩

/-- A flattened map and one within a list are listed in another order, an integer changes its width
and another becomes the double minus zero. -/
theorem Processor.representation_unobservable_in_stock :
    let stock (range extra : Value) (identity : Nat) : Value :=
      .record identity [(⟨"ranges", [], true, false⟩, .list [range]),
        (⟨"extra", [], false, true⟩, extra)]
    let v := stock (.map [("lo", .number (.signed 0)), ("hi", .number (.unsigned 3))])
      (.map [("open", .bool true), ("note", .nil)]) 1
    let v' := stock (.map [("hi", .number (.signed 3)), ("lo", .number (.double (.zero true)))])
      (.map [("note", .nil), ("open", .bool true)]) 2
    let rules : RuleSet := [[⟨"ranges", "<", .number (.ofNat 2)⟩], [⟨"note", "!==", .null⟩]]
    v.Alike v'
      ∧ Search.Agree Value.Alike (FieldPath.resolve ⟨"open"⟩ none v)
          (FieldPath.resolve ⟨"open"⟩ none v')
      ∧ (∀ m : Matcher, m.accepts v = m.accepts v')
      ∧ RunsAlike Processor.initial rules [v] Processor.initial rules [v'] := by
  intro stock v v' rules
  have hzero : (Number.signed 0).toDouble.SamePlace (Number.double (.zero true)).toDouble :=
    Or.inr (by decide +kernel)
  have hthree : (Number.unsigned 3).toDouble.SamePlace (Number.signed 3).toDouble := Or.inl rfl
  have hrange : (Value.map [("lo", .number (.signed 0)), ("hi", .number (.unsigned 3))]).Alike
      (.map [("hi", .number (.signed 3)), ("lo", .number (.double (.zero true)))]) :=
    .map (.cons (.number hzero) (.cons (.number hthree) .nil))
      (.reordered (by decide) (List.Perm.swap _ _ _))
  have hextra : (Value.map [("open", .bool true), ("note", .nil)]).Alike
      (.map [("note", .nil), ("open", .bool true)]) :=
    .map (.cons (.bool true) (.cons .nil .nil)) (.reordered (by decide) (List.Perm.swap _ _ _))
  have h : v.Alike v' := .record (.cons (.list (.cons hrange .nil)) (.cons hextra .nil))
  obtain ⟨hpath, hmatcher⟩ := Processor.representation_unobservable.1 v v' h
  exact ⟨h, hpath ⟨"open"⟩ none, hmatcher,
    Processor.representation_unobservable.2 [v] [v'] (.cons h .nil) Processor.initial rules⟩

end RuleFilter
