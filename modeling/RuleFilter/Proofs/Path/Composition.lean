import RuleFilter.Proofs.Path.Promoted
import RuleFilter.Proofs.Path.Segments

set_option autoImplicit false

/-! # Paths one after the other

Walking a path is walking its first part and then, from what is found, the rest. Only two things
depend on where the walk began. Errors name the whole path, so those of a part are the errors of the
whole under another name (`Search.naming`); and a nil value, which as an element is an error, is
nothing to go on from when it is met on the way (`Search.into`).

A step makes use of the path in the errors it ends with and nowhere else (`Walk.step_naming`). The
rest is the law of the walk along an append (`Walk.along_append`). -/

namespace RuleFilter

/-- The error as it is when the path has another text. -/
def Error.naming (path : String) : Error → Error
  | scalarTraversal _ segment found => scalarTraversal path segment found
  | privateField _ field => privateField path field
  | nilElement _ => nilElement path
  | e => e

namespace FieldPath

namespace Search

/-- The search as it ends when the path has another text. -/
def naming (path : String) (x : Search) : Search := x.mapError (Error.naming path)

/-- Looks further from what is found. A nil value has no parts. -/
def into (x : Search) (further : Value → Search) : Search :=
  x.andThen fun v => if v.isNil then .ok none else further v

theorem andThen_assoc (x : Search) (f g : Value → Search) :
    (x.andThen f).andThen g = x.andThen fun v => (f v).andThen g := by
  rcases x with e | _ | v <;> rfl

theorem naming_andThen (path : String) (x : Search) (f : Value → Search) :
    (x.andThen f).naming path = (x.naming path).andThen fun v => (f v).naming path := by
  rcases x with e | _ | v <;> rfl

end Search

namespace Walk

/-! ## Walks along paths of other texts -/

theorem firstOffer_naming (w : Walk) (path segment : String) (offers : List (String × Offer)) :
    firstOffer ⟨path, w.source⟩ segment offers = (w.firstOffer segment offers).naming path := by
  unfold firstOffer
  rcases offers.lookup segment with _ | _ | v <;> rfl

/-- The text of the path shows in errors only. -/
theorem step_naming (w : Walk) (path segment : String) (v : Value) :
    step ⟨path, w.source⟩ segment v = Search.naming path (w.step segment v) := by
  cases v with
  | record i fields =>
      show field ⟨path, w.source⟩ segment fields = Search.naming path (w.field segment fields)
      rw [field_eq_firstOffer _ segment i, field_eq_firstOffer _ segment i, firstOffer_naming]
  | _ => rfl

theorem along_naming (w : Walk) (path : String) (segments : List String) (v : Value) :
    along ⟨path, w.source⟩ segments v = Search.naming path (w.along segments v) := by
  induction segments generalizing v with
  | nil => rfl
  | cons segment segments ih =>
      rw [along_cons, along_cons, step_naming, Search.naming_andThen]
      congr 1
      funext next
      exact ih next

/-! ## Walks one after the other -/

theorem along_append (w : Walk) (xs ys : List String) (v : Value) :
    w.along (xs ++ ys) v = Search.andThen (w.along xs v) (w.along ys) := by
  induction xs generalizing v with
  | nil => rfl
  | cons x xs ih =>
      rw [List.cons_append, along_cons, along_cons, Search.andThen_assoc]
      congr 1
      funext next
      exact ih next

/-- A nil value has nothing to go on to. -/
theorem along_of_isNil (w : Walk) {segments : List String} (h : segments ≠ []) {v : Value}
    (hv : v.isNil = true) : w.along segments v = .ok none := by
  cases segments with
  | nil => exact absurd rfl h
  | cons segment segments =>
      cases v with
      | nil => rfl
      | _ => cases hv

/-- Looks the segments up one after the other, each in what the one before it has found. -/
def stepwise (w : Walk) (segments : List String) (root : Value) : Search :=
  segments.foldl (fun found segment => found.andThen (w.step segment)) (.ok (some root))

theorem along_eq_stepwise (w : Walk) (segments : List String) (root : Value) :
    w.along segments root = w.stepwise segments root := by
  have hfold : ∀ found : Search, found.andThen (w.along segments)
      = segments.foldl (fun found segment => found.andThen (w.step segment)) found := by
    induction segments with
    | nil =>
        intro found
        rcases found with e | _ | v <;> rfl
    | cons segment segments ih =>
        intro found
        rw [List.foldl_cons, ← ih, Search.andThen_assoc]
        congr 1
        funext v
        exact w.along_cons segment segments v
  exact hfold (.ok (some root))

end Walk

/-! ## Paths -/

variable {p q : FieldPath}

theorem resolve_of_isNil (source : Option String) {root : Value} (h : root.isNil = true) :
    p.resolve source root = .error (.nilElement p.text) := by
  rw [resolve, if_pos h]

theorem resolve_of_not_isNil (source : Option String) {root : Value} (h : root.isNil = false) :
    p.resolve source root = Walk.along ⟨p.text, source⟩ p.segments root := by
  rw [resolve, h]
  rfl

theorem resolve_append (hp : p.text ≠ "") (hq : q.text ≠ "") (source : Option String)
    (root : Value) :
    (p.append q).resolve source root
      = Search.naming (p.append q).text
          (Search.into (p.resolve source root) (q.resolve source)) := by
  cases hroot : root.isNil with
  | true =>
      rw [resolve_of_isNil source hroot, resolve_of_isNil source hroot]
      rfl
  | false =>
      rw [resolve_of_not_isNil source hroot, resolve_of_not_isNil source hroot,
        segments_append hp hq, Walk.along_append, Search.into, Search.naming_andThen,
        Walk.along_naming ⟨p.text, source⟩]
      congr 1
      funext v
      -- what is found is an element to the rest of the path, unless it is nil
      cases hv : v.isNil with
      | true => exact Walk.along_of_isNil _ (segments_ne_nil hq) hv
      | false =>
          rw [resolve_of_not_isNil source hv]
          exact Walk.along_naming ⟨q.text, source⟩ _ q.segments v

/-- A nil value that is met on the way is nothing to go on from. -/
theorem resolve_of_stepwise_nil {before after : List String}
    (hsegments : p.segments = before ++ after)
    (hafter : after ≠ []) (source : Option String) {root : Value} (hroot : root.isNil = false)
    (hnil : Walk.stepwise ⟨p.text, source⟩ before root = .ok (some .nil)) :
    p.resolve source root = .ok none := by
  rw [resolve_of_not_isNil source hroot, hsegments, Walk.along_append, Walk.along_eq_stepwise, hnil]
  exact Walk.along_of_isNil _ hafter rfl

/-- **Paths are walked part by part.** From an element two paths with a dot between them lead to
what the second leads to from what the first has found, or to nothing where the first has found
nothing or nil; where a part fails, they fail as it does, under the name of the whole path. So a
path looks its segments up one after the other. A nil element is an error, and a nil value that is
met with segments left is nothing found. -/
theorem paths_walked_part_by_part (source : Option String) (root : Value) :
    (∀ p q : FieldPath, p.text ≠ "" → q.text ≠ "" →
      (p.append q).resolve source root
        = Search.naming (p.append q).text
            (Search.into (p.resolve source root) (q.resolve source)))
    ∧ (∀ p : FieldPath, p.resolve source root
        = if root.isNil then .error (.nilElement p.text)
          else Walk.stepwise ⟨p.text, source⟩ p.segments root)
    ∧ ∀ (p : FieldPath) (before after : List String), p.segments = before ++ after → after ≠ [] →
        root.isNil = false → Walk.stepwise ⟨p.text, source⟩ before root = .ok (some .nil) →
        p.resolve source root = .ok none := by
  refine ⟨fun p q hp hq => resolve_append hp hq source root, fun p => ?_,
    fun p before after hsegments hafter hroot hnil =>
      resolve_of_stepwise_nil hsegments hafter source hroot hnil⟩
  rw [← Walk.along_eq_stepwise]
  rfl

/-- A dot at the end of the first part makes an empty segment, which is a key here; behind it a
private field is an error of the whole path, and a nil field has no parts. -/
theorem paths_walked_part_by_part_to_keeper :
    let keeper : Value := .record 2 [(⟨"name", [], true, false⟩, .nil),
      (⟨"code", [], false, false⟩, .string "k")]
    let root : Value := .record 1 [(⟨"owner", [], true, false⟩, .map [("", keeper)])]
    let first : FieldPath := ⟨"owner."⟩
    let last : FieldPath := ⟨"code"⟩
    let further : FieldPath := ⟨"owner..name.first"⟩
    first.text ≠ "" ∧ last.text ≠ "" ∧ (first.append last).text = "owner..code"
      ∧ first.resolve none root = .ok (some keeper)
      ∧ last.resolve none keeper = .error (.privateField "code" "code")
      ∧ (first.append last).resolve none root = .error (.privateField "owner..code" "code")
      ∧ further.segments = ["owner", "", "name"] ++ ["first"]
      ∧ Walk.stepwise ⟨further.text, none⟩ ["owner", "", "name"] root = .ok (some .nil)
      ∧ further.resolve none root = .ok none := by
  intro keeper root first last further
  have hfirst : first.resolve none root = .ok (some keeper) := by
    have hsegments : segments ⟨"owner."⟩ = ["owner", ""] := by rfl
    rw [resolve_of_not_isNil none rfl, hsegments]
    rfl
  have hlast : last.resolve none keeper = .error (.privateField "code" "code") := by
    have hsegments : segments ⟨"code"⟩ = ["code"] := by rfl
    rw [resolve_of_not_isNil none rfl, hsegments]
    rfl
  have hsegments : segments ⟨"owner..name.first"⟩ = ["owner", "", "name"] ++ ["first"] := by rfl
  have hnil : Walk.stepwise ⟨further.text, none⟩ ["owner", "", "name"] root = .ok (some .nil) := by
    rfl
  obtain ⟨happend, -, hnothing⟩ := paths_walked_part_by_part none root
  have hwhole := happend first last (by decide) (by decide)
  rw [hfirst, Search.into, Search.andThen] at hwhole
  refine ⟨by decide, by decide, rfl, hfirst, hlast, ?_, hsegments, hnil,
    hnothing further _ _ hsegments (by simp) rfl hnil⟩
  rw [hwhole]
  exact congrArg (Search.naming "owner..code") hlast

end FieldPath

end RuleFilter
