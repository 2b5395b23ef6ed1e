import RuleFilter.Path

set_option autoImplicit false

/-! # Looking up a segment, step by step

A look-up ends in an error, with nothing, or with a value (`Search`), and where it finds nothing the
next place is tried (`Search.orNext`). A record's own fields are one such place, and what each of
its flattened fields offers is another; `own_cons`, `promoted_cons` and `field_eq_orNext` say this
as equations, and nothing here or later looks into the look-up otherwise.

Two walks are compared by what they find (`Search.Agree`): the same error, nothing twice, or values
that are related. Where each step from related values agrees, so does the whole walk
(`resolve_agree`). -/

namespace RuleFilter.FieldPath

/-- What comes of looking for something. -/
abbrev Search := Except Error (Option Value)

namespace Search

/-- Looks in a second place if there is nothing in the first. -/
def orNext : Search → Search → Search
  | .ok none, next => next
  | found, _ => found

/-- Looks further from what is found, if anything is. -/
def andThen (x : Search) (further : Value → Search) : Search :=
  match x with
  | .ok (some v) => further v
  | stop => stop

/-- Both searches end in the same error, or find nothing, or find values that are related. -/
inductive Agree (rel : Value → Value → Prop) : Search → Search → Prop
  | error (e : Error) : Agree rel (.error e) (.error e)
  | nothing : Agree rel (.ok none) (.ok none)
  | found {v w : Value} (h : rel v w) : Agree rel (.ok (some v)) (.ok (some w))

namespace Agree

variable {rel rel' : Value → Value → Prop}

theorem orNext {x x' y y' : Search} (hx : Agree rel x x') (hy : Agree rel y y') :
    Agree rel (x.orNext y) (x'.orNext y') := by
  cases hx with
  | error e => exact .error e
  | nothing => exact hy
  | found h => exact .found h

theorem andThen {x x' : Search} {f f' : Value → Search} (hx : Agree rel x x')
    (hf : ∀ v v', rel v v' → Agree rel (f v) (f' v')) :
    Agree rel (x.andThen f) (x'.andThen f') := by
  cases hx with
  | error e => exact .error e
  | nothing => exact .nothing
  | found h => exact hf _ _ h

theorem mono {x y : Search} (h : Agree rel x y) (himp : ∀ v w, rel v w → rel' v w) :
    Agree rel' x y := by
  cases h with
  | error e => exact .error e
  | nothing => exact .nothing
  | found h => exact .found (himp _ _ h)

/-- Two searches that agree with what is found seen through a map agree with each other. -/
theorem trans_map {f : Value → Value} {x y z : Search} (hx : Agree (fun v v' => v' = f v) x z)
    (hy : Agree (fun v v' => v' = f v) y z) : Agree (fun v w => f v = f w) x y := by
  cases hx with
  | error e =>
      cases hy with
      | error => exact .error e
  | nothing =>
      cases hy with
      | nothing => exact .nothing
  | found hv =>
      cases hy with
      | found hw => exact .found (hv.symm.trans hw)

end Agree

end Search

namespace Walk

variable (w : Walk) (segment : String)

/-! ## The places in a record -/

/-- What the record's own fields have for the segment. -/
def own (fields : List (FieldDef × Value)) : Search :=
  match w.ownField? segment fields with
  | none => .ok none
  | some (.ok found) => .ok (some found)
  | some (.error e) => .error e

/-- What a flattened member has for the segment: a record what it finds in itself, and a map the
entry. -/
def offered : Value → Search
  | .record _ fields => w.field segment fields
  | .map entries => .ok (entries.lookup segment)
  | _ => .ok none

/-- The first field with the segment as its query name decides. -/
theorem own_cons (d : FieldDef) (v : Value) (rest : List (FieldDef × Value)) :
    w.own segment ((d, v) :: rest)
      = if d.queryName? w.source = some segment then
          if d.exported then .ok (some v) else .error (.privateField w.path segment)
        else w.own segment rest := by
  by_cases hname : d.queryName? w.source = some segment
  · cases hexported : d.exported <;> simp [own, ownField?, hname, hexported]
  · simp [own, ownField?, hname]

theorem field_eq_orNext (fields : List (FieldDef × Value)) :
    w.field segment fields = (w.own segment fields).orNext (w.promoted segment fields) := by
  rw [field, own]
  cases w.ownField? segment fields with
  | none => rfl
  | some found => cases found <;> rfl

@[simp] theorem promoted_nil : w.promoted segment [] = .ok none := by rw [promoted]

/-- What the first flattened field offers, or else what the others do. -/
theorem promoted_cons (d : FieldDef) (v : Value) (rest : List (FieldDef × Value)) :
    w.promoted segment ((d, v) :: rest)
      = if d.flatten then (w.offered segment v).orNext (w.promoted segment rest)
        else w.promoted segment rest := by
  cases v with
  | record i inner =>
      rw [promoted, offered, field]
      cases w.ownField? segment inner with
      | none => rcases w.promoted segment inner with e | _ | found <;> rfl
      | some found => cases found <;> rfl
  | map entries =>
      rw [promoted, offered]
      cases entries.lookup segment <;> rfl
  | _ => simp [promoted, offered, Search.orNext]

end Walk

/-- A path of one segment looks into a record once, among its own fields first. -/
theorem resolve_record {p : FieldPath} {segment : String} (h : p.segments = [segment])
    (source : Option String) (identity : Nat) (fields : List (FieldDef × Value)) :
    p.resolve source (.record identity fields)
      = (Walk.own ⟨p.text, source⟩ segment fields).orNext
          (Walk.promoted ⟨p.text, source⟩ segment fields) := by
  have hwalk : p.resolve source (.record identity fields)
      = Walk.along ⟨p.text, source⟩ [segment] (.record identity fields) := by
    rw [resolve, h]
    rfl
  rw [hwalk, Walk.along, Walk.step, Walk.field_eq_orNext]
  rcases Search.orNext _ _ with e | _ | found <;> rfl

/-! ## Walks that agree -/

variable {rel : Value → Value → Prop} {v v' : Value}

theorem Walk.along_cons (w : Walk) (segment : String) (segments : List String) (v : Value) :
    w.along (segment :: segments) v = Search.andThen (w.step segment v) (w.along segments) := by
  rw [along]
  rcases w.step segment v with e | _ | next <;> rfl

/-- Walks agree that take steps that agree. -/
theorem Walk.along_agree {w w' : Walk} {segments : List String}
    (hstep : ∀ segment ∈ segments, ∀ v v', rel v v' →
      Search.Agree rel (w.step segment v) (w'.step segment v'))
    (h : rel v v') : Search.Agree rel (w.along segments v) (w'.along segments v') := by
  induction segments generalizing v v' with
  | nil => exact .found h
  | cons segment segments ih =>
      rw [List.forall_mem_cons] at hstep
      obtain ⟨hhead, htail⟩ := hstep
      have hnext : Search.Agree rel (w.step segment v) (w'.step segment v') := hhead v v' h
      rw [along_cons, along_cons]
      exact hnext.andThen fun u u' hu => ih htail hu

/-- A path leads to related values from related values, where each of its segments does. -/
theorem resolve_agree {p : FieldPath} {s s' : Option String}
    (hnil : v.isNil = v'.isNil)
    (hstep : ∀ segment ∈ p.segments, ∀ v v', rel v v' →
      Search.Agree rel (Walk.step ⟨p.text, s⟩ segment v) (Walk.step ⟨p.text, s'⟩ segment v'))
    (h : rel v v') : Search.Agree rel (p.resolve s v) (p.resolve s' v') := by
  rw [resolve, resolve, hnil]
  split
  · exact .error _
  · exact Walk.along_agree hstep h

end RuleFilter.FieldPath
