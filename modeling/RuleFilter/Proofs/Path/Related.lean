import Mathlib.Data.List.Forall2
import RuleFilter.Proofs.Path.Search

set_option autoImplicit false

/-! # Walks from related values

Whether related values keep together along a path is decided step by step, and a step looks at the
surface of a value only: whether it can be searched, under which names, and what it holds there
(`Walk.SameSurface`). What flattened members offer is found by searching their surfaces in turn. So
a relation between values of the same surface is kept by every step (`Walk.step_related`) and by
every walk (`resolve_related`). -/

namespace RuleFilter.FieldPath

namespace Walk

/-- A segment finds the second field where it finds the first, both may be read or neither, and what
can be read in them is related. -/
structure SameField (rel : Value → Value → Prop) (w w' : Walk) (segment : String)
    (f f' : FieldDef × Value) : Prop where
  name : f'.1.queryName? w'.source = some segment ↔ f.1.queryName? w.source = some segment
  exported : f'.1.exported = f.1.exported
  flatten : f'.1.flatten = f.1.flatten
  value : f.1.exported = true ∨ f.1.flatten = true → rel f.2 f'.2

/-- A path that goes on from the value fails. -/
def Closed (v : Value) : Prop := v.isNil = false ∧ v.isNavigable = false

/-- A segment has the same to look at in both values, and what it finds there is related. -/
inductive SameSurface (rel : Value → Value → Prop) (w w' : Walk) (segment : String) :
    Value → Value → Prop
  | nil : SameSurface rel w w' segment .nil .nil
  | closed {v v' : Value} (hkind : v'.kind = v.kind) (h : Closed v) (h' : Closed v') :
      SameSurface rel w w' segment v v'
  | map {entries entries' : List (String × Value)}
      (h : Search.Agree rel (.ok (entries.lookup segment)) (.ok (entries'.lookup segment))) :
      SameSurface rel w w' segment (.map entries) (.map entries')
  | record {i j : Nat} {fields fields' : List (FieldDef × Value)}
      (h : List.Forall₂ (SameField rel w w' segment) fields fields') :
      SameSurface rel w w' segment (.record i fields) (.record j fields')

/-! ## Values that no path goes on from -/

theorem Closed.offered_eq {v : Value} (h : Closed v) (w : Walk) (segment : String) :
    w.offered segment v = .ok none := by
  obtain ⟨-, hnavigable⟩ := h
  cases v with
  | map | record => cases hnavigable
  | _ => rfl

theorem Closed.step_eq {v : Value} (h : Closed v) (w : Walk) (segment : String) :
    w.step segment v = .error (.scalarTraversal w.path segment v.kind) := by
  obtain ⟨hnil, hnavigable⟩ := h
  cases v with
  | nil => cases hnil
  | map | record => cases hnavigable
  | _ => rfl

/-! ## Steps -/

variable {rel : Value → Value → Prop} {w w' : Walk} {segment : String}

theorem own_related (hpath : w'.path = w.path) {fields fields' : List (FieldDef × Value)}
    (h : List.Forall₂ (SameField rel w w' segment) fields fields') :
    Search.Agree rel (w.own segment fields) (w'.own segment fields') := by
  induction h with
  | nil => exact .nothing
  | @cons f f' fields fields' hf _ ih =>
      obtain ⟨d, v⟩ := f
      obtain ⟨d', v'⟩ := f'
      obtain ⟨hname, hexported, -, hvalue⟩ := hf
      simp only at hname hexported hvalue
      rw [own_cons, own_cons, hexported, hpath]
      simp only [hname]
      split
      · split
        · next hreadable => exact .found (hvalue (Or.inl hreadable))
        · exact .error _
      · exact ih

/-- Values that cannot be searched offer nothing, the one as the other. -/
theorem SameSurface.offered_agree {v v' : Value} (h : SameSurface rel w w' segment v v')
    (hclosed : v.isNavigable = false) :
    Search.Agree rel (w.offered segment v) (w'.offered segment v') := by
  cases h with
  | nil => exact .nothing
  | closed _ h h' =>
      rw [h.offered_eq, h'.offered_eq]
      exact .nothing
  | map | record => cases hclosed

-- What a flattened member offers is what it finds in itself, and that may be promoted again: the
-- recursion is on the value for the one and on its fields for the other.
mutual

theorem offered_related (hpath : w'.path = w.path)
    (hrel : ∀ u u' : Value, rel u u' → SameSurface rel w w' segment u u')
    (v : Value) {v' : Value} (h : rel v v') :
    Search.Agree rel (w.offered segment v) (w'.offered segment v') := by
  match v with
  | .nil | .bool _ | .number _ | .string _ | .list _ => exact (hrel _ _ h).offered_agree rfl
  | .map entries =>
      cases hrel _ _ h with
      | map hlookup => exact hlookup
      | closed _ hclosed _ => cases hclosed.2
  | .record i fields =>
      cases hrel _ _ h with
      | record hfields =>
          rw [offered, offered, field_eq_orNext, field_eq_orNext]
          exact (own_related hpath hfields).orNext (promoted_related hpath hrel fields hfields)
      | closed _ hclosed _ => cases hclosed.2

theorem promoted_related (hpath : w'.path = w.path)
    (hrel : ∀ u u' : Value, rel u u' → SameSurface rel w w' segment u u')
    (fields : List (FieldDef × Value)) {fields' : List (FieldDef × Value)}
    (h : List.Forall₂ (SameField rel w w' segment) fields fields') :
    Search.Agree rel (w.promoted segment fields) (w'.promoted segment fields') := by
  match fields, fields', h with
  | [], [], .nil =>
      rw [promoted_nil, promoted_nil]
      exact .nothing
  | (d, v) :: rest, (d', v') :: rest', .cons hfield hrest =>
      obtain ⟨-, -, hflatten, hvalue⟩ := hfield
      simp only at hflatten hvalue
      have hlater := promoted_related hpath hrel rest hrest
      rw [promoted_cons, promoted_cons, hflatten]
      split
      · next hreadable =>
          exact (offered_related hpath hrel v (hvalue (Or.inr hreadable))).orNext hlater
      · exact hlater

end

/-- A step leads from related values to related values. -/
theorem step_related (hpath : w'.path = w.path)
    (hrel : ∀ u u' : Value, rel u u' → SameSurface rel w w' segment u u')
    {v v' : Value} (h : rel v v') :
    Search.Agree rel (w.step segment v) (w'.step segment v') := by
  cases hrel v v' h with
  | nil => exact .nothing
  | closed hkind hclosed hclosed' =>
      rw [hclosed.step_eq, hclosed'.step_eq, hpath, hkind]
      exact .error _
  | map hlookup => exact hlookup
  | record hfields => exact offered_related hpath hrel (.record _ _) h

end Walk

/-- A path leads from related values to the same error, to nothing, or to related values, where
related values have the same surface for each of its segments. -/
theorem resolve_related {rel : Value → Value → Prop} {p : FieldPath} {s s' : Option String}
    (hrel : ∀ segment ∈ p.segments, ∀ u u' : Value, rel u u' →
      Walk.SameSurface rel ⟨p.text, s⟩ ⟨p.text, s'⟩ segment u u')
    {v v' : Value} (hnil : v.isNil = v'.isNil) (h : rel v v') :
    Search.Agree rel (p.resolve s v) (p.resolve s' v') := by
  refine resolve_agree hnil (fun segment hsegment u u' huu' => ?_) h
  have hpath : (⟨p.text, s'⟩ : Walk).path = (⟨p.text, s⟩ : Walk).path := rfl
  exact Walk.step_related hpath (hrel segment hsegment) huu'

end RuleFilter.FieldPath
