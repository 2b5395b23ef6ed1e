import RuleFilter.Proofs.Path.Related
import RuleFilter.Proofs.Value.FieldChange

set_option autoImplicit false

/-! # Walks through changed records

A change of records is respected by walks when segments find the same fields before and after it and
what may be read is kept (`FieldChange.Respected`). Then the changed value has the surface of the
value, and every path leads from it to what it leads to from the value, changed
(`resolve_changed`). -/

namespace RuleFilter

open FieldPath (Search Walk)

/-- The first walk finds, before the change, what the second finds after it. -/
structure FieldChange.Respected (c : FieldChange) (w w' : Walk) (segment : String) : Prop where
  path : w'.path = w.path
  name : ∀ d : FieldDef, (c.definition d).queryName? w'.source = some segment
    ↔ d.queryName? w.source = some segment
  exported : ∀ d : FieldDef, (c.definition d).exported = d.exported
  flatten : ∀ d : FieldDef, (c.definition d).flatten = d.flatten
  keeps : ∀ d : FieldDef, d.exported = true ∨ d.flatten = true → c.keeps d = true

/-- What is found after a change is what is found before it, changed. -/
abbrev FieldChange.Agree (c : FieldChange) : Search → Search → Prop :=
  Search.Agree fun v v' => v' = v.changed c

namespace FieldPath.Walk

variable {c : FieldChange} {w w' : Walk} {segment : String}

theorem sameField_changedFields (h : c.Respected w w' segment)
    (fields : List (FieldDef × Value)) :
    List.Forall₂ (SameField (fun v v' => v' = v.changed c) w w' segment) fields
      (Value.changedFields c fields) := by
  induction fields with
  | nil => exact .nil
  | cons f rest ih =>
      obtain ⟨d, v⟩ := f
      refine .cons ⟨h.name d, h.exported d, h.flatten d, fun hreadable => ?_⟩ ih
      exact if_pos (h.keeps d hreadable)

/-- A change that is respected leaves the surface of a value as it is. -/
theorem sameSurface_changed (h : c.Respected w w' segment) (v : Value) :
    SameSurface (fun v v' => v' = v.changed c) w w' segment v (v.changed c) := by
  cases v with
  | nil => exact .nil
  | map entries =>
      refine .map ?_
      rw [Value.lookup_changedEntries]
      cases entries.lookup segment with
      | none => exact .nothing
      | some v => exact .found rfl
  | record i fields => exact .record (sameField_changedFields h fields)
  | _ => exact .closed rfl ⟨rfl, rfl⟩ ⟨rfl, rfl⟩

end FieldPath.Walk

/-- A path leads from the changed value to what it leads to from the value, changed. -/
theorem FieldPath.resolve_changed {c : FieldChange} {p : FieldPath} {s s' : Option String}
    (h : ∀ segment ∈ p.segments, c.Respected ⟨p.text, s⟩ ⟨p.text, s'⟩ segment) (v : Value) :
    c.Agree (p.resolve s v) (p.resolve s' (v.changed c)) := by
  refine resolve_related (fun segment hsegment u u' hu => ?_) (v.isNil_changed c).symm rfl
  rw [hu]
  exact Walk.sameSurface_changed (h segment hsegment) u

end RuleFilter
