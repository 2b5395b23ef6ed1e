import RuleFilter.Proofs.Path.Search

set_option autoImplicit false

/-! # Records are maps of their names

A record can be written down as the map of the names by which queries find its parts
(`Value.image`): its own fields come first, and then, member by member, the entries of what is
flattened. A map is searched for the first entry of a key, and the order of the entries is the order
in which a record is searched, so where all fields are exported (`Value.AllExported`) every path
does the same in a value and in its image. -/

namespace RuleFilter

namespace Value

/-- The entries of a map. -/
def entries : Value → List (String × Value)
  | map entries => entries
  | _ => []

mutual

/-- The value with a map in place of every record, at any depth. -/
def image (source : Option String) : Value → Value
  | list items => list (imageItems source items)
  | map entries => map (imageEntries source entries)
  | record _ fields => map (ownEntries source fields ++ promotedEntries source fields)
  | v => v

def imageItems (source : Option String) : List Value → List Value
  | [] => []
  | v :: vs => v.image source :: imageItems source vs

def imageEntries (source : Option String) : List (String × Value) → List (String × Value)
  | [] => []
  | (k, v) :: rest => (k, v.image source) :: imageEntries source rest

/-- The fields that are not hidden, under their query names. -/
def ownEntries (source : Option String) : List (FieldDef × Value) → List (String × Value)
  | [] => []
  | (d, v) :: rest =>
    match d.queryName? source with
    | some name => (name, v.image source) :: ownEntries source rest
    | none => ownEntries source rest

/-- The entries of the images of flattened members that are records or maps. -/
def promotedEntries (source : Option String) : List (FieldDef × Value) → List (String × Value)
  | [] => []
  | (d, v) :: rest =>
    if d.flatten then (v.image source).entries ++ promotedEntries source rest
    else promotedEntries source rest

end

mutual

/-- Every field of every record in the value is exported. -/
def AllExported : Value → Prop
  | list items => AllExportedItems items
  | map entries => AllExportedEntries entries
  | record _ fields => AllExportedFields fields
  | _ => True

def AllExportedItems : List Value → Prop
  | [] => True
  | v :: vs => v.AllExported ∧ AllExportedItems vs

def AllExportedEntries : List (String × Value) → Prop
  | [] => True
  | (_, v) :: rest => v.AllExported ∧ AllExportedEntries rest

def AllExportedFields : List (FieldDef × Value) → Prop
  | [] => True
  | (d, v) :: rest => d.exported = true ∧ v.AllExported ∧ AllExportedFields rest

end

/-- The second value is the image of the first, which has no private fields. -/
def IsImage (source : Option String) (v v' : Value) : Prop :=
  v.AllExported ∧ v' = v.image source

theorem isNil_image (source : Option String) (v : Value) :
    (v.image source).isNil = v.isNil := by
  cases v <;> rfl

end Value

namespace FieldPath

open Value (image imageEntries ownEntries promotedEntries AllExportedEntries AllExportedFields
  IsImage)

/-- What is found in an image is the image of what is found. -/
abbrev Search.AgreeImage (source : Option String) : Search → Search → Prop :=
  Search.Agree (IsImage source)

/-- Searching for a key in one list of entries and then in another. -/
theorem Search.ok_lookup_append (k : String) (first last : List (String × Value)) :
    Except.ok ((first ++ last).lookup k)
      = (Search.orNext (.ok (first.lookup k)) (.ok (last.lookup k)) : Search) := by
  rw [List.lookup_append]
  cases first.lookup k <;> rfl

namespace Walk

variable (w : Walk) (segment : String)

theorem lookup_agreeImage (source : Option String) {entries : List (String × Value)}
    (h : AllExportedEntries entries) :
    Search.AgreeImage source (.ok (entries.lookup segment))
      (.ok ((imageEntries source entries).lookup segment)) := by
  induction entries with
  | nil => exact .nothing
  | cons e rest ih =>
      obtain ⟨k, v⟩ := e
      obtain ⟨hv, hrest⟩ := h
      rw [imageEntries, List.lookup_cons, List.lookup_cons]
      cases segment == k with
      | true => exact .found ⟨hv, rfl⟩
      | false => exact ih hrest

/-- A record's own fields are found as the entries of their names. -/
theorem own_agreeImage {fields : List (FieldDef × Value)} (h : AllExportedFields fields) :
    Search.AgreeImage w.source (w.own segment fields)
      (.ok ((ownEntries w.source fields).lookup segment)) := by
  induction fields with
  | nil => exact .nothing
  | cons f rest ih =>
      obtain ⟨d, v⟩ := f
      obtain ⟨hexported, hv, hrest⟩ := h
      rw [own_cons, ownEntries, hexported]
      cases hname : d.queryName? w.source with
      | none => exact ih hrest
      | some name =>
          simp only [Option.some.injEq, List.lookup_cons]
          by_cases hsegment : name = segment
          · rw [if_pos hsegment, hsegment, BEq.rfl]
            exact .found ⟨hv, rfl⟩
          · rw [if_neg hsegment, beq_false_of_ne (Ne.symm hsegment)]
            exact ih hrest

-- The entries of a member's image are what the member offers, and those of a record are again made
-- of its own fields and of what is promoted to it.
mutual

theorem offered_agreeImage {v : Value} (h : v.AllExported) :
    Search.AgreeImage w.source (w.offered segment v)
      (.ok ((v.image w.source).entries.lookup segment)) := by
  match v with
  | .nil | .bool _ | .number _ | .string _ | .list _ => exact .nothing
  | .map entries => exact lookup_agreeImage segment w.source h
  | .record i fields =>
      rw [offered, field_eq_orNext, image, Value.entries, Search.ok_lookup_append]
      exact (w.own_agreeImage segment h).orNext (promoted_agreeImage h)

theorem promoted_agreeImage {fields : List (FieldDef × Value)} (h : AllExportedFields fields) :
    Search.AgreeImage w.source (w.promoted segment fields)
      (.ok ((promotedEntries w.source fields).lookup segment)) := by
  match fields with
  | [] =>
      rw [promoted_nil]
      exact .nothing
  | (d, v) :: rest =>
      obtain ⟨_, hv, hrest⟩ := h
      rw [promoted_cons, promotedEntries]
      split
      · rw [Search.ok_lookup_append]
        exact (offered_agreeImage hv).orNext (promoted_agreeImage hrest)
      · exact promoted_agreeImage hrest

end

/-- A step in the image of a value is a step in the value; the image has no use for the alias
source. -/
theorem step_agreeImage (w' : Walk) (hpath : w'.path = w.path) {v : Value} (h : v.AllExported) :
    Search.AgreeImage w.source (w.step segment v) (w'.step segment (v.image w.source)) := by
  cases v with
  | nil => exact .nothing
  | map entries => exact lookup_agreeImage segment w.source h
  | record i fields => exact w.offered_agreeImage segment (v := .record i fields) h
  | _ =>
      simp only [image, step, hpath]
      exact .error _

end Walk

/-- **Records are navigated as maps.** Where all fields are exported, a path leads from a value to
the same error, to nothing, or to a value, as it does from the image, there to the image of the
value, with whatever alias source the image is searched. -/
theorem records_navigated_as_maps {v : Value} (h : v.AllExported) (source source' : Option String)
    (path : FieldPath) :
    Search.Agree (fun w w' => w' = w.image source)
      (path.resolve source v) (path.resolve source' (v.image source)) := by
  have himage : Search.AgreeImage source
      (path.resolve source v) (path.resolve source' (v.image source)) := by
    refine resolve_agree (v.isNil_image source).symm (fun segment _ u u' hu => ?_) ⟨h, rfl⟩
    rw [hu.2]
    exact Walk.step_agreeImage ⟨path.text, source⟩ segment ⟨path.text, source'⟩ rfl hu.1
  exact himage.mono fun _ _ hw => hw.2

/-- A hidden member gives up its fields all the same; they come before the keys of a later member,
and a path that goes on from a text fails in the image as in the record. -/
theorem records_navigated_as_maps_in_account :
    let base : Value := .record 2 [(⟨"id", [], true, false⟩, .string "a7"),
      (⟨"label", [], true, false⟩, .string "shadowed")]
    let account : Value :=
      .record 1 [(⟨"name", [("json", "label,omitempty")], true, false⟩, .string "ann"),
        (⟨"base", [("json", "-")], true, true⟩, base),
        (⟨"extra", [], true, true⟩, .map [("id", .string "late"), ("friends", .list [base])])]
    let image : Value :=
      .map [("label", .string "ann"),
        ("extra", .map [("id", .string "late"),
          ("friends", .list [.map [("id", .string "a7"), ("label", .string "shadowed")]])]),
        ("id", .string "a7"), ("label", .string "shadowed"), ("id", .string "late"),
        ("friends", .list [.map [("id", .string "a7"), ("label", .string "shadowed")]])]
    account.AllExported ∧ account.image (some "json") = image
      ∧ (∀ path : FieldPath, Search.Agree (fun w w' => w' = w.image (some "json"))
          (path.resolve (some "json") account) (path.resolve none image))
      ∧ resolve ⟨"id"⟩ (some "json") account = .ok (some (.string "a7"))
      ∧ resolve ⟨"label.x"⟩ none image = .error (.scalarTraversal "label.x" "x" .string) := by
  intro base account image
  have hexported : account.AllExported := by
    simp [account, base, Value.AllExported, AllExportedFields, AllExportedEntries,
      Value.AllExportedItems]
  have himage : account.image (some "json") = image := by rfl
  have hid : resolve ⟨"id"⟩ (some "json") account = .ok (some (.string "a7")) := by
    have hsegments : segments ⟨"id"⟩ = ["id"] := by rfl
    rw [resolve_record hsegments, Walk.promoted_cons, Walk.promoted_cons]
    rfl
  exact ⟨hexported, himage, himage ▸ records_navigated_as_maps hexported (some "json") none, hid,
    by rfl⟩

end FieldPath

end RuleFilter
