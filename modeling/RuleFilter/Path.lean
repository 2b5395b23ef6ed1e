import RuleFilter.Error
import RuleFilter.Text.Search

set_option autoImplicit false

/-! # Field paths

A path names a part of an element by segments with dots between them. Walking it, a segment picks an
entry of a map or a field of a record. Three things can come of it: the value at the end, nothing,
because the element has no such part, or an error, because the path does not suit the data.

A record is searched in two rounds. Its own fields come first, by the names the alias source gives
them, and one that is not exported is an error. Then come the flattened fields, exported or not, in
declaration order: a record among them is searched in the same way and a map offers its keys. -/

namespace RuleFilter

/-- A field path, as written. -/
structure FieldPath where
  text : String
deriving DecidableEq, Inhabited

namespace FieldPath

/-- The segments. The empty path has none. -/
def segments (p : FieldPath) : List String := if p.text = "" then [] else Text.split '.' p.text

/-- The path selects the element itself. -/
def isRoot (p : FieldPath) : Bool := p.segments.isEmpty

/-! ## Looking up a segment -/

/-- What a walk depends on besides the value: the path, which errors name, and the alias source. -/
structure Walk where
  path : String
  source : Option String

/-- Looks among a record's own fields: the first with the segment as its query name decides. -/
def Walk.ownField? (w : Walk) (segment : String) (fields : List (FieldDef × Value)) :
    Option (Except Error Value) :=
  (fields.find? (·.1.queryName? w.source = some segment)).map fun (d, v) =>
    if d.exported then .ok v else .error (.privateField w.path segment)

/-- Looks among the members of flattened fields, in order. -/
def Walk.promoted (w : Walk) (segment : String) :
    List (FieldDef × Value) → Except Error (Option Value)
  | [] => .ok none
  | (d, v) :: rest =>
    if d.flatten then
      match v with
      | .record _ inner =>
        match w.ownField? segment inner with
        | some (.ok found) => .ok (some found)
        | some (.error e) => .error e
        | none =>
          match w.promoted segment inner with
          | .ok none => w.promoted segment rest
          | found => found
      | .map entries =>
        match entries.lookup segment with
        | some found => .ok (some found)
        | none => w.promoted segment rest
      | _ => w.promoted segment rest
    else w.promoted segment rest

/-- Looks up a field of a record. -/
def Walk.field (w : Walk) (segment : String) (fields : List (FieldDef × Value)) :
    Except Error (Option Value) :=
  match w.ownField? segment fields with
  | some (.ok found) => .ok (some found)
  | some (.error e) => .error e
  | none => w.promoted segment fields

/-- Takes one step from a value. -/
def Walk.step (w : Walk) (segment : String) : Value → Except Error (Option Value)
  | .record _ fields => w.field segment fields
  | .map entries => .ok (entries.lookup segment)
  | .nil => .ok none
  | v => .error (.scalarTraversal w.path segment v.kind)

/-! ## Walking -/

/-- Takes one step for each segment, and stops where there is nothing. -/
def Walk.along (w : Walk) : List String → Value → Except Error (Option Value)
  | [], v => .ok (some v)
  | segment :: segments, v =>
    match w.step segment v with
    | .error e => .error e
    | .ok none => .ok none
    | .ok (some next) => w.along segments next

/-- Finds the part of an element that a path names. A nil element has no parts, not even itself. -/
def resolve (p : FieldPath) (source : Option String) (root : Value) :
    Except Error (Option Value) :=
  if root.isNil then .error (.nilElement p.text)
  else Walk.along ⟨p.text, source⟩ p.segments root

end FieldPath

end RuleFilter
