set_option autoImplicit false

/-! # Field definitions

What a record says of one of its fields: the declared name, the names under which other sources know
it, whether queries may read it, and whether its own members are promoted to the record. -/

namespace RuleFilter

/-- The definition of a record's field. -/
structure FieldDef where
  name : String
  /-- Sources with the alias each gives the field. -/
  aliases : List (String × String)
  /-- Queries may read the field. -/
  exported : Bool
  /-- The members of the field's value count as fields of the record. -/
  flatten : Bool
deriving DecidableEq, Inhabited

namespace FieldDef

/-- A field that is exported under its declared name only. -/
def ofName (name : String) : FieldDef := ⟨name, [], true, false⟩

def withAliases (d : FieldDef) (aliases : List (String × String)) : FieldDef := { d with aliases }

/-- Queries may not read the field. -/
def unexported (d : FieldDef) : FieldDef := { d with exported := false }

/-- The members of the field's value are promoted. -/
def flattened (d : FieldDef) : FieldDef := { d with flatten := true }

/-- The alias a source gives the field, the first where it gives several. -/
def alias? (d : FieldDef) (source : String) : Option String := d.aliases.lookup source

/-- The part of an alias before its first comma; what follows are options. -/
def aliasName (text : String) : String := String.ofList (text.toList.takeWhile (· ≠ ','))

/-- The name by which a query finds the field. An alias of the source replaces the declared name
unless it is empty, and the alias `-` hides the field. -/
def queryName? (d : FieldDef) (source : Option String) : Option String :=
  match source.bind d.alias? with
  | none => some d.name
  | some text =>
    match aliasName text with
    | "-" => none
    | "" => some d.name
    | name => some name

end FieldDef

end RuleFilter
