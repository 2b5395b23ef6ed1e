import RuleFilter.Schema.Item

set_option autoImplicit false

/-! # What attributes say of a field

Two attributes matter. `filter` is the library's own, and anything wrong with one is an error. From
`serde`, which belongs to another library, the name and the promotion of a field are taken over
where they can be read, and nothing in it is an error. The items of `serde` count first, so that an
alias given by `filter` replaces a name taken over. -/

namespace RuleFilter.Schema

/-- Why a structure has no schema. -/
inductive SchemaError where
  /-- An attribute cannot be read. -/
  | malformed
  /-- An item is none of those a `filter` attribute may have. -/
  | unknownItem
  /-- A new name is no text. -/
  | nameNotText
  /-- An alias is no text. -/
  | aliasNotText
  /-- A member of `tag(...)` is no source with an alias. -/
  | notAnAlias
  /-- A source is no plain name. -/
  | notASource
  /-- The fields have no names. -/
  | unnamedFields
  /-- The type is no structure. -/
  | notAStructure
deriving DecidableEq

/-- The wording, of which an attribute that cannot be read has none. -/
def SchemaError.message? : SchemaError → Option String
  | malformed => none
  | unknownItem => some
    "unknown filter attribute. Expected: skip, flatten, rename = \"...\", or tag(source = \"...\")"
  | nameNotText => some "rename must be a string literal"
  | aliasNotText => some "tag alias must be a string literal"
  | notAnAlias => some "expected `source = \"alias\"` inside tag(...)"
  | notASource => some "expected a source name"
  | unnamedFields => some "Filterable can only be derived for structs with named fields"
  | notAStructure => some "Filterable can only be derived for structs"

/-- What the attributes of a field say together. -/
structure FieldAttributes where
  /-- The field is left out. -/
  skip : Bool
  flatten : Bool
  /-- A new declared name. -/
  rename : Option String
  /-- Sources with their aliases, in the order of first mention. -/
  aliases : List (String × String)
deriving DecidableEq, Inhabited

namespace FieldAttributes

def initial : FieldAttributes := ⟨false, false, none, []⟩

/-- Gives a source its alias, in the place where the source is mentioned already or at the end. -/
def setAlias (source name : String) : List (String × String) → List (String × String)
  | [] => [(source, name)]
  | (s, a) :: rest =>
    if s = source then (s, name) :: rest else (s, a) :: setAlias source name rest

def withAlias (attrs : FieldAttributes) (source name : String) : FieldAttributes :=
  { attrs with aliases := setAlias source name attrs.aliases }

/-! ## The library's own attribute -/

/-- Takes in a member of `tag(...)`. -/
def addAlias (attrs : FieldAttributes) : Item → Except SchemaError FieldAttributes
  | .valued [source] value =>
    match value with
    | .text name => .ok (attrs.withAlias source name)
    | .other => .error .aliasNotText
  | .valued _ _ => .error .notASource
  | _ => .error .notAnAlias

/-- Takes in an item of a `filter` attribute. -/
def addItem (attrs : FieldAttributes) : Item → Except SchemaError FieldAttributes
  | .bare ["skip"] => .ok { attrs with skip := true }
  | .bare ["flatten"] => .ok { attrs with flatten := true }
  | .valued ["rename"] value =>
    match value with
    | .text name => .ok { attrs with rename := some name }
    | .other => .error .nameNotText
  | .list ["tag"] members =>
    match members with
    | some members => members.foldlM addAlias attrs
    | none => .error .malformed
  | _ => .error .unknownItem

/-- Takes in an attribute of a field; only a `filter` attribute says something. -/
def addFilter (attrs : FieldAttributes) : Item → Except SchemaError FieldAttributes
  | .list ["filter"] (some items) => items.foldlM addItem attrs
  | item => if item.path = ["filter"] then .error .malformed else .ok attrs

/-! ## The attribute of the other library -/

/-- The source under which names given by the other library are known. -/
def serdeSource : String := "serde"

/-- Takes in an item of a `serde` attribute, if it is of interest. -/
def addSerdeItem (attrs : FieldAttributes) : Item → FieldAttributes
  | .bare ["flatten"] => { attrs with flatten := true }
  | .valued ["rename"] (.text name) => attrs.withAlias serdeSource name
  | _ => attrs

/-- Takes in an attribute of a field; only a `serde` attribute that can be read says something. -/
def addSerde (attrs : FieldAttributes) : Item → FieldAttributes
  | .list ["serde"] (some items) => items.foldl addSerdeItem attrs
  | _ => attrs

/-- What the attributes of a field say together. -/
def ofAttributes (attributes : List Item) : Except SchemaError FieldAttributes :=
  attributes.foldlM addFilter (attributes.foldl addSerde initial)

end FieldAttributes

end RuleFilter.Schema
