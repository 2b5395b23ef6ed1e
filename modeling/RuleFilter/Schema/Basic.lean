import RuleFilter.Schema.FieldAttributes
import RuleFilter.Value.Basic

set_option autoImplicit false

/-! # Schemas

From the declaration of a structure its schema is derived: the definitions of its fields, which of
them are read when an element is viewed, and the type for which the view is implemented with the
conditions on its parameters. The fields take their turns in the order of their declaration. A field
is read if it is exported or flattened, under the place of its definition among the others; the
record answers nil under every other place. -/

namespace RuleFilter

namespace Schema

/-- A parameter of a declared type. -/
inductive Parameter where
  | lifetime (name : String)
  | type (name : String)
  | const (name : String)
deriving DecidableEq

def Parameter.name : Parameter → String
  | lifetime name => name
  | type name => name
  | const name => name

def Parameter.isLifetime : Parameter → Bool
  | lifetime _ => true
  | _ => false

/-- A declared field. -/
structure FieldDeclaration where
  /-- The name as written, with the mark of a raw one. -/
  ident : String
  type : String
  /-- The visibility as written. -/
  visibility : String
  attributes : List Item
deriving Inhabited

/-- What a declaration declares. -/
inductive Shape where
  | named (fields : List FieldDeclaration)
  | unit
  | tuple
  | enumeration
  | union
deriving Inhabited

/-- The declaration of a type. -/
structure Declaration where
  name : String
  parameters : List Parameter
  /-- Conditions on the parameters. -/
  predicates : List String
  shape : Shape
deriving Inhabited

namespace FieldDeclaration

/-- A field whose attributes are given as written, without their marks and brackets. -/
def ofAttributeTexts (ident type visibility : String) (attributes : List String) :
    Except SchemaError FieldDeclaration :=
  match attributes.mapM Item.ofText? with
  | some items => .ok ⟨ident, type, visibility, items⟩
  | none => .error .malformed

/-- Drops the marks of a raw name. -/
def dropRawMark : List Char → List Char
  | 'r' :: '#' :: rest => dropRawMark rest
  | cs => cs

/-- The name of a field that no attribute renames. -/
def plainName (field : FieldDeclaration) : String :=
  String.ofList (dropRawMark field.ident.toList)

/-- Only a field that is public without restriction is exported. -/
def isExported (field : FieldDeclaration) : Bool := field.visibility = "pub"

/-- The definition of the field under what its attributes say. -/
def definition (field : FieldDeclaration) (attrs : FieldAttributes) : FieldDef :=
  let d := FieldDef.ofName (attrs.rename.getD field.plainName)
  let d := if attrs.aliases.isEmpty then d else d.withAliases attrs.aliases
  let d := if field.isExported then d else d.unexported
  if attrs.flatten then d.flattened else d

end FieldDeclaration

/-- A text without blanks. -/
def compact (text : String) : String := String.ofList (text.toList.filter fun c => !isBlank c)

/-- The trait that gives the view of a value, as a bound names it. -/
def viewTrait : String := "::standout_filter::AsValue"

/-- The condition that a type has a view. -/
def viewBound (type : String) : String := compact type ++ ":" ++ viewTrait

/-- What is collected of the fields that have had their turn. -/
structure Parts where
  definitions : List FieldDef
  /-- The fields that are read, by the places of their definitions and by their names as written. -/
  reads : List (Nat × String)
  /-- The conditions on the types of the fields that are read. -/
  bounds : List String
deriving DecidableEq, Inhabited

namespace Parts

def initial : Parts := ⟨[], [], []⟩

/-- A field is read under the place that its definition is about to take. -/
def addRead (parts : Parts) (field : FieldDeclaration) : Parts :=
  { parts with
    reads := parts.reads ++ [(parts.definitions.length, field.ident)]
    bounds := parts.bounds ++ [viewBound field.type] }

/-- Adds a field under what its attributes say. One that is not exported is only read when it is
flattened. -/
def add (parts : Parts) (field : FieldDeclaration) (attrs : FieldAttributes) : Parts :=
  let parts := if field.isExported || attrs.flatten then parts.addRead field else parts
  { parts with definitions := parts.definitions ++ [field.definition attrs] }

/-- A field takes its turn. -/
def take (parts : Parts) (field : FieldDeclaration) : Except SchemaError Parts := do
  let attrs ← FieldAttributes.ofAttributes field.attributes
  return if attrs.skip then parts else parts.add field attrs

end Parts

end Schema

/-- The schema of a structure. -/
structure Schema where
  /-- The definitions of the fields. -/
  fields : List FieldDef
  /-- The fields that are read, by the places of their definitions and by their names as written. -/
  reads : List (Nat × String)
  selfType : String
  predicates : List String
deriving DecidableEq, Inhabited

namespace Schema

/-- The declared type with its parameters, lifetimes first. -/
def selfTypeOf (d : Declaration) : String :=
  let (lifetimes, others) := d.parameters.partition Parameter.isLifetime
  match lifetimes ++ others with
  | [] => d.name
  | parameters => d.name ++ "<" ++ ",".intercalate (parameters.map (compact ·.name)) ++ ">"

/-- The schema of a declaration, of whose fields `parts` is collected. Only a type with parameters
needs bounds on the types of its fields. -/
def ofParts (d : Declaration) (parts : Parts) : Schema :=
  let bounds := if d.parameters.isEmpty then [] else parts.bounds
  ⟨parts.definitions, parts.reads, selfTypeOf d, d.predicates.map compact ++ bounds⟩

/-- The schema of a declaration. -/
def ofDeclaration (d : Declaration) : Except SchemaError Schema :=
  match d.shape with
  | .named fields => do
    let parts ← fields.foldlM Parts.take Parts.initial
    return ofParts d parts
  | .unit => .ok (ofParts d Parts.initial)
  | .tuple => .error .unnamedFields
  | .enumeration => .error .notAStructure
  | .union => .error .notAStructure

/-- The value that is answered under a place. The fields of the element are read by `read`, which
takes their names as written. -/
def fieldAt (s : Schema) (read : String → Value) (index : Nat) : Value :=
  match s.reads.find? (·.1 = index) with
  | some (_, ident) => read ident
  | none => .nil

/-- The record of an element, which holds under each definition what is answered under its place. -/
def record (s : Schema) (identity : Nat) (read : String → Value) : Value :=
  .record identity (s.fields.zipIdx.map fun (d, index) => (d, s.fieldAt read index))

end Schema

end RuleFilter
