import RuleFilter.Json.Basic

set_option autoImplicit false

/-! # Reference values

The value a rule compares its candidates with. All numbers are doubles. A map is kept in key order
with one value for each key: the references that rules hold are those in order
(`OrderedReference`). -/

namespace RuleFilter

/-- A reference value. -/
inductive Reference where
  | null
  | bool (b : Bool)
  | number (x : Double)
  | string (s : String)
  | list (items : List Reference)
  | map (entries : List (String × Reference))

namespace Reference

instance : Inhabited Reference := ⟨null⟩

/-- The kinds of references. -/
inductive Kind where
  | null
  | bool
  | number
  | string
  | list
  | map
deriving DecidableEq

/-- The word for a kind. -/
def Kind.name : Kind → String
  | null => "null"
  | bool => "bool"
  | number => "number"
  | string => "string"
  | list => "list"
  | map => "map"

def kind : Reference → Kind
  | null => .null
  | bool _ => .bool
  | number _ => .number
  | string _ => .string
  | list _ => .list
  | map _ => .map

def number? : Reference → Option Double
  | number x => some x
  | _ => none

def string? : Reference → Option String
  | string s => some s
  | _ => none

/-- A number of any width as a reference. -/
def ofNumber (n : Number) : Reference := number n.toDouble

/-- A map with the given entries, the last of several for one key. -/
def ofEntries (entries : List (String × Reference)) : Reference := map (Json.membersOf entries)

/-! ## Equality -/

mutual

/-- Equality of references; a NaN differs from itself. -/
def beq : Reference → Reference → Bool
  | null, null => true
  | bool a, bool b => a == b
  | number x, number y => x.eq y
  | string s, string t => s == t
  | list xs, list ys => beqList xs ys
  | map xs, map ys => beqEntries xs ys
  | _, _ => false

def beqList : List Reference → List Reference → Bool
  | [], [] => true
  | x :: xs, y :: ys => beq x y && beqList xs ys
  | _, _ => false

def beqEntries : List (String × Reference) → List (String × Reference) → Bool
  | [], [] => true
  | (k, x) :: xs, (l, y) :: ys => k == l && beq x y && beqEntries xs ys
  | _, _ => false

end

instance : BEq Reference := ⟨beq⟩

/-! ## JSON -/

mutual

/-- The document of a reference. -/
def toJson : Reference → Json
  | null => .null
  | bool b => .bool b
  | number x => .number (.double x)
  | string s => .string s
  | list items => .array (toJsonList items)
  | map entries => .object (toJsonEntries entries)

def toJsonList : List Reference → List Json
  | [] => []
  | r :: rs => r.toJson :: toJsonList rs

def toJsonEntries : List (String × Reference) → List (String × Json)
  | [] => []
  | (k, r) :: rest => (k, r.toJson) :: toJsonEntries rest

end

mutual

/-- The reference a document stands for. -/
def ofJson : Json → Reference
  | .null => null
  | .bool b => bool b
  | .number n => ofNumber n
  | .string s => string s
  | .array items => list (ofJsonList items)
  | .object members => ofEntries (ofJsonMembers members)

def ofJsonList : List Json → List Reference
  | [] => []
  | j :: js => ofJson j :: ofJsonList js

def ofJsonMembers : List (String × Json) → List (String × Reference)
  | [] => []
  | (k, j) :: rest => (k, ofJson j) :: ofJsonMembers rest

end

/-! ## Order -/

mutual

/-- Every map in the reference has its keys rising. -/
def Ordered : Reference → Prop
  | list items => OrderedItems items
  | map entries => Json.KeysRise entries ∧ OrderedEntries entries
  | _ => True

def OrderedItems : List Reference → Prop
  | [] => True
  | r :: rs => Ordered r ∧ OrderedItems rs

def OrderedEntries : List (String × Reference) → Prop
  | [] => True
  | (_, r) :: rest => Ordered r ∧ OrderedEntries rest

end

theorem orderedItems_iff {items : List Reference} :
    OrderedItems items ↔ ∀ r ∈ items, r.Ordered := by
  induction items with
  | nil => simp [OrderedItems]
  | cons r rest ih => rw [OrderedItems, ih, List.forall_mem_cons]

theorem orderedEntries_iff {entries : List (String × Reference)} :
    OrderedEntries entries ↔ ∀ e ∈ entries, e.2.Ordered := by
  induction entries with
  | nil => simp [OrderedEntries]
  | cons e rest ih => rw [OrderedEntries, ih, List.forall_mem_cons]

/-- A map made of entries in any order has its keys rising. -/
theorem ordered_ofEntries {entries : List (String × Reference)} (h : OrderedEntries entries) :
    (ofEntries entries).Ordered :=
  ⟨Json.keysRise_membersOf entries,
    orderedEntries_iff.2 fun e he => orderedEntries_iff.1 h e (Json.mem_of_mem_membersOf he)⟩

mutual

theorem ordered_ofJson (j : Json) : (ofJson j).Ordered := by
  match j with
  | .null | .bool _ | .number _ | .string _ => trivial
  | .array items => exact orderedItems_ofJsonList items
  | .object members => exact ordered_ofEntries (orderedEntries_ofJsonMembers members)

theorem orderedItems_ofJsonList (items : List Json) : OrderedItems (ofJsonList items) := by
  match items with
  | [] => trivial
  | j :: items => exact ⟨ordered_ofJson j, orderedItems_ofJsonList items⟩

theorem orderedEntries_ofJsonMembers (members : List (String × Json)) :
    OrderedEntries (ofJsonMembers members) := by
  match members with
  | [] => trivial
  | (_, j) :: members => exact ⟨ordered_ofJson j, orderedEntries_ofJsonMembers members⟩

end

end Reference

/-- A reference in order, as rules hold them. -/
@[ext]
structure OrderedReference where
  reference : Reference
  ordered : reference.Ordered

namespace OrderedReference

instance : CoeOut OrderedReference Reference := ⟨reference⟩

def null : OrderedReference := ⟨.null, trivial⟩

def bool (b : Bool) : OrderedReference := ⟨.bool b, trivial⟩

def number (x : Double) : OrderedReference := ⟨.number x, trivial⟩

def string (s : String) : OrderedReference := ⟨.string s, trivial⟩

def list (items : List OrderedReference) : OrderedReference :=
  ⟨.list (items.map reference),
    Reference.orderedItems_iff.2 (List.forall_mem_map.2 fun r _ => r.ordered)⟩

/-- A map with the given entries, the last of several for one key. -/
def map (entries : List (String × OrderedReference)) : OrderedReference :=
  ⟨.ofEntries (entries.map fun e => (e.1, e.2.reference)), Reference.ordered_ofEntries
    (Reference.orderedEntries_iff.2 (List.forall_mem_map.2 fun e _ => e.2.ordered))⟩

/-! The trees of the constructors. -/

@[simp] theorem reference_null : null.reference = .null := rfl

@[simp] theorem reference_bool (b : Bool) : (bool b).reference = .bool b := rfl

@[simp] theorem reference_number (x : Double) : (number x).reference = .number x := rfl

@[simp] theorem reference_string (s : String) : (string s).reference = .string s := rfl

@[simp] theorem reference_list (items : List OrderedReference) :
    (list items).reference = .list (items.map reference) := rfl

/-- Entries that are in order stay as they are. -/
theorem reference_map {entries : List (String × OrderedReference)} (h : Json.KeysRise entries) :
    (map entries).reference = .map (entries.map fun e => (e.1, e.2.reference)) := by
  have hkeys : Json.KeysRise (entries.map fun e => (e.1, e.2.reference)) := by
    rw [Json.keysRise_iff_keys] at h ⊢
    rwa [List.map_map]
  exact congrArg Reference.map (Json.membersOf_of_keysRise hkeys)

/-- A number of any width as a reference. -/
def ofNumber (n : Number) : OrderedReference := ⟨.ofNumber n, trivial⟩

/-- The reference a document stands for. -/
def ofJson (j : Json) : OrderedReference := ⟨.ofJson j, Reference.ordered_ofJson j⟩

/-- The reference with all its maps put in order. -/
def ofReference (r : Reference) : OrderedReference := ofJson r.toJson

instance : Coe Reference OrderedReference := ⟨ofReference⟩

instance : Inhabited OrderedReference := ⟨null⟩

instance : BEq OrderedReference := ⟨fun r s => r.reference == s.reference⟩

end OrderedReference

end RuleFilter
