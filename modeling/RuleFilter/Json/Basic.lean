import RuleFilter.Json.Members
import RuleFilter.Number

set_option autoImplicit false

/-! # JSON documents

A document as it is held after reading. The members of an object are a list; reading keeps them in
key order with the last of several values for one key (`insertMember`), and writing takes them as
they come, so a writer chooses its own order. -/

namespace RuleFilter

/-- A JSON document. -/
inductive Json where
  | null
  | bool (b : Bool)
  | number (n : Number)
  | string (s : String)
  | array (items : List Json)
  | object (members : List (String × Json))

namespace Json

instance : Inhabited Json := ⟨null⟩

/-- The kinds of documents. -/
inductive Kind where
  | null
  | bool
  | number
  | string
  | array
  | object
deriving DecidableEq

/-- The word for a kind. -/
def Kind.name : Kind → String
  | null => "null"
  | bool => "bool"
  | number => "number"
  | string => "string"
  | array => "array"
  | object => "object"

def kind : Json → Kind
  | null => .null
  | bool _ => .bool
  | number _ => .number
  | string _ => .string
  | array _ => .array
  | object _ => .object

/-- The value of a member, if the document is an object that has it. -/
def member? (key : String) : Json → Option Json
  | object members => members.lookup key
  | _ => none

def string? : Json → Option String
  | string s => some s
  | _ => none

def array? : Json → Option (List Json)
  | array items => some items
  | _ => none

end Json

end RuleFilter
