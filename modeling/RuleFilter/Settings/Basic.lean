import RuleFilter.Error
import RuleFilter.Json.Printer

set_option autoImplicit false

/-! # Settings

What a processor is set to: the alias source by which queries name fields, the name of the request
parameter that carries rules, and limits on rules and results. -/

namespace RuleFilter

/-- The settings of a processor. -/
structure Settings where
  fieldNameTag : Option String
  queryKey : String
  maxRules : UInt64
  maxResults : UInt64
deriving DecidableEq

namespace Settings

def defaultMaxResults : UInt64 := resultLimit

def defaultMaxRules : UInt64 := 3

def defaultQueryKey : String := "filter"

/-- The settings where nothing is said. -/
def initial : Settings := ⟨none, defaultQueryKey, defaultMaxRules, defaultMaxResults⟩

instance : Inhabited Settings := ⟨initial⟩

/-- The first setting that is out of bounds. -/
def fault? (s : Settings) : Option SettingFault :=
  if s.fieldNameTag = some "" then some .emptyFieldNameTag
  else if s.queryKey = "" then some .emptyQueryKey
  else if s.maxRules = 0 then some .noRules
  else if s.maxResults = 0 ∨ resultLimit < s.maxResults then some .resultsOutOfRange
  else none

/-! ## Changing settings -/

/-- A new value for one setting. -/
inductive Change where
  | fieldNameTag (tag : String)
  | queryKey (key : String)
  | maxRules (max : UInt64)
  | maxResults (max : UInt64)

def change (s : Settings) : Change → Settings
  | .fieldNameTag tag => { s with fieldNameTag := some tag }
  | .queryKey key => { s with queryKey := key }
  | .maxRules max => { s with maxRules := max }
  | .maxResults max => { s with maxResults := max }

/-- The initial settings after changes, in order. -/
def ofChanges (changes : List Change) : Settings := changes.foldl change initial

/-! ## Writing -/

/-- The document of settings. -/
def toJson (s : Settings) : Json :=
  .object [
    ("field_name_tag", s.fieldNameTag.elim .null .string),
    ("query_key", .string s.queryKey),
    ("max_rules", .number (.unsigned s.maxRules)),
    ("max_results", .number (.unsigned s.maxResults))]

def toText (s : Settings) : String := s.toJson.text

end Settings

end RuleFilter
