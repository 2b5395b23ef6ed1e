import RuleFilter.Pattern.Tree
import RuleFilter.Text.CharSet
import RuleFilter.Unicode.Age
import RuleFilter.Unicode.Boundary
import RuleFilter.Unicode.Script

set_option autoImplicit false

/-! # Properties by name

A property is asked for by any of its names, and spelling is loose: case, blanks, dashes,
underscores and a leading `is` make no difference. A single name is looked for among the yes-or-no
properties, then the general categories, then the scripts. -/

namespace RuleFilter.Pattern

/-- The spelling of a name that its look-up uses. Only ASCII counts. The category of other
characters is also called `isc`, which the rule for a leading `is` must not shorten. -/
def looseName (name : String) : String :=
  let isPrefixed := match name.toList with
    | i :: s :: _ => (i = 'i' || i = 'I') && (s = 's' || s = 'S')
    | _ => false
  let cs := if isPrefixed then name.toList.drop 2 else name.toList
  let kept := (cs.filter fun c => c.toNat ≤ 0x7F && c ≠ ' ' && c ≠ '_' && c ≠ '-').map Char.toLower
  if isPrefixed && kept = ['c'] then "isc" else String.ofList kept

/-- The entry of a table whose names include the given one. -/
def findByName {α : Type} (table : List (List String × α)) (name : String) : Option α :=
  (table.find? (·.1.contains name)).map (·.2)

/-! ## Yes-or-no properties -/

/-- What a property holds of beyond what general categories say of it. -/
def beyond (runs : String) (categories : List String) : CharSet :=
  (CharSet.ofRanges (Unicode.ranges runs)).diff (.ofRanges (Unicode.ofCategories categories))

/-- What counts as alphabetic by exception though it has a case: a mark of Greek, and circled and
squared letters. -/
def casedExceptions : List (Nat × Nat) :=
  [(0x345, 0x345), (0x24B6, 0x24E9), (0x1F130, 0x1F149), (0x1F150, 0x1F169), (0x1F170, 0x1F189)]

/-- The properties by which the standard states the exceptions to its general rules. -/
def exceptionProperty? : String → Option CharSet
  | "otherlowercase" | "olower" => some (beyond Unicode.lowercaseRuns ["Ll"])
  | "otheruppercase" | "oupper" => some (beyond Unicode.uppercaseRuns ["Lu"])
  | "othermath" | "omath" => some (beyond Unicode.mathRuns ["Sm"])
  | "othergraphemeextend" | "ogrext" => some (beyond Unicode.graphemeExtendRuns ["Me", "Mn"])
  | "otheralphabetic" | "oalpha" =>
    some <| ((beyond Unicode.alphabeticRuns ["Lt", "Lm", "Lo", "Nl"]).diff
      (.ofRanges
        (Unicode.ranges Unicode.lowercaseRuns ++ Unicode.ranges Unicode.uppercaseRuns))).union
      ⟨casedExceptions⟩
  | "otheridstart" | "oids" =>
    some ⟨[(0x1885, 0x1886), (0x2118, 0x2118), (0x212E, 0x212E), (0x309B, 0x309C)]⟩
  | "otheridcontinue" | "oidc" =>
    some ⟨[(0xB7, 0xB7), (0x387, 0x387), (0x1369, 0x1371), (0x19DA, 0x19DA), (0x200C, 0x200D),
      (0x30FB, 0x30FB), (0xFF65, 0xFF65)]⟩
  | "otherdefaultignorablecodepoint" | "odi" =>
    some ⟨[(0x34F, 0x34F), (0x115F, 0x1160), (0x17B4, 0x17B5), (0x2065, 0x2065), (0x3164, 0x3164),
      (0xFFA0, 0xFFA0), (0xFFF0, 0xFFF8), (0xE0000, 0xE0000), (0xE0002, 0xE001F),
      (0xE0080, 0xE00FF), (0xE01F0, 0xE0FFF)]⟩
  | _ => none

/-- The code points with a yes-or-no property. -/
def binaryProperty? (name : String) : Option CharSet :=
  match findByName Unicode.binaryProperties name with
  | some runs => some (.ofRanges (Unicode.ranges runs))
  | none => exceptionProperty? name

/-! ## Categories, scripts and the rest -/

/-- The code points of a general category. -/
def category? (name : String) : Option CharSet :=
  match name with
  | "any" => some CharSet.empty.complement
  | "assigned" => some (CharSet.ofRanges (Unicode.ofCategories ["Cn"])).complement
  | "ascii" => some ⟨[(0, 0x7F)]⟩
  | name => (findByName Unicode.categoryNames name).map fun categories =>
    .ofRanges (Unicode.ofCategories categories)

/-- The code of a script. -/
def scriptCode? (name : String) : Option String := do
  let names ← Unicode.scriptNames.find? (·.contains name)
  let code ← names.head?
  return code.capitalize

/-- The code points of a script. -/
def script? (name : String) : Option CharSet :=
  (scriptCode? name).map fun code => .ofRanges (Unicode.ofScript code)

/-- The code points used with a script. -/
def scriptExtension? (name : String) : Option CharSet :=
  (scriptCode? name).map fun code =>
    ((CharSet.ofRanges (Unicode.ofScript code)).diff (.ofRanges Unicode.extendedPoints)).union
      (.ofRanges (Unicode.extensionsOf code))

/-- The code points assigned by a version of the standard, given as `5.2` or `V5_2`. -/
def age? (name : String) : Option CharSet :=
  let spellings (version : String) : List String :=
    [version, String.ofList ('v' :: version.toList.filter (· ≠ '.'))]
  (Unicode.ageLetters.find? (spellings ·.1 |>.contains name)).map fun (_, letter) =>
    .ofRanges (Unicode.assignedBy letter)

/-- The code points of a class for boundaries. -/
def breakClass? (names : List (List String × String)) (runs name : String) : Option CharSet :=
  (findByName names name).map fun label => .ofRanges (Unicode.ofBreakClass runs label)

/-- The code points for which a property has a value. -/
def valuedProperty? (name value : String) : Option CharSet :=
  match name with
  | "gc" | "generalcategory" => category? value
  | "sc" | "script" => script? value
  | "scx" | "scriptextensions" => scriptExtension? value
  | "age" => age? value
  | "gcb" | "graphemeclusterbreak" =>
    breakClass? Unicode.graphemeBreakNames Unicode.graphemeBreakRuns value
  | "wb" | "wordbreak" => breakClass? Unicode.wordBreakNames Unicode.wordBreakRuns value
  | "sb" | "sentencebreak" =>
    breakClass? Unicode.sentenceBreakNames Unicode.sentenceBreakRuns value
  | _ => none

/-- The code points a query asks for, if it names something. -/
def PropertyQuery.set? : PropertyQuery → Option CharSet
  | named name =>
    let name := looseName name
    binaryProperty? name <|> category? name <|> script? name
  | valued name value => valuedProperty? (looseName name) (looseName value)

end RuleFilter.Pattern
