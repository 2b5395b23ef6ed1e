set_option autoImplicit false

/-! # Parts of texts

Where one text stands in another, character by character. -/

namespace RuleFilter.Text

/-- The text starts with another. -/
def startsWith (s part : String) : Bool := part.toList.isPrefixOf s.toList

/-- The text ends with another. -/
def endsWith (s part : String) : Bool := part.toList.isSuffixOf s.toList

/-- A row of characters stands somewhere in another. -/
def occursIn (part : List Char) : List Char → Bool
  | [] => part.isEmpty
  | c :: cs => part.isPrefixOf (c :: cs) || occursIn part cs

/-- The text has another as a part. -/
def contains (s part : String) : Bool := occursIn part.toList s.toList

/-- Cuts a row of characters at every separator. There is one more piece than separators. -/
def splitAt (separator : Char) : List Char → List (List Char)
  | [] => [[]]
  | c :: cs =>
    if c = separator then [] :: splitAt separator cs
    else match splitAt separator cs with
      | piece :: pieces => (c :: piece) :: pieces
      | [] => [[c]]

/-- Cuts a text at every separator. -/
def split (separator : Char) (s : String) : List String :=
  (splitAt separator s.toList).map String.ofList

end RuleFilter.Text
