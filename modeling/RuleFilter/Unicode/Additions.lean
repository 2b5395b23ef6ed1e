import RuleFilter.Unicode.Runs

set_option autoImplicit false

/-! # Characters of the latest version

The tables of properties in this folder follow version 16 of the standard, the one that patterns
know. Wherever else the kind of a character counts it is version 17 that is followed, and this table
holds the characters it adds. -/

namespace RuleFilter.Unicode

/-- The categories of the code points that version 17 assigns, as runs; the label of a run of others
is empty. -/
def additionRuns : String :=
  "2191 Lo1 972 Lo1 127 Lo1 3570 Mn15 2 Mn12 1493 Sc1 2772 So1 31799 Lu1 Ll1 2 Lu1 1 Lu1 28 Lm1
   21457 So16 445 So2 54 So7 2929 Lo26 1387 Lm1 Lo2 8 Po1 So8 33 Mn2 3172 Mn1 Mc1 Mn3 Mc1 Mn1 Mc1
   584 Lo41 Lm1 Lo2 4 Nd10 20662 Lu25 2 Ll25 286 Lm2 Nl3 6145 Lo8 1289 Lo22 97 Lo115 16135 So3 445
   So23 15 So16 Sm1 6095 Lo31 1 Lo3 Mn1 Lo2 Mn1 Lo7 Mn2 Lo5 Mn1 8 Lo1 Lm1 4056 So1 158 So4 341 Sm9
   379 So4 50 So1 3 So1 57 So1 4 So1 28 So1 4 So1 266 So1 47935 Lo6 5986 Lo12 21762 Lo4298"

/-- The added code points with their categories. -/
def additions : List (Labelled String) := (labelledRuns additionRuns).filter (·.label ≠ "")

/-- The added code points whose category is among the given ones. -/
def additionsOf (categories : List String) : List (Nat × Nat) :=
  (additions.filter (categories.contains ·.label)).map (·.range)

/-- The added letters, and the numbers that are letters. -/
def addedLetters : List (Nat × Nat) := additionsOf ["Lu", "Ll", "Lm", "Lo", "Nl"]

/-- The added marks. -/
def addedMarks : List (Nat × Nat) := additionsOf ["Mn", "Mc"]

/-- The added marks that are part of the spelling of words. Those between the given code points are
signs of phonetic notation. -/
def addedVowelMarks : List (Nat × Nat) :=
  addedMarks.filter fun (lo, _) => lo < 0x1ACF || 0x1AEB < lo

end RuleFilter.Unicode
