import Mathlib.Data.List.Induction
import RuleFilter.Proofs.Rule.Decoding

set_option autoImplicit false

/-! # Which documents are rule sets

A rule set is written as an array of arrays of the documents of rules, and a rule as an object or as
a list of its parts (`Rule.IsDocument`). On every text of a document that is not too deep this alone
decides whether rules are read, and the document alone which ones (`RuleSet.ofText_of_document`).
Behind it stands that the members of an object may be taken in any order: a draft that has taken
them holds what is found under each key (`RuleDraft.foldlM_take`). -/

namespace RuleFilter

/-! ## The form of a document -/

namespace Json

def IsString (j : Json) : Prop := ∃ s, j = string s

/-- The document is an array of such documents. -/
def IsArrayOf (p : Json → Prop) : Json → Prop
  | array items => ∀ j ∈ items, p j
  | _ => False

def items : Json → List Json
  | array items => items
  | _ => []

/-- The text that is given, or none. -/
def givenText (j : Option Json) : String := (j.bind string?).getD ""

/-- What holds of all items besides is said of each. -/
theorem isArrayOf_and {p q : Json → Prop} {j : Json} :
    j.IsArrayOf (fun i => p i ∧ q i) ↔ j.IsArrayOf p ∧ ∀ i ∈ j.items, q i := by
  cases j with
  | array items => exact forall₂_and
  | _ => exact (and_iff_left_of_imp False.elim).symm

theorem givesWhen_string? (j : Json) : GivesWhen j.string? j.IsString (givenText (some j)) := by
  cases j with
  | string s => exact (GivesWhen.always s).congr ⟨fun _ => ⟨s, rfl⟩, fun _ => trivial⟩
  | _ => exact .never (fun ⟨_, h⟩ => by cases h) _

theorem givesWhen_arrayOf? {α : Type} {f : Json → Option α} {p : Json → Prop} {g : Json → α}
    {j : Json} (h : ∀ i ∈ j.items, GivesWhen (f i) (p i) (g i)) :
    GivesWhen (arrayOf? f j) (j.IsArrayOf p) (j.items.map g) := by
  cases j with
  | array items => exact .mapM h
  | _ => exact .never (fun h => h) _

theorem DistinctKeys.of_mem_items {j i : Json} (h : j.DistinctKeys) (hi : i ∈ j.items) :
    i.DistinctKeys := by
  cases j with
  | array items => exact distinctKeysItems_iff.1 h i hi
  | _ => exact absurd hi List.not_mem_nil

end Json

/-! ## Rules -/

namespace Rule

/-- The document is an object whose parts, where they are given, are of the right kind, or a list of
at most three such parts. Any document will do for the value. -/
def IsDocument : Json → Prop
  | .object members => (∀ j ∈ members.lookup "field", j.IsString)
      ∧ (∀ j ∈ members.lookup "type", j.IsString)
  | .array parts => parts.length ≤ 3 ∧ (∀ j ∈ parts[0]?, j.IsString) ∧ (∀ j ∈ parts[1]?, j.IsString)
  | _ => False

/-- The rule of the parts that are given: a missing text is empty, a missing value is null. -/
def ofGiven (field tag value : Option Json) : Rule :=
  ⟨Json.givenText field, Json.givenText tag, (value.map OrderedReference.ofJson).getD .null⟩

/-- The part of a rule that stands under its key in an object, or in its place in a list. -/
def part (key : String) (place : Nat) : Json → Option Json
  | .object members => members.lookup key
  | .array parts => parts[place]?
  | _ => none

/-- What stands in a document of a rule for the value, if anything does. -/
def valuePart (j : Json) : Option Json := part "value" 2 j

/-- The rule that a document of a rule holds. -/
def ofDocument (j : Json) : Rule := ofGiven (part "field" 0 j) (part "type" 1 j) (valuePart j)

theorem givesWhen_partOf? {α : Type} {f : Json → Option α} {p : Json → Prop} {g : Json → α}
    (h : ∀ j, GivesWhen (f j) (p j) (g j)) (default : α) (part : Option Json) :
    GivesWhen (Json.partOf? f default part) (∀ j ∈ part, p j) ((part.map g).getD default) := by
  cases part with
  | none => exact (GivesWhen.always default).congr (by simp)
  | some j => exact (h j).congr (by simp)

theorem givesWhen_textOf? (part : Option Json) :
    GivesWhen (Json.partOf? Json.string? "" part) (∀ j ∈ part, j.IsString)
      (Json.givenText part) := by
  have hpart := givesWhen_partOf? Json.givesWhen_string? "" part
  cases part <;> exact hpart

theorem givesWhen_ofGiven? (field tag value : Option Json) :
    GivesWhen (ofGiven? field tag value)
      (((∀ j ∈ field, j.IsString) ∧ (∀ j ∈ tag, j.IsString)) ∧ ∀ j ∈ value, j.IsFinite)
      (ofGiven field tag value) := by
  have hvalue := givesWhen_partOf? OrderedReference.givesWhen_ofJson? .null value
  rw [ofGiven?]
  refine ((givesWhen_textOf? field).bind fun _ => (givesWhen_textOf? tag).bind fun _ =>
    hvalue.bind fun _ => .always (ofGiven field tag value)).congr ?_
  rw [and_true, and_assoc]

end Rule

/-! ## Members in any order -/

namespace RuleDraft

/-- A part for a draft, which may be missing. -/
def part? {α : Type} (f : Json → Option α) : Option Json → Option (Option α)
  | some j => (f j).map some
  | none => some none

/-- The draft of what is found under the keys of the parts. -/
def ofMembers? (members : List (String × Json)) : Option RuleDraft :=
  (part? Json.string? (members.lookup "field")).bind fun field =>
    (part? Json.string? (members.lookup "type")).bind fun tag =>
      (part? OrderedReference.ofJson? (members.lookup "value")).bind fun value =>
        some ⟨field, tag, value⟩

/-- One member more, of a new key, is found as well. -/
theorem ofMembers?_append_singleton {members : List (String × Json)} {key : String} (value : Json)
    (hfresh : key ∉ members.map Prod.fst) :
    ofMembers? (members ++ [(key, value)])
      = (ofMembers? members).bind fun draft => draft.take (key, value) := by
  have hlookup := lookup_append_singleton value hfresh
  have hnone : members.lookup key = none := lookup_eq_none_iff_not_mem.2 hfresh
  -- a part is new to the draft, since its key is new
  by_cases hfield : key = "field"
  · subst hfield
    simp only [ofMembers?, hlookup, hnone, String.reduceEq, reduceIte]
    generalize part? Json.string? (members.lookup "type") = tag
    generalize part? OrderedReference.ofJson? (members.lookup "value") = reference
    cases hvalue : value.string? <;> cases tag <;> cases reference <;> simp [part?, take, hvalue]
  by_cases htag : key = "type"
  · subst htag
    simp only [ofMembers?, hlookup, hnone, String.reduceEq, reduceIte]
    generalize part? Json.string? (members.lookup "field") = field
    generalize part? OrderedReference.ofJson? (members.lookup "value") = reference
    cases hvalue : value.string? <;> cases field <;> cases reference <;> simp [part?, take, hvalue]
  by_cases hvalue : key = "value"
  · subst hvalue
    simp only [ofMembers?, hlookup, hnone, String.reduceEq, reduceIte]
    generalize part? Json.string? (members.lookup "field") = field
    generalize part? Json.string? (members.lookup "type") = tag
    cases hvalue : OrderedReference.ofJson? value <;> cases field <;> cases tag <;>
      simp [part?, take, hvalue]
  · simp only [ofMembers?, hlookup, if_neg (Ne.symm hfield), if_neg (Ne.symm htag),
      if_neg (Ne.symm hvalue), take_unknown _ value ⟨hfield, htag, hvalue⟩, Option.bind_fun_some]

/-- The members of an object may be taken in any order. -/
theorem foldlM_take {members : List (String × Json)} (hkeys : KeysDistinct members) :
    members.foldlM take ⟨none, none, none⟩ = ofMembers? members := by
  induction members using List.reverseRecOn with
  | nil => rfl
  | append_singleton members e ih =>
      obtain ⟨key, value⟩ := e
      have hmoved := hkeys.perm (List.perm_append_singleton (key, value) members)
      obtain ⟨hfresh, hkeys⟩ := keysDistinct_cons.1 hmoved
      rw [List.foldlM_append, ih hkeys, ofMembers?_append_singleton value hfresh]
      simp only [List.foldlM_cons, List.foldlM_nil, bind_pure]
      rfl

/-- A missing part is the default one in the end. -/
theorem part?_bind {α β : Type} (f : Json → Option α) (default : α) (j : Option Json)
    (g : α → Option β) :
    ((part? f j).bind fun x => g (x.getD default)) = (Json.partOf? f default j).bind g := by
  cases j with
  | none => rfl
  | some j =>
      cases h : f j with
      | none => simp [part?, Json.partOf?, h]
      | some x => simp [part?, Json.partOf?, h]

theorem map_finish_ofMembers? (members : List (String × Json)) :
    (ofMembers? members).map finish
      = Rule.ofGiven? (members.lookup "field") (members.lookup "type")
        (members.lookup "value") := by
  simp only [ofMembers?, Rule.ofGiven?, ← part?_bind, Option.map_bind, Function.comp_def,
    Option.map_some]
  rfl

end RuleDraft

theorem Rule.givesWhen_ofDocument? {j : Json} (hkeys : j.DistinctKeys) :
    GivesWhen (ofDocument? j) (IsDocument j ∧ ∀ v ∈ valuePart j, v.IsFinite) (ofDocument j) := by
  cases j with
  | object members =>
      rw [ofDocument?, RuleDraft.foldlM_take hkeys.1, RuleDraft.map_finish_ofMembers?]
      exact givesWhen_ofGiven? _ _ _
  | array parts =>
      rw [ofDocument?, ofParts?]
      by_cases hthree : parts.length ≤ 3
      · rw [if_pos hthree]
        exact (givesWhen_ofGiven? _ _ _).congr
          (and_congr_left fun _ => (and_iff_right hthree).symm)
      · rw [if_neg hthree]
        exact .never (fun h => hthree h.1.1) _
  | _ => exact .never (fun h => h.1) _

/-! ## Rule sets -/

namespace RuleSet

/-- The document is an array of arrays of documents of rules. -/
def IsDocument : Json → Prop := Json.IsArrayOf (Json.IsArrayOf Rule.IsDocument)

/-- The groups and rules that a document of rules holds, in its order. -/
def ofDocument (d : Json) : RuleSet := d.items.map fun group => group.items.map Rule.ofDocument

/-- What stands in a document of rules for their values. -/
def valueParts (d : Json) : List Json :=
  d.items.flatMap fun group => group.items.filterMap Rule.valuePart

theorem forall_mem_valueParts_iff {d : Json} {p : Json → Prop} :
    (∀ v ∈ valueParts d, p v)
      ↔ ∀ group ∈ d.items, ∀ rule ∈ group.items, ∀ v ∈ Rule.valuePart rule, p v := by
  simp only [valueParts, List.mem_flatMap, List.mem_filterMap, forall_exists_index, and_imp,
    Option.mem_def]
  exact ⟨fun h group hgroup rule hrule v hv => h v group hgroup rule hrule hv,
    fun h v group hgroup rule hrule hv => h group hgroup rule hrule v hv⟩

theorem givesWhen_ofDocument? {d : Json} (hkeys : d.DistinctKeys) :
    GivesWhen (ofDocument? d) (IsDocument d ∧ ∀ v ∈ valueParts d, v.IsFinite) (ofDocument d) := by
  have hgives : GivesWhen (ofDocument? d) (d.IsArrayOf (Json.IsArrayOf fun rule =>
      Rule.IsDocument rule ∧ ∀ v ∈ Rule.valuePart rule, v.IsFinite)) (ofDocument d) :=
    Json.givesWhen_arrayOf? fun group hgroup => Json.givesWhen_arrayOf? fun rule hrule =>
      Rule.givesWhen_ofDocument? ((hkeys.of_mem_items hgroup).of_mem_items hrule)
  have hgroup : (Json.IsArrayOf fun rule =>
      Rule.IsDocument rule ∧ ∀ v ∈ Rule.valuePart rule, v.IsFinite)
      = fun group => group.IsArrayOf Rule.IsDocument
        ∧ ∀ rule ∈ group.items, ∀ v ∈ Rule.valuePart rule, v.IsFinite :=
    funext fun _ => propext Json.isArrayOf_and
  refine hgives.congr ?_
  rw [hgroup, Json.isArrayOf_and, forall_mem_valueParts_iff]
  rfl

/-- What rules are decoded from a text: those of the value where the condition holds, and elsewhere
there is an error of decoding. -/
structure DecodesWhen (text : String) (p : Prop) (rules : RuleSet) : Prop where
  accepted_iff : (∃ rules, ofText text = .ok rules) ↔ p
  eq_ok : p → ofText text = .ok rules
  eq_error : ¬ p → ∃ e, ofText text = .error e ∧ e.kind = .decode

theorem DecodesWhen.congr {text : String} {p q : Prop} {rules : RuleSet}
    (h : DecodesWhen text p rules) (hpq : p ↔ q) : DecodesWhen text q rules :=
  ⟨h.accepted_iff.trans hpq, fun hq => h.eq_ok (hpq.2 hq), fun hq => h.eq_error (mt hpq.1 hq)⟩

/-- On every text of a document that is not too deep the document decides: its rules are read where
it has the form of a rule set and a number is read for every numeral in a value. -/
theorem decodesWhen_of_spells {text : String} {d : Json} (h : Json.Spells text d)
    (hdepth : d.depth < Json.nestingBudget) (hkeys : d.DistinctKeys) :
    DecodesWhen text (IsDocument d ∧ ∀ v ∈ valueParts d, v.IsFinite) (ofDocument d) := by
  have hgives := givesWhen_ofDocument? hkeys
  obtain ⟨hok, herror⟩ := ofText_of_spells h hdepth
  have haccepted : (IsDocument d ∧ ∀ v ∈ valueParts d, v.IsFinite) →
      ofText text = .ok (ofDocument d) :=
    fun h => hok _ (hgives.eq_some h)
  have hrefused : ¬ (IsDocument d ∧ ∀ v ∈ valueParts d, v.IsFinite) →
      ∃ e, ofText text = .error e ∧ e.kind = .decode := by
    intro h
    obtain ⟨f, hf⟩ := herror (hgives.eq_none h)
    exact ⟨_, hf, rfl⟩
  refine ⟨⟨?_, fun h => ⟨_, haccepted h⟩⟩, haccepted, hrefused⟩
  rintro ⟨rules, hrules⟩
  by_contra h
  obtain ⟨e, he, -⟩ := hrefused h
  rw [hrules] at he
  cases he

end RuleSet

end RuleFilter
