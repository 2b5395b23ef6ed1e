import RuleFilter.Proofs.Json.Skip
import RuleFilter.Proofs.Reference.Meaning
import RuleFilter.Proofs.Rule.Step

set_option autoImplicit false

/-! # Decoding rules from documents

What the readers of rules make of a text is a function of the document the text spells, whatever
else the text has: `Rule.ofDocument?` takes the members of an object one after the other into a
draft, or the parts of a list by their places, and has no value where a part is of the wrong kind.
The function looks neither at what an unknown member holds nor at how deep that is nested. Between a
text and its rules stands nothing else (`RuleSet.ofText_of_spells`). -/

namespace RuleFilter

namespace Json

/-! ## Kinds -/

/-- The first character of a text tells the kinds that readers ask for. -/
structure Tells (c : Char) (k : Kind) : Prop where
  null : c = 'n' ↔ k = .null
  number : (c = '-' || c.isDigit) = true ↔ k = .number
  string : c = '"' ↔ k = .string
  array : c = '[' ↔ k = .array
  object : c = '\x7b' ↔ k = .object

theorem Spelled.exists_head {j : Json} {cs rest : List Char} (h : Spelled j cs rest) :
    ∃ c after, skipBlanks cs = c :: after ∧ Tells c j.kind := by
  cases j with
  | null => exact ⟨_, _, h, by constructor <;> decide⟩
  | bool b =>
      cases b with
      | true | false => exact ⟨_, _, h, by constructor <;> decide⟩
  | number n =>
      obtain ⟨p, hparts, -⟩ := h
      obtain ⟨c, after, hcs, hc⟩ := exists_cons_of_readParts hparts
      obtain ⟨hnull, -, -, hquote, hbracket, hbrace⟩ := ne_of_startsNumeral hc
      exact ⟨c, after, hcs, by simp [kind, hnull], by simpa [kind] using hc,
        by simp [kind, hquote], by simp [kind, hbracket], by simp [kind, hbrace]⟩
  | string s =>
      obtain ⟨after, hcs, -⟩ := h
      exact ⟨_, after, hcs, by constructor <;> simp [kind]⟩
  | array items =>
      obtain ⟨after, hcs, -⟩ := h
      exact ⟨_, after, hcs, by constructor <;> simp [kind]⟩
  | object members =>
      obtain ⟨after, hcs, -⟩ := h
      exact ⟨_, after, hcs, by constructor <;> simp [kind]⟩

/-! ## Strings, arrays and parts -/

theorem decodesAll_readText? (size : Nat) (j : Json) : DecodesAll size readText? j j.string? := by
  intro cs rest h _
  obtain ⟨c, after, hcs, hhead⟩ := h.exists_head
  cases j with
  | string s =>
      obtain ⟨after, hcs, hread⟩ := h
      rw [readText?, hcs]
      exact hread
  | _ =>
      have hc : c ≠ '"' := hhead.string.not.2 (by simp [kind])
      have herror : readText? cs = .error (misfit (c :: after)) := by simp [readText?, hcs, hc]
      exact .of_error herror rest

/-- An array of what a function makes of its items, if it has a value for each. -/
def arrayOf? {α : Type} (f : Json → Option α) : Json → Option (List α)
  | array items => items.mapM f
  | _ => none

theorem decodesAll_readArray {α : Type} {item : Nat → List Char → Except Fault (WithRest α)}
    {f : Json → Option α} {fuel budget : Nat} {j : Json} (hbudget : 1 < budget)
    (hitem : ∀ items, j = array items → ∀ i ∈ items, DecodesAll fuel (item (budget - 1)) i (f i)) :
    DecodesAll fuel (readArray item fuel budget) j (arrayOf? f j) := by
  intro cs rest h hsize
  obtain ⟨c, after, hcs, hhead⟩ := h.exists_head
  cases j with
  | array items =>
      obtain ⟨after, hcs, hitems⟩ := h
      have hlength := length_lt_of_skipBlanks hcs
      rw [readArray, hcs]
      simp only [if_neg (Nat.not_le.2 hbudget)]
      exact decodes_readItems fuel (hitem items rfl) hitems (by omega) (by omega)
  | _ =>
      have hc : c ≠ '[' := hhead.array.not.2 (by simp [kind])
      have herror : readArray item fuel budget cs = .error (misfit (c :: after)) := by
        simp [readArray, hcs, hc]
      exact .of_error herror rest

/-- What a function makes of a part, or a default where it is missing. -/
def partOf? {α : Type} (f : Json → Option α) (default : α) : Option Json → Option α
  | some j => f j
  | none => some default

/-- A list that has ended has ended, whether a comma was expected or not. -/
theorem SpelledItems.of_nil {first : Bool} {cs rest : List Char} (h : SpelledItems [] first cs rest)
    (first' : Bool) : SpelledItems [] first' cs rest := by
  obtain ⟨hnext, hclose⟩ := h
  cases nextItem_eq_ok_iff.1 hnext with
  | closed hcs => exact ⟨nextItem_eq_ok_iff.2 (.closed hcs), hclose⟩

/-- The next part is read, or its default is taken, and the others stay. -/
theorem decodes_readPart {α : Type} {part : List Char → Except Fault (WithRest α)}
    {f : Json → Option α} (default : α) {size : Nat} {parts : List Json} {first : Bool}
    {cs rest : List Char} (hpart : ∀ j ∈ parts, DecodesAll size part j (f j))
    (h : SpelledItems parts first cs rest) (hsize : cs.length ≤ size + rest.length) :
    ∃ after, Decodes (readPart part default first cs) (partOf? f default parts[0]?) after
      ∧ SpelledItems (parts.drop 1) false after rest ∧ after.length ≤ cs.length := by
  cases parts with
  | nil =>
      refine ⟨cs, ?_, h.of_nil false, Nat.le_refl _⟩
      exact readPart_eq_ok_iff.2 (Or.inl ⟨h.1, rfl, rfl⟩)
  | cons j parts =>
      obtain ⟨start, after, hnext, hspelled, hparts⟩ := h
      have hstart := length_le_of_nextItem hnext
      have hafter := hspelled.length_lt
      have hpos := hparts.length_lt
      refine ⟨after, ?_, hparts, by omega⟩
      have hread := hpart j List.mem_cons_self hspelled (by omega)
      rw [readPart, hnext]
      exact hread

/-- An array does not close in front of an item. -/
theorem closeArray_of_spelledItems {items : List Json} {first : Bool} {cs rest : List Char}
    (hitems : items ≠ []) (h : SpelledItems items first cs rest) :
    ∃ f, closeArray cs = .error f := by
  obtain ⟨j, items, rfl⟩ := List.exists_cons_of_ne_nil hitems
  obtain ⟨start, after, hnext, -⟩ := h
  refine ⟨.malformed, ?_⟩
  cases nextItem_eq_ok_iff.1 hnext with
  | first hcs hc => simp [closeArray, hcs, hc]
  | later hcs => simp [closeArray, hcs]

end Json

open Json (Fault WithRest Spelled SpelledItems SpelledMembers Decodes DecodesAll)

namespace OrderedReference

/-- The reference of a document, if each number in it is read. -/
def ofJson? (j : Json) : Option OrderedReference := j.held?.map ofJson

theorem givesWhen_ofJson? (j : Json) : GivesWhen (ofJson? j) j.IsFinite (ofJson j) := by
  have hheld : ofJson j.held = ofJson j := OrderedReference.ext (Reference.ofJson_held j)
  rw [← hheld]
  exact (Json.givesWhen_held? j).map ofJson

theorem decodesAll_read {fuel budget : Nat} {j : Json} (hdepth : j.depth < budget) :
    DecodesAll fuel (read fuel budget) j (ofJson? j) :=
  fun _ _ h hsize => (Json.decodes_readValue h hdepth hsize).map ofJson

end OrderedReference

/-! ## Rules -/

/-- The draft with a member in it, unless the part is there already or is of the wrong kind. -/
def RuleDraft.take (draft : RuleDraft) (e : String × Json) : Option RuleDraft :=
  match e.1 with
  | "field" => if draft.field.isSome then none
      else e.2.string?.bind fun s => some { draft with field := some s }
  | "type" => if draft.tag.isSome then none
      else e.2.string?.bind fun s => some { draft with tag := some s }
  | "value" => if draft.value.isSome then none
      else (OrderedReference.ofJson? e.2).bind fun value => some { draft with value := some value }
  | _ => some draft

theorem RuleDraft.take_unknown (draft : RuleDraft) (value : Json) {key : String}
    (h : key ≠ "field" ∧ key ≠ "type" ∧ key ≠ "value") : draft.take (key, value) = some draft := by
  -- the three keys are excluded by what is in the context
  obtain ⟨hfield, htag, hvalue⟩ := h
  simp only [take]

theorem RuleDraft.decodes_readMember {fuel budget : Nat} (draft : RuleDraft) {e : String × Json}
    {cs colon rest : List Char} (hdepth : e.2.depth < budget)
    (hcolon : Json.readColon cs = .ok colon) (h : Spelled e.2 colon rest)
    (hsize : colon.length ≤ fuel + rest.length) :
    Decodes (draft.readMember fuel budget e.1 cs) (draft.take e) rest := by
  obtain ⟨key, value⟩ := e
  obtain ⟨field, tag, reference⟩ := draft
  have htext := Json.decodesAll_readText? fuel value h hsize
  have hread := OrderedReference.decodesAll_read hdepth h hsize
  unfold readMember
  simp only
  split
  · cases field with
    | some _ => exact .of_error rfl rest
    | none => exact .of_bind_ok hcolon (htext.bind fun s => rfl)
  · cases tag with
    | some _ => exact .of_error rfl rest
    | none => exact .of_bind_ok hcolon (htext.bind fun s => rfl)
  · cases reference with
    | some _ => exact .of_error rfl rest
    | none => exact .of_bind_ok hcolon (hread.bind fun value => rfl)
  · next hfield htag hvalue =>
      have hskip := Json.skipValue_of_spelled h hsize
      rw [take_unknown _ value ⟨hfield, htag, hvalue⟩]
      exact .of_bind_ok hcolon (.of_bind_ok hskip rfl)

/-- The rule of what is given for its parts. -/
def Rule.ofGiven? (field tag value : Option Json) : Option Rule :=
  (Json.partOf? Json.string? "" field).bind fun field =>
    (Json.partOf? Json.string? "" tag).bind fun tag =>
      (Json.partOf? OrderedReference.ofJson? .null value).bind fun value =>
        some ⟨field, tag, value⟩

/-- The rule of a list of parts, of which there are at most three. -/
def Rule.ofParts? (parts : List Json) : Option Rule :=
  if parts.length ≤ 3 then ofGiven? parts[0]? parts[1]? parts[2]? else none

theorem Rule.decodes_readParts {fuel budget : Nat} {parts : List Json} {cs rest : List Char}
    (hdepth : Json.depthItems parts < budget) (h : SpelledItems parts true cs rest)
    (hsize : cs.length ≤ fuel + rest.length) :
    Decodes (Rule.readParts fuel budget cs) (ofParts? parts) rest := by
  have htext : ∀ j : Json, DecodesAll fuel Json.readText? j j.string? :=
    Json.decodesAll_readText? fuel
  have hreference : ∀ j ∈ (parts.drop 1).drop 1,
      DecodesAll fuel (OrderedReference.read fuel budget) j (OrderedReference.ofJson? j) := by
    intro j hj
    have hmem : j ∈ parts := List.mem_of_mem_drop (List.mem_of_mem_drop hj)
    have hle := Json.depthItems_le_iff.1 (Nat.le_refl _) j hmem
    exact OrderedReference.decodesAll_read (Nat.lt_of_le_of_lt hle hdepth)
  obtain ⟨cs₁, hfield, h₁, hlength₁⟩ := Json.decodes_readPart "" (fun j _ => htext j) h hsize
  obtain ⟨cs₂, htag, h₂, hlength₂⟩ :=
    Json.decodes_readPart "" (fun j _ => htext j) h₁ (by omega)
  obtain ⟨cs₃, hvalue, h₃, -⟩ := Json.decodes_readPart .null hreference h₂ (by omega)
  simp only [List.drop_drop, List.getElem?_drop, Nat.reduceAdd] at htag hvalue h₃
  by_cases hthree : parts.length ≤ 3
  · have hclose : Json.closeArray cs₃ = .ok rest := by
      rw [List.drop_eq_nil_of_le hthree] at h₃
      exact h₃.2
    rw [ofParts?, if_pos hthree]
    exact hfield.bind fun field => htag.bind fun tag => hvalue.bind fun value =>
      .of_bind_ok hclose rfl
  · -- whatever the three parts are, a fourth one is refused
    obtain ⟨f, hclose⟩ : ∃ f, Json.closeArray cs₃ = .error f :=
      Json.closeArray_of_spelledItems (fun hnil => hthree (List.drop_eq_nil_iff.1 hnil)) h₃
    have hread : Decodes (Rule.readParts fuel budget cs)
        ((Json.partOf? Json.string? "" parts[0]?).bind fun _ =>
          (Json.partOf? Json.string? "" parts[1]?).bind fun _ =>
            (Json.partOf? OrderedReference.ofJson? .null parts[2]?).bind fun _ => none) rest :=
      hfield.bind fun field => htag.bind fun tag => hvalue.bind fun value =>
        .of_error (Except.bind_eq_error_iff.2 (Or.inl hclose)) rest
    simp only [Option.bind_fun_none] at hread
    rwa [ofParts?, if_neg hthree]

/-- The rule of a document. -/
def Rule.ofDocument? : Json → Option Rule
  | .array parts => ofParts? parts
  | .object members => (members.foldlM RuleDraft.take ⟨none, none, none⟩).map RuleDraft.finish
  | _ => none

theorem Rule.decodesAll_read {fuel budget : Nat} {j : Json} (hbudget : 1 < budget)
    (hdepth : j.depth < budget) : DecodesAll fuel (Rule.read fuel budget) j (ofDocument? j) := by
  intro cs rest h hsize
  obtain ⟨c, after, hcs, hhead⟩ := h.exists_head
  cases j with
  | array parts =>
      obtain ⟨after, hcs, hparts⟩ := h
      have hlength := Json.length_lt_of_skipBlanks hcs
      simp only [Json.depth] at hdepth
      rw [Rule.read, hcs]
      simp only [if_neg (Nat.not_le.2 hbudget)]
      exact decodes_readParts (by omega) hparts (by omega)
  | object members =>
      obtain ⟨after, hcs, hmembers⟩ := h
      have hlength := Json.length_lt_of_skipBlanks hcs
      simp only [Json.depth] at hdepth
      have hread : Decodes (Json.readMembers (RuleDraft.readMember fuel (budget - 1)) fuel true
          ⟨none, none, none⟩ after) (members.foldlM RuleDraft.take ⟨none, none, none⟩) rest := by
        refine Json.decodes_readMembers fuel ?_ hmembers (by omega) (by omega)
        intro e he draft behind colon after hcolon hspelled hlength
        have hle := Json.depthMembers_le_iff.1 (Nat.le_refl _) e he
        exact draft.decodes_readMember (by omega) hcolon hspelled hlength
      rw [Rule.read, hcs]
      simp only [if_neg (Nat.not_le.2 hbudget)]
      exact hread.map RuleDraft.finish
  | _ =>
      have hc : c ≠ '[' ∧ c ≠ '\x7b' :=
        ⟨hhead.array.not.2 (by simp [Json.kind]), hhead.object.not.2 (by simp [Json.kind])⟩
      have herror : Rule.read fuel budget cs = .error (Json.misfit (c :: after)) := by
        simp [Rule.read, hcs, hc]
      exact .of_error herror rest

/-! ## Rule sets -/

namespace RuleSet

/-- The rules of a document: an array of arrays of the documents of rules. -/
def ofDocument? : Json → Option RuleSet := Json.arrayOf? (Json.arrayOf? Rule.ofDocument?)

theorem decodesAll_read {fuel : Nat} {d : Json} (hdepth : d.depth < Json.nestingBudget) :
    DecodesAll fuel (RuleSet.read fuel) d (ofDocument? d) := by
  have hbudget : Json.nestingBudget = 128 := rfl
  refine Json.decodesAll_readArray (by omega) ?_
  rintro groups rfl group hgroup
  have hdepthGroup := Json.depthItems_le_iff.1 (Nat.le_refl _) group hgroup
  simp only [Json.depth] at hdepth
  refine Json.decodesAll_readArray (by omega) ?_
  rintro rules rfl rule hrule
  have hdepthRule := Json.depthItems_le_iff.1 (Nat.le_refl _) rule hrule
  simp only [Json.depth] at hdepthGroup
  exact Rule.decodesAll_read (by omega) (by omega)

/-- A text of a document that is not too deep is decoded as the document. -/
theorem ofText_of_spells {text : String} {d : Json} (h : Json.Spells text d)
    (hdepth : d.depth < Json.nestingBudget) :
    (∀ rules, ofDocument? d = some rules → ofText text = .ok rules)
      ∧ (ofDocument? d = none → ∃ f, ofText text = .error (.undecodable f)) := by
  obtain ⟨rest, hspelled, hend⟩ := h
  have hdecodes : Decodes (RuleSet.read (text.length + 1) text.toList) (ofDocument? d) rest := by
    refine decodesAll_read hdepth hspelled ?_
    rw [String.length_toList]
    omega
  constructor
  · intro rules hrules
    rw [hrules] at hdecodes
    exact ofText_eq_ok_iff.2 ⟨rest, hdecodes, hend⟩
  · intro hnone
    rw [hnone] at hdecodes
    obtain ⟨f, herror⟩ := hdecodes
    refine ⟨f, ?_⟩
    rw [ofText, Json.readText, herror]
    rfl

end RuleSet

end RuleFilter
