import Mathlib.Data.List.DropRight
import RuleFilter.Proofs.Rule.Decoding
import RuleFilter.Settings.Reader

set_option autoImplicit false

/-! # Decoding settings from documents

An object of settings is decoded by taking its members one after the other into a draft
(`Settings.Draft.take`): a known key with a value of its kind, and none twice. A limit is a number
that reading would hold as an integer, and not a negative one (`Json.limit?`), so every limit of 64
bits is read as it was written (`Json.limit?_unsigned`). The document of settings has each key once,
and decoding any text of it gives the settings (`Settings.ofText_of_spells`). -/

namespace RuleFilter

namespace Json

/-! ## Values of settings -/

/-- A text, or none for null. -/
def optionalText? : Json → Option (Option String)
  | null => some none
  | string s => some (some s)
  | _ => none

/-- The limit that a number gives. -/
def limitOf? : Number → Option UInt64
  | .signed n => if n.toInt < 0 then none else some n.toUInt64
  | .unsigned n => some n
  | .double _ => none

/-- The limit a number is held as. -/
def limit? : Json → Option UInt64
  | number n => n.held?.bind limitOf?
  | _ => none

/-- Blanks in front of a text are of no account. -/
theorem readText?_skipBlanks (cs : List Char) : readText? (skipBlanks cs) = readText? cs := by
  have hskip : skipBlanks (skipBlanks cs) = skipBlanks cs := List.dropWhile_idempotent ..
  rw [readText?, readText?, hskip]

theorem decodesAll_readOptionalText (size : Nat) (j : Json) :
    DecodesAll size Settings.readOptionalText j (optionalText? j) := by
  intro cs rest h hsize
  obtain ⟨c, after, hcs, hhead⟩ := h.exists_head
  cases j with
  | null =>
      rw [Settings.readOptionalText, show skipBlanks cs = _ from h]
      rfl
  | _ =>
      have hc : c ≠ 'n' := hhead.null.not.2 (by simp [kind])
      have htext : Settings.readOptionalText cs
          = (readText? cs).map fun read => (some read.1, read.2) := by
        rw [← readText?_skipBlanks]
        simp [Settings.readOptionalText, hcs, hc]
      rw [htext]
      exact (decodesAll_readText? size _ h hsize).map some

theorem decodesAll_readLimit (size : Nat) (j : Json) :
    DecodesAll size Settings.readLimit j (limit? j) := by
  intro cs rest h _
  obtain ⟨c, after, hcs, hhead⟩ := h.exists_head
  rw [Settings.readLimit, hcs]
  cases j with
  | number n =>
      obtain ⟨p, hparts, hvalue⟩ := h
      have hread : Decodes (readNumber (c :: after)) n.held? rest :=
        hvalue ▸ decodes_readNumber (hcs ▸ hparts)
      simp only [hhead.number.2 rfl, if_true, limit?]
      refine hread.bind fun held => ?_
      cases held with
      | signed n =>
          by_cases hneg : n.toInt < 0
          · simp only [limitOf?, if_pos hneg]
            exact .of_error rfl rest
          · simp only [limitOf?, if_neg hneg]
            rfl
      | unsigned n => rfl
      | double x => exact .of_error rfl rest
  | _ =>
      have hc : (c = '-' || c.isDigit) = false := by
        simpa using hhead.number.not.2 (by simp [kind])
      simp only [hc]
      exact .of_error rfl rest

/-- A limit of 64 bits is read as it was written, in whichever width it is held between. -/
theorem limit?_unsigned (n : UInt64) : limit? (number (.unsigned n)) = some n := by
  have hword : UInt64.size = 2 ^ 64 := rfl
  have hmax : Int64.maxValue.toInt = 2 ^ 63 - 1 := rfl
  have hmin : Int64.minValue.toInt = -2 ^ 63 := rfl
  have hlt := n.toNat_lt
  have hlimit : limit? (number (.unsigned n)) = limitOf? (Number.unsigned n).held := rfl
  -- the lower half is held signed, and the upper half unsigned
  by_cases hsigned : (n.toNat : Int) ≤ Int64.maxValue.toInt
  · have hvalue : (Int64.ofInt n.toNat).toInt = n.toNat :=
      Int64.toInt_ofInt_of_le (by omega) (by omega)
    have hheld : (Number.unsigned n).held = .signed (.ofInt n.toNat) := by
      rw [Number.held, Number.ofInt, if_pos (by omega)]
    have hnonneg : ¬ (Int64.ofInt n.toNat).toInt < 0 := by omega
    simp only [hlimit, hheld, limitOf?, if_neg hnonneg]
    rw [Int64.ofInt_eq_ofNat, Int64.toUInt64_ofNat', UInt64.ofNat_toNat]
  · have hheld : (Number.unsigned n).held = .unsigned n := by
      rw [Number.held, Number.ofInt, if_neg (by omega), if_pos (by omega), Int.toNat_natCast,
        UInt64.ofNat_toNat]
    rw [hlimit, hheld, limitOf?]

end Json

open Json (Spelled Decodes)

namespace Settings

/-! ## Members in order -/

/-- The draft with a member in it, unless the setting is unknown, is there already or is of the
wrong kind. -/
def Draft.take (draft : Draft) (e : String × Json) : Option Draft :=
  match e.1 with
  | "field_name_tag" => if draft.fieldNameTag.isSome then none
      else e.2.optionalText?.bind fun tag => some { draft with fieldNameTag := some tag }
  | "query_key" => if draft.queryKey.isSome then none
      else e.2.string?.bind fun key => some { draft with queryKey := some key }
  | "max_rules" => if draft.maxRules.isSome then none
      else e.2.limit?.bind fun max => some { draft with maxRules := some max }
  | "max_results" => if draft.maxResults.isSome then none
      else e.2.limit?.bind fun max => some { draft with maxResults := some max }
  | _ => none

theorem Draft.take_unknown (draft : Draft) (value : Json) {key : String}
    (h : key ≠ "field_name_tag" ∧ key ≠ "query_key" ∧ key ≠ "max_rules" ∧ key ≠ "max_results") :
    draft.take (key, value) = none := by
  -- the four keys are excluded by what is in the context
  obtain ⟨htag, hkey, hrules, hresults⟩ := h
  simp only [take]

theorem Draft.decodes_readMember (draft : Draft) {e : String × Json} {size : Nat}
    {cs colon rest : List Char} (hcolon : Json.readColon cs = .ok colon)
    (h : Spelled e.2 colon rest) (hsize : colon.length ≤ size + rest.length) :
    Decodes (draft.readMember e.1 cs) (draft.take e) rest := by
  obtain ⟨key, value⟩ := e
  obtain ⟨fieldNameTag, queryKey, maxRules, maxResults⟩ := draft
  have hoptional := Json.decodesAll_readOptionalText size value h hsize
  have htext := Json.decodesAll_readText? size value h hsize
  have hlimit := Json.decodesAll_readLimit size value h hsize
  unfold readMember
  simp only
  -- the four keys in order, each refused where the draft has it already, and then any other key
  split
  · cases fieldNameTag with
    | some _ => exact .of_error rfl rest
    | none => exact .of_bind_ok hcolon (hoptional.bind fun tag => rfl)
  · cases queryKey with
    | some _ => exact .of_error rfl rest
    | none => exact .of_bind_ok hcolon (htext.bind fun key => rfl)
  · cases maxRules with
    | some _ => exact .of_error rfl rest
    | none => exact .of_bind_ok hcolon (hlimit.bind fun max => rfl)
  · cases maxResults with
    | some _ => exact .of_error rfl rest
    | none => exact .of_bind_ok hcolon (hlimit.bind fun max => rfl)
  · next htag hkey hrules hresults =>
      rw [take_unknown _ value ⟨htag, hkey, hrules, hresults⟩]
      exact .of_error rfl rest

/-- The settings of the members of an object, taken in order. -/
def ofMembers? (members : List (String × Json)) : Option Settings :=
  (members.foldlM Draft.take ⟨none, none, none, none⟩).map Draft.finish

theorem decodesAll_read (size : Nat) {members : List (String × Json)} :
    Json.DecodesAll size (read size) (.object members) (ofMembers? members) := by
  intro cs rest h hsize
  obtain ⟨after, hcs, hmembers⟩ := h
  have hlength := Json.length_lt_of_skipBlanks hcs
  have hread : Decodes (Json.readMembers Draft.readMember size true ⟨none, none, none, none⟩ after)
      (members.foldlM Draft.take ⟨none, none, none, none⟩) rest := by
    refine Json.decodes_readMembers size ?_ hmembers (by omega) (by omega)
    intro e he draft behind colon after hcolon hspelled hlength
    exact draft.decodes_readMember hcolon hspelled hlength
  rw [read, hcs]
  exact hread.map Draft.finish

/-- An object of settings is decoded from every text of it. -/
theorem ofText_of_members {text : String} {members : List (String × Json)} {s : Settings}
    (h : Json.Spells text (.object members)) (hmembers : ofMembers? members = some s) :
    ofText text = .ok s := by
  obtain ⟨rest, hspelled, hend⟩ := h
  have hread := decodesAll_read (text.length + 1) hspelled (by
    rw [String.length_toList]
    omega)
  rw [hmembers] at hread
  exact Json.readText_eq_ok_iff.2 ⟨rest, hread, hend⟩

/-- **Settings are decoded from every text of their document**, among which is the one that is
written. -/
theorem ofText_of_spells {s : Settings} {text : String} (h : Json.Spells text s.toJson) :
    ofText text = .ok s := by
  refine ofText_of_members h ?_
  obtain ⟨tag, key, maxRules, maxResults⟩ := s
  cases tag <;>
    simp [ofMembers?, Draft.take, Draft.finish, Json.optionalText?, Json.string?,
      Json.limit?_unsigned]

theorem isFinite_toJson (s : Settings) : s.toJson.IsFinite := by
  obtain ⟨tag, key, maxRules, maxResults⟩ := s
  cases tag <;> exact ⟨trivial, trivial, trivial, trivial, trivial⟩

/-- The numbers of settings are the two limits. -/
theorem readsBack_toJson (s : Settings) : ∀ n ∈ s.toJson.numbers, n.ReadsBack := by
  have hnumbers : s.toJson.numbers = [.unsigned s.maxRules, .unsigned s.maxResults] := by
    obtain ⟨tag, key, maxRules, maxResults⟩ := s
    cases tag <;> rfl
  rw [hnumbers]
  simp [Number.readsBack_unsigned]

/-- Settings are read back from their text, whatever they are. -/
theorem ofText_toText_self (s : Settings) : ofText s.toText = .ok s :=
  ofText_of_spells (Json.spells_text s.isFinite_toJson s.readsBack_toJson)

end Settings

end RuleFilter
