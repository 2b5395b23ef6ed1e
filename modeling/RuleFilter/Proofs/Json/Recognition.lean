import RuleFilter.Proofs.Json.Reading

set_option autoImplicit false

/-! # What is read is a text of the grammar

The reader accepts nothing but texts of the grammar: each step of a successful reading is a rule of
it, so by induction on the fuel there is a document that the characters taken are a text of, and
what was read is that document as it is held (`recognizes_readValue`). With the other
direction the grammar tells exactly which texts are read as which document (`ofText_eq_ok_iff`). -/

namespace RuleFilter.Json

/-! ## Blanks -/

theorem Gap.trans {cs behind rest : List Char} (h : Gap cs behind) (hrest : Gap behind rest) :
    Gap cs rest := by
  induction h with
  | none => exact hrest
  | blank hc _ ih => exact .blank hc (ih hrest)

theorem gap_skipBlanks (cs : List Char) : Gap cs (skipBlanks cs) := by
  induction cs with
  | nil => exact .none
  | cons c cs ih =>
      cases hc : isBlank c with
      | true =>
          rw [skipBlanks, List.dropWhile_cons_of_pos hc]
          exact .blank (isBlank_iff.1 hc) ih
      | false =>
          rw [skipBlanks_cons hc]
          exact .none

theorem gap_of_skipBlanks {cs rest : List Char} (h : skipBlanks cs = rest) : Gap cs rest :=
  h ▸ gap_skipBlanks cs

theorem gap_of_readColon {cs after : List Char} (h : readColon cs = .ok after) :
    Gap cs (':' :: after) := by
  rw [readColon] at h
  split at h
  · cases h
  · next hcs =>
      cases h
      exact gap_of_skipBlanks hcs
  · cases h

theorem gap_of_closeArray {cs rest : List Char} (h : closeArray cs = .ok rest) :
    Gap cs (']' :: rest) := by
  rw [closeArray] at h
  split at h
  · cases h
  · next hcs =>
      cases h
      exact gap_of_skipBlanks hcs
  · cases h

/-! ## Items and members -/

/-- Wherever a value is read, a document no deeper than the bound is written behind a gap, and the
value is that document as it is held. -/
def Recognizes (bound : Nat) (value : List Char → Except Fault (WithRest Json)) : Prop :=
  ∀ ⦃cs rest : List Char⦄ ⦃j : Json⦄, value cs = .ok (j, rest) →
    ∃ d start, Gap cs start ∧ Writes d start rest ∧ d.read.depth ≤ bound ∧ d.read.held? = some j

theorem mapM_held?_cons {d : Written} {items : List Written} {j : Json} {js : List Json}
    (hd : d.read.held? = some j)
    (hitems : (Written.jsonItems WrittenNumber.read items).mapM held? = some js) :
    (Written.jsonItems WrittenNumber.read (d :: items)).mapM held? = some (j :: js) := by
  rw [Written.read] at hd
  rw [Written.jsonItems, List.mapM_cons, hd, hitems]
  rfl

theorem exists_writesItems_of_readItems {bound fuel : Nat}
    {value : List Char → Except Fault (WithRest Json)} (hvalue : Recognizes bound value)
    {cs rest : List Char} {js : List Json} (h : readItems value fuel false cs = .ok (js, rest)) :
    ∃ items, WritesItems items cs rest
      ∧ depthItems (Written.jsonItems WrittenNumber.read items) ≤ bound
      ∧ (Written.jsonItems WrittenNumber.read items).mapM held? = some js := by
  induction fuel generalizing cs js with
  | zero => cases h
  | succ fuel ih =>
      cases readItems_eq_ok_iff.1 h with
      | done hnext hclose => exact ⟨[], .close (gap_of_closeArray hclose), Nat.zero_le _, rfl⟩
      | more hnext hitem hrest =>
          cases nextItem_eq_ok_iff.1 hnext with
          | later hcomma hbehind _ =>
              obtain ⟨d, start, hgap, hwrites, hdepth, hheld⟩ := hvalue hitem
              obtain ⟨items, hitems, hdepths, hheldItems⟩ := ih hrest
              refine ⟨d :: items, .comma (gap_of_skipBlanks hcomma)
                ((gap_of_skipBlanks hbehind).trans hgap) hwrites hitems,
                Nat.max_le.2 ⟨hdepth, hdepths⟩, mapM_held?_cons hheld hheldItems⟩

theorem exists_writes_of_readItems {bound fuel : Nat}
    {value : List Char → Except Fault (WithRest Json)} (hvalue : Recognizes bound value)
    {cs rest : List Char} {js : List Json} (h : readItems value fuel true cs = .ok (js, rest)) :
    ∃ items, Writes (.array items) ('[' :: cs) rest
      ∧ depthItems (Written.jsonItems WrittenNumber.read items) ≤ bound
      ∧ (Written.jsonItems WrittenNumber.read items).mapM held? = some js := by
  cases fuel with
  | zero => cases h
  | succ fuel =>
      cases readItems_eq_ok_iff.1 h with
      | done hnext hclose =>
          exact ⟨[], .emptyArray (gap_of_closeArray hclose), Nat.zero_le _, rfl⟩
      | more hnext hitem hrest =>
          cases nextItem_eq_ok_iff.1 hnext with
          | first hcs _ =>
              obtain ⟨d, start, hgap, hwrites, hdepth, hheld⟩ := hvalue hitem
              obtain ⟨items, hitems, hdepths, hheldItems⟩ :=
                exists_writesItems_of_readItems hvalue hrest
              refine ⟨d :: items, .array ((gap_of_skipBlanks hcs).trans hgap) hwrites hitems,
                Nat.max_le.2 ⟨hdepth, hdepths⟩, mapM_held?_cons hheld hheldItems⟩

/-- A member whose key is found behind a quote is written from there. -/
theorem exists_writesMember_of_readMember {fuel budget : Nat}
    (hvalue : Recognizes (budget - 1) (readValue fuel budget)) {members next : List (String × Json)}
    {key : String} {cs behind rest : List Char} (hkey : readString cs = .ok (key, behind))
    (h : readMember fuel budget members key behind = .ok (next, rest)) :
    ∃ d, WritesMember key d ('"' :: cs) rest ∧ d.read.depth ≤ budget - 1
      ∧ keep? members (key, d.read) = some next := by
  obtain ⟨after, j, hcolon, hread, hnext⟩ := readMember_eq_ok_iff.1 h
  obtain ⟨d, start, hgap, hwrites, hdepth, hheld⟩ := hvalue hread
  refine ⟨d, .colon (readString_eq_ok_iff.1 hkey) (gap_of_readColon hcolon) hgap hwrites,
    hdepth, ?_⟩
  rw [keep?, hheld, Option.map_some, hnext]

theorem foldlM_keep?_cons {key : String} {d : Written} {more : List (String × Written)}
    {members next last : List (String × Json)} (hkeep : keep? members (key, d.read) = some next)
    (hmore : (Written.jsonMembers WrittenNumber.read more).foldlM keep? next = some last) :
    (Written.jsonMembers WrittenNumber.read ((key, d) :: more)).foldlM keep? members = some last := by
  rw [Written.read] at hkeep
  rw [Written.jsonMembers, List.foldlM_cons, hkeep]
  exact hmore

theorem exists_writesMembers_of_readMembers {fuel size budget : Nat}
    (hvalue : Recognizes (budget - 1) (readValue size budget)) {members last : List (String × Json)}
    {cs rest : List Char}
    (h : readMembers (readMember size budget) fuel false members cs = .ok (last, rest)) :
    ∃ more, WritesMembers more cs rest
      ∧ depthMembers (Written.jsonMembers WrittenNumber.read more) ≤ budget - 1
      ∧ (Written.jsonMembers WrittenNumber.read more).foldlM keep? members = some last := by
  induction fuel generalizing members cs with
  | zero => cases h
  | succ fuel ih =>
      cases readMembers_eq_ok_iff.1 h with
      | done hnext =>
          cases nextKey_eq_ok_iff.1 hnext with
          | closed hcs => exact ⟨[], .close (gap_of_skipBlanks hcs), Nat.zero_le _, rfl⟩
      | @more _ _ _ _ _ key _ _ hnext hkey hmember hrest =>
          cases nextKey_eq_ok_iff.1 hnext with
          | later hcomma hquote =>
              obtain ⟨d, hwrites, hdepth, hkeep⟩ :=
                exists_writesMember_of_readMember hvalue hkey hmember
              obtain ⟨more, hmore, hdepths, hkeeps⟩ := ih hrest
              refine ⟨(key, d) :: more, .comma (gap_of_skipBlanks hcomma) (gap_of_skipBlanks hquote)
                hwrites hmore, Nat.max_le.2 ⟨hdepth, hdepths⟩, foldlM_keep?_cons hkeep hkeeps⟩

theorem exists_writes_of_readMembers {fuel size budget : Nat}
    (hvalue : Recognizes (budget - 1) (readValue size budget)) {members last : List (String × Json)}
    {cs rest : List Char}
    (h : readMembers (readMember size budget) fuel true members cs = .ok (last, rest)) :
    ∃ more, Writes (.object more) ('\x7b' :: cs) rest
      ∧ depthMembers (Written.jsonMembers WrittenNumber.read more) ≤ budget - 1
      ∧ (Written.jsonMembers WrittenNumber.read more).foldlM keep? members = some last := by
  cases fuel with
  | zero => cases h
  | succ fuel =>
      cases readMembers_eq_ok_iff.1 h with
      | done hnext =>
          cases nextKey_eq_ok_iff.1 hnext with
          | closed hcs => exact ⟨[], .emptyObject (gap_of_skipBlanks hcs), Nat.zero_le _, rfl⟩
      | @more _ _ _ _ _ key _ _ hnext hkey hmember hrest =>
          cases nextKey_eq_ok_iff.1 hnext with
          | first hquote =>
              obtain ⟨d, hwrites, hdepth, hkeep⟩ :=
                exists_writesMember_of_readMember hvalue hkey hmember
              obtain ⟨more, hmore, hdepths, hkeeps⟩ :=
                exists_writesMembers_of_readMembers hvalue hrest
              refine ⟨(key, d) :: more, .object (gap_of_skipBlanks hquote) hwrites hmore,
                Nat.max_le.2 ⟨hdepth, hdepths⟩, foldlM_keep?_cons hkeep hkeeps⟩

/-! ## Values -/

theorem recognizes_readValue (fuel budget : Nat) :
    Recognizes (budget - 1) (readValue fuel budget) := by
  induction fuel generalizing budget with
  | zero => exact fun _ _ _ h => nomatch h
  | succ fuel ih =>
      intro cs rest j h
      cases readValue_eq_ok_iff.1 h with
      | word hword hcs hrest =>
          have hgap := gap_of_skipBlanks hcs
          obtain rfl := readWord_eq_ok_iff.1 hrest
          simp only [words, List.mem_cons, Prod.mk.injEq, List.not_mem_nil, or_false] at hword
          rcases hword with ⟨rfl, rfl, rfl⟩ | ⟨rfl, rfl, rfl⟩ | ⟨rfl, rfl, rfl⟩
          · exact ⟨.null, _, hgap, .null, Nat.zero_le _, rfl⟩
          · exact ⟨.bool true, _, hgap, .true, Nat.zero_le _, rfl⟩
          · exact ⟨.bool false, _, hgap, .false, Nat.zero_le _, rfl⟩
      | @string _ _ s hcs hrest =>
          exact ⟨.string s, _, gap_of_skipBlanks hcs, .string (readString_eq_ok_iff.1 hrest),
            Nat.zero_le _, rfl⟩
      | number hcs hc hrest =>
          obtain ⟨p, hparts, hvalue⟩ := readNumber_eq_ok_iff.1 hrest
          obtain ⟨n, rfl, hchars⟩ := WrittenNumber.exists_of_readParts hparts
          refine ⟨.number n, _, gap_of_skipBlanks hcs, hchars ▸ .number, Nat.zero_le _, ?_⟩
          have hread : n.read.held? = some _ := n.held?_read.trans hvalue
          rw [Written.read, Written.json, held?_number, hread]
          rfl
      | array hbudget hcs hrest =>
          obtain ⟨items, hwrites, hdepth, hheld⟩ :=
            exists_writes_of_readItems (ih (budget - 1)) hrest
          refine ⟨.array items, _, gap_of_skipBlanks hcs, hwrites, ?_, ?_⟩
          · simp only [Written.read, Written.json, depth]
            omega
          · rw [Written.read, Written.json, held?_array, hheld]
            rfl
      | object hbudget hcs hrest =>
          obtain ⟨members, hwrites, hdepth, hheld⟩ :=
            exists_writes_of_readMembers (ih (budget - 1)) hrest
          refine ⟨.object members, _, gap_of_skipBlanks hcs, hwrites, ?_, ?_⟩
          · simp only [Written.read, Written.json, depth]
            omega
          · rw [Written.read, Written.json, held?_object, hheld]
            rfl

/-- **The reader reads the texts of the grammar**, and nothing else: of documents that are not too
deep, each as it is held, with the numbers that are read for its numerals. -/
theorem ofText_eq_ok_iff {text : String} {j : Json} :
    ofText text = .ok j
      ↔ ∃ d : Written, d.IsText text ∧ d.read.depth < nestingBudget ∧ d.read.held? = some j := by
  constructor
  · intro h
    obtain ⟨rest, hread, hend⟩ := readText_eq_ok_iff.1 h
    obtain ⟨d, start, hgap, hwrites, hdepth, hheld⟩ := recognizes_readValue _ _ hread
    have hempty : skipBlanks rest = [] := List.isEmpty_iff.1 hend
    exact ⟨d, ⟨start, rest, hgap, hwrites, gap_of_skipBlanks hempty⟩,
      Nat.lt_succ_of_le hdepth, hheld⟩
  · rintro ⟨d, htext, hdepth, hheld⟩
    have hfinite : d.read.IsFinite := by
      by_contra hinfinite
      rw [(givesWhen_held? d.read).eq_none hinfinite] at hheld
      cases hheld
    rw [(givesWhen_held? d.read).eq_some hfinite] at hheld
    obtain rfl := Option.some.inj hheld
    exact ofText_of_spells htext.spells hfinite hdepth

end RuleFilter.Json
