import RuleFilter.Proofs.Json.Locality
import RuleFilter.Proofs.Processor.Compile
import RuleFilter.Proofs.Processor.Selection
import RuleFilter.Proofs.Rule.Codec
import RuleFilter.Proofs.Rule.Step
import RuleFilter.Proofs.Value.Document

set_option autoImplicit false

/-! # A document is selected by its own value

One text can be put in the place of a value in two ways: as the reference of a rule, where it is
read into doubles and maps, and as a member of an element, where numbers keep their width. Where
the rule is accepted, both readings come from the same document (`RuleSet.read_ownRule`,
`Json.ofText_ownElement`), and the rule holds for the element
(`Processor.document_selected_by_own_value`). The text may be nested as deep as the rule allows,
which is less than what the element allows, and that what is read in one place is read in the other
is locality. -/

namespace RuleFilter

namespace Json

/-! ## Texts of values -/

/-- The text holds the one document, whatever its nesting. -/
def Holds (text : List Char) (d : Json) : Prop :=
  ∃ fuel budget rest, readValue fuel budget text = .ok (d, rest) ∧ atEnd rest = true

/-- Blanks at the end of a text are skipped where more follows. -/
theorem skipBlanks_of_atEnd {rest : List Char} (h : atEnd rest = true) (tail : List Char) :
    skipBlanks (rest ++ tail) = skipBlanks tail := by
  have hblank : rest.dropWhile isBlank = [] := List.isEmpty_iff.1 h
  rw [skipBlanks, List.dropWhile_append, hblank]
  rfl

/-- Where the text of a document is read behind the colon of a last member, the document is read
there, and it is read behind every other such colon that allows as much nesting. -/
theorem Holds.read_member {text tail after : List Char} {d j : Json} {fuel budget : Nat}
    (h : Holds text d) (hread : readValue fuel budget (text ++ '\x7d' :: tail) = .ok (j, after))
    (hafter : Stops after) :
    j = d ∧ ∃ rest, after = rest ++ '\x7d' :: tail ∧ atEnd rest = true
      ∧ ∀ fuel' budget' tail', text.length ≤ fuel' → budget ≤ budget' →
          readValue fuel' budget' (text ++ '\x7d' :: tail') = .ok (d, rest ++ '\x7d' :: tail') := by
  obtain ⟨fuel', budget', rest, hread', hend⟩ := h
  have hstops : ∀ tail', Stops (rest ++ '\x7d' :: tail') := fun tail' =>
    stops_of_skipBlanks (skipBlanks_of_atEnd hend _) (Or.inr (Or.inr rfl))
  obtain ⟨taken, rfl, htaken⟩ := exists_taken_of_readValue hread'
  obtain ⟨taken', htext, htaken'⟩ := exists_taken_of_readValue hread
  -- both readings are compared with fuel and nesting enough for either
  have hwhole := htaken (max taken.length taken'.length) (max budget budget')
    (rest ++ '\x7d' :: tail) (Nat.le_max_left _ _) (Nat.le_max_right _ _) (hstops tail)
  have hmember := htaken' (max taken.length taken'.length) (max budget budget') after
    (Nat.le_max_right _ _) (Nat.le_max_left _ _) hafter
  rw [List.append_assoc] at htext
  rw [← htext, hwhole] at hmember
  cases hmember
  obtain rfl := List.append_cancel_right htext
  refine ⟨rfl, rest, rfl, hend, fun fuel'' budget'' tail' hfuel hbudget => ?_⟩
  rw [List.length_append] at hfuel
  rw [List.append_assoc]
  exact htaken' fuel'' budget'' _ (by omega) hbudget (hstops tail')

/-! ## Steps that are known -/

theorem exists_of_readItems {α : Type} {item : List Char → Except Fault (WithRest α)} {fuel : Nat}
    {first : Bool} {cs start rest : List Char} {xs : List α}
    (hnext : nextItem first cs = .ok (some start))
    (h : readItems item (fuel + 1) first cs = .ok (xs, rest)) :
    ∃ x after others, item start = .ok (x, after)
      ∧ readItems item fuel false after = .ok (others, rest) ∧ xs = x :: others := by
  cases readItems_eq_ok_iff.1 h with
  | done hnone => cases hnext.symm.trans hnone
  | more hnext' hitem hrest =>
      cases hnext.symm.trans hnext'
      exact ⟨_, _, _, hitem, hrest, rfl⟩

theorem exists_of_readMembers {σ : Type}
    {member : σ → String → List Char → Except Fault (WithRest σ)} {fuel : Nat} {first : Bool}
    {state last : σ} {cs start passed behind rest : List Char} {key : String}
    (hnext : nextKey first cs = .ok (some start, passed))
    (hkey : readString start = .ok (key, behind))
    (h : readMembers member (fuel + 1) first state cs = .ok (last, rest)) :
    ∃ next after, member state key behind = .ok (next, after)
      ∧ readMembers member fuel false next after = .ok (last, rest) := by
  cases readMembers_eq_ok_iff.1 h with
  | done hnone => cases hnext.symm.trans hnone
  | more hnext' hkey' hmember hrest =>
      cases hnext.symm.trans hnext'
      cases hkey.symm.trans hkey'
      exact ⟨_, _, hmember, hrest⟩

/-- Where an object goes on or closes, no numeral is prolonged. -/
theorem stops_of_readMembers {σ : Type}
    {member : σ → String → List Char → Except Fault (WithRest σ)} {fuel : Nat} {state last : σ}
    {cs rest : List Char} (h : readMembers member fuel false state cs = .ok (last, rest)) :
    Stops cs := by
  cases fuel with
  | zero => cases h
  | succ fuel =>
      cases readMembers_eq_ok_iff.1 h with
      | done hnext =>
          cases nextKey_eq_ok_iff.1 hnext with
          | closed hcs => exact stops_of_skipBlanks hcs (Or.inr (Or.inr rfl))
      | more hnext =>
          cases nextKey_eq_ok_iff.1 hnext with
          | later hcs => exact stops_of_skipBlanks hcs (Or.inl rfl)

end Json

/-! ## The rule of a value -/

/-- The text of the one rule that the member `x` equals a value. -/
def RuleSet.ownRuleText (value : String) : String :=
  "[[\x7b\"field\":\"x\",\"type\":\"==\",\"value\":" ++ value ++ "\x7d]]"

/-- The members of that rule up to the value, in front of a text. -/
def RuleSet.ownRuleStart (tail : List Char) : List Char :=
  Json.stringText "field" ++ ':' :: (Json.stringText "x" ++ ',' ::
    (Json.stringText "type" ++ ':' :: (Json.stringText "==" ++ ',' ::
      (Json.stringText "value" ++ ':' :: tail))))

theorem toList_append_append (start value stop : String) :
    (start ++ value ++ stop).toList = start.toList ++ (value.toList ++ stop.toList) := by
  rw [String.toList_append, String.toList_append, List.append_assoc]

theorem RuleSet.toList_ownRuleText (value : String) :
    (ownRuleText value).toList
      = '[' :: '[' :: '\x7b' :: ownRuleStart (value.toList ++ ['\x7d', ']', ']']) := by
  have hstart : ∀ tail, "[[\x7b\"field\":\"x\",\"type\":\"==\",\"value\":".toList ++ tail
      = '[' :: '[' :: '\x7b' :: ownRuleStart tail := by
    intro tail
    rw [ownRuleStart]
    rfl
  exact (toList_append_append _ value _).trans (hstart _)

theorem RuleDraft.exists_of_readMember_value {fuel budget : Nat} {draft next : RuleDraft}
    {cs rest : List Char}
    (h : draft.readMember fuel budget "value" (':' :: cs) = .ok (next, rest)) :
    ∃ r, OrderedReference.read fuel budget cs = .ok (r, rest)
      ∧ next = { draft with value := some r } := by
  cases RuleDraft.readMember_eq_ok_iff.1 h with
  | value _ _ hcolon hread =>
      cases (Json.readColon_colon cs).symm.trans hcolon
      exact ⟨_, hread, rfl⟩
  | field hkey => exact absurd hkey (by decide)
  | tag hkey => exact absurd hkey (by decide)
  | unknown hkey => exact absurd hkey (by decide)

theorem Rule.read_ownRule {fuel : Nat} {value tail after : List Char} {d : Json} {rule : Rule}
    (hvalue : Json.Holds value d)
    (h : Rule.read (fuel + 4) 126 ('\x7b' :: RuleSet.ownRuleStart (value ++ '\x7d' :: tail))
      = .ok (rule, after)) :
    rule = ⟨"x", "==", .ofJson d⟩ ∧ after = tail
      ∧ ∃ rest, Json.atEnd rest = true ∧ ∀ fuel' budget' tail', value.length ≤ fuel' →
          125 ≤ budget' → Json.readValue fuel' budget' (value ++ '\x7d' :: tail')
            = .ok (d, rest ++ '\x7d' :: tail') := by
  have hfield : ∀ cs, RuleDraft.readMember (fuel + 4) 125 ⟨none, none, none⟩ "field"
      (':' :: (Json.stringText "x" ++ ',' :: cs)) = .ok (⟨some "x", none, none⟩, ',' :: cs) :=
    fun cs => RuleDraft.readMember_eq_ok_iff.2
      (.field rfl rfl (Json.readColon_colon _)
        (Json.reads_readText? "x" _ (Json.endsValue_comma cs)))
  have htag : ∀ cs, RuleDraft.readMember (fuel + 4) 125 ⟨some "x", none, none⟩ "type"
      (':' :: (Json.stringText "==" ++ ',' :: cs)) = .ok (⟨some "x", some "==", none⟩, ',' :: cs) :=
    fun cs => RuleDraft.readMember_eq_ok_iff.2
      (.tag rfl rfl (Json.readColon_colon _)
        (Json.reads_readText? "==" _ (Json.endsValue_comma cs)))
  cases Rule.read_eq_ok_iff.1 h with
  | parts _ hcs => cases hcs
  | members _ hcs hmembers =>
      cases hcs
      obtain ⟨_, _, hmember, hmembers⟩ := Json.exists_of_readMembers (Json.nextKey_stringText _ _)
        (Json.readString_flatMap_escape _ _) hmembers
      cases (hfield _).symm.trans hmember
      obtain ⟨_, _, hmember, hmembers⟩ := Json.exists_of_readMembers
        (Json.nextKey_comma_stringText _ _) (Json.readString_flatMap_escape _ _) hmembers
      cases (htag _).symm.trans hmember
      obtain ⟨_, _, hmember, hmembers⟩ := Json.exists_of_readMembers
        (Json.nextKey_comma_stringText _ _) (Json.readString_flatMap_escape _ _) hmembers
      obtain ⟨r, hread, rfl⟩ := RuleDraft.exists_of_readMember_value hmember
      obtain ⟨j, hreadValue, rfl⟩ := OrderedReference.read_eq_ok_iff.1 hread
      obtain ⟨rfl, rest, rfl, hrest, hlocal⟩ :=
        hvalue.read_member hreadValue (Json.stops_of_readMembers hmembers)
      have hclosed : Json.nextKey false (rest ++ '\x7d' :: tail) = .ok (none, tail) :=
        Json.nextKey_eq_ok_iff.2 (.closed (Json.skipBlanks_of_atEnd hrest _))
      cases Json.readMembers_eq_ok_iff.1 hmembers with
      | done hnext =>
          cases hclosed.symm.trans hnext
          exact ⟨rfl, rfl, rest, hrest, hlocal⟩
      | more hnext => cases hclosed.symm.trans hnext

/-- The rule is that of the document the text holds, which is nested no deeper than the rule
allows. -/
theorem RuleSet.read_ownRule {value : String} {d : Json} {rules : RuleSet}
    (hvalue : Json.Holds value.toList d) (h : RuleSet.ofText (ownRuleText value) = .ok rules) :
    rules = [[⟨"x", "==", .ofJson d⟩]]
      ∧ ∃ rest, Json.atEnd rest = true ∧ ∀ fuel' budget' tail', value.toList.length ≤ fuel' →
          125 ≤ budget' → Json.readValue fuel' budget' (value.toList ++ '\x7d' :: tail')
            = .ok (d, rest ++ '\x7d' :: tail') := by
  obtain ⟨_, hread, -⟩ := ofText_eq_ok_iff.1 h
  obtain ⟨fuel, hfuel⟩ : ∃ fuel, (ownRuleText value).length + 1 = fuel + 4 := by
    have hlength := congrArg List.length (toList_ownRuleText value)
    simp only [String.length_toList, List.length_cons] at hlength
    exact ⟨(ownRuleText value).length - 3, by omega⟩
  have hbracket : ∀ cs, Json.nextItem true ('[' :: cs) = .ok (some ('[' :: cs)) := fun cs =>
    Json.nextItem_of_startsValue ⟨'[', cs, rfl, rfl, by decide⟩
  have hbrace : ∀ cs, Json.nextItem true ('\x7b' :: cs) = .ok (some ('\x7b' :: cs)) := fun cs =>
    Json.nextItem_of_startsValue ⟨'\x7b', cs, rfl, rfl, by decide⟩
  rw [toList_ownRuleText, hfuel] at hread
  obtain ⟨-, _, hcs, hgroups⟩ := Json.readArray_eq_ok_iff.1 hread
  cases hcs
  obtain ⟨group, _, groups, hgroup, hgroups, rfl⟩ := Json.exists_of_readItems (hbracket _) hgroups
  obtain ⟨-, _, hcs, hrules⟩ := Json.readArray_eq_ok_iff.1 hgroup
  cases hcs
  obtain ⟨rule, _, others, hrule, hrules, rfl⟩ := Json.exists_of_readItems (hbrace _) hrules
  obtain ⟨rfl, rfl, hlocal⟩ := Rule.read_ownRule hvalue hrule
  cases hrules
  cases hgroups
  exact ⟨rfl, hlocal⟩

/-! ## The element of a value -/

/-- The text of the one element whose member `x` is a value. -/
def Json.ownElementText (value : String) : String := "[\x7b\"x\":" ++ value ++ "\x7d]"

theorem Json.toList_ownElementText (value : String) :
    (ownElementText value).toList
      = '[' :: '\x7b' :: (stringText "x" ++ ':' :: (value.toList ++ ['\x7d', ']'])) :=
  (toList_append_append _ value _).trans rfl

/-- The element is an object with the document. -/
theorem Json.ofText_ownElement {value : String} {d : Json} {rest : List Char}
    (hrest : atEnd rest = true)
    (hread : ∀ fuel tail, value.toList.length ≤ fuel →
      readValue fuel 126 (value.toList ++ '\x7d' :: tail) = .ok (d, rest ++ '\x7d' :: tail)) :
    ofText (ownElementText value) = .ok (.array [.object [("x", d)]]) := by
  obtain ⟨fuel, hfuel, hvalue⟩ : ∃ fuel, (ownElementText value).length + 1 = fuel + 4
      ∧ value.toList.length ≤ fuel := by
    have hlength := congrArg List.length (toList_ownElementText value)
    simp only [String.length_toList, List.length_cons, List.length_append] at hlength
    refine ⟨(ownElementText value).length - 3, by omega, ?_⟩
    rw [String.length_toList]
    omega
  have hmember : readMember (fuel + 2) 126 [] "x" (':' :: (value.toList ++ ['\x7d', ']']))
      = .ok ([("x", d)], rest ++ ['\x7d', ']']) :=
    readMember_eq_ok_iff.2 ⟨_, d, readColon_colon _, hread _ _ (by omega), rfl⟩
  have hclosed : readMembers (readMember (fuel + 2) 126) (fuel + 1) false [("x", d)]
      (rest ++ ['\x7d', ']']) = .ok ([("x", d)], [']']) :=
    readMembers_eq_ok_iff.2 (.done (nextKey_eq_ok_iff.2 (.closed (skipBlanks_of_atEnd hrest _))))
  have hobject : readValue (fuel + 3) 127
      ('\x7b' :: (stringText "x" ++ ':' :: (value.toList ++ ['\x7d', ']'])))
        = .ok (.object [("x", d)], [']']) :=
    readValue_eq_ok_iff.2 (.object (by decide) rfl (readMembers_eq_ok_iff.2
      (.more (nextKey_stringText _ _) (readString_flatMap_escape _ _) hmember hclosed)))
  have harray : readValue (fuel + 4) nestingBudget (ownElementText value).toList
      = .ok (.array [.object [("x", d)]], []) := by
    rw [toList_ownElementText]
    exact readValue_eq_ok_iff.2 (.array (by decide) rfl (readItems_eq_ok_iff.2
      (.more (nextItem_of_startsValue ⟨'\x7b', _, rfl, rfl, by decide⟩) hobject rfl)))
  rw [← hfuel] at harray
  exact readText_eq_ok_iff.2 ⟨[], harray, rfl⟩

/-! ## Selecting -/

namespace Processor

/-- The rule that a member equals a reference keeps the one element whose member does. -/
theorem apply_ownRule {d : Json} {r : OrderedReference} (h : d.toValue.equals r = true) :
    Processor.initial.applyJson [[⟨"x", "==", r⟩]] (.array [.object [("x", d)]])
      = ⟨.array [.object [("x", d)]], .ok ⟨1, 1⟩⟩ := by
  obtain ⟨m, hgroups⟩ : ∃ m : Matcher, m = ⟨[[⟨⟨"x"⟩, .equal r.reference⟩]], none⟩ := ⟨_, rfl⟩
  have hm : Processor.initial.compile [[⟨"x", "==", r⟩]] = .ok m := by
    have htag : OperatorTag.ofText? "==" = some ⟨false, .equal⟩ := by decide
    have hrule : Condition.ofRule ⟨"x", "==", r⟩ = .ok ⟨⟨"x"⟩, .equal r.reference⟩ := by
      simp only [Condition.ofRule, Predicate.ofTag, htag]
      rfl
    have hcount : 1 ≤ Processor.initial.settings.maxRules.toNat := by decide
    subst hgroups
    exact compile_eq_ok_iff.2 ⟨hcount, .cons (.cons hrule .nil) .nil, rfl⟩
  have haccepts : m.accepts (Candidate.value (Json.object [("x", d)])) = .ok true := by
    have hresolve : FieldPath.resolve ⟨"x"⟩ none (Candidate.value (Json.object [("x", d)]))
        = .ok (some d.toValue) := by rfl
    have hholds : Condition.holds ⟨⟨"x"⟩, .equal r.reference⟩ none
        (Candidate.value (Json.object [("x", d)]))
        = .ok true := by
      rw [Condition.holds, hresolve]
      exact congrArg Except.ok h
    subst hgroups
    simp only [Matcher.accepts, Matcher.allHold, Matcher.anyHolds, hholds]
  have hdecides : m.Decides [Json.object [("x", d)]] := by
    rintro x (_ | ⟨_, ⟨⟩⟩)
    exact ⟨true, haccepts⟩
  have hmatching : m.matching [Json.object [("x", d)]] = [Json.object [("x", d)]] := by
    rw [Matcher.matching, List.filter_cons_of_pos (Matcher.isMatch_eq haccepts), List.filter_nil]
  rw [applyJson, onItems, apply_eq_of_decides hm (Nat.one_lt_two_pow (by decide)) hdecides,
    hmatching]
  rfl

/-- **A document is selected by its own value.** The rule that the member `x` equals a value, where
its text is accepted, keeps the element whose member `x` is read from the same text. -/
theorem document_selected_by_own_value {value : String} {d : Json} {rules : RuleSet}
    (hvalue : Json.Holds value.toList d)
    (hrules : RuleSet.ofText (RuleSet.ownRuleText value) = .ok rules) :
    let element : Json := .object [("x", d)]
    rules = [[⟨"x", "==", .ofJson d⟩]]
      ∧ Json.ofText (Json.ownElementText value) = .ok (.array [element])
      ∧ d.toValue.equals (.ofJson d) = true
      ∧ Processor.initial.applyJson rules (.array [element]) = ⟨.array [element], .ok ⟨1, 1⟩⟩ := by
  intro element
  obtain ⟨rfl, rest, hrest, hread⟩ := RuleSet.read_ownRule hvalue hrules
  have hequals : d.toValue.equals (.ofJson d) = true := by
    obtain ⟨_, _, _, hreadValue, -⟩ := hvalue
    have hsettled := Json.settled_of_readValue hreadValue
    exact Value.equals_ofJson hsettled.finite hsettled.ordered
  have helement : Json.ofText (Json.ownElementText value) = .ok (.array [element]) :=
    Json.ofText_ownElement hrest fun fuel tail hfuel => hread fuel 126 tail hfuel (by decide)
  exact ⟨rfl, helement, hequals, apply_ownRule hequals⟩

/-- An integer beyond 64 bits, one that no double holds, minus zero, null and a key given twice. -/
theorem document_selected_by_own_value_with_large_integers :
    let value :=
      " \x7b\"b\":[], \"a\":-0, \"b\":[null, 9007199254740993, 18446744073709551617]\x7d "
    ∃ (d : Json) (rules : RuleSet), Json.Holds value.toList d
      ∧ RuleSet.ofText (RuleSet.ownRuleText value) = .ok rules
      ∧ Json.ofText (Json.ownElementText value) = .ok (.array [.object [("x", d)]])
      ∧ Processor.initial.applyJson rules (.array [.object [("x", d)]])
        = ⟨.array [.object [("x", d)]], .ok ⟨1, 1⟩⟩ := by
  intro value
  have hvalue : (Json.ofText value).toOption.isSome = true := by decide +kernel
  have hrules : (RuleSet.ofText (RuleSet.ownRuleText value)).toOption.isSome = true := by
    decide +kernel
  cases hd : Json.ofText value with
  | error fault =>
      rw [hd] at hvalue
      cases hvalue
  | ok d =>
      cases hr : RuleSet.ofText (RuleSet.ownRuleText value) with
      | error e =>
          rw [hr] at hrules
          cases hrules
      | ok rules =>
          obtain ⟨rest, hread, hend⟩ := Json.readText_eq_ok_iff.1 hd
          have hholds : Json.Holds value.toList d := ⟨_, _, rest, hread, hend⟩
          obtain ⟨-, helement, -, happly⟩ := document_selected_by_own_value hholds hr
          exact ⟨d, rules, hholds, rfl, helement, happly⟩

end Processor

end RuleFilter
