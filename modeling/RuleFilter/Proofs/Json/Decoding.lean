import RuleFilter.Proofs.Json.Spelling

set_option autoImplicit false

/-! # Decoding what a text spells

A reader `Decodes` a text as a function of documents says when it gives that function's value, or
fails where the function has none. An array is decoded by decoding its items one after the other
(`decodes_readItems`), an object by taking its members one after the other (`decodes_readMembers`),
whatever text spells it. Nothing else about a text matters then, and what a reader accepts is said
of documents. -/

namespace RuleFilter.Json

/-! ## Results -/

/-- The value is read, with what is left behind it; where there is none, reading fails. -/
def Decodes {α : Type} (result : Except Fault (WithRest α)) (x : Option α) (rest : List Char) :
    Prop :=
  match x with
  | some x => result = .ok (x, rest)
  | none => ∃ f, result = .error f

theorem Decodes.of_error {α : Type} {result : Except Fault (WithRest α)} {f : Fault}
    (h : result = .error f) (rest : List Char) : Decodes result none rest :=
  ⟨f, h⟩

theorem Decodes.map {α β : Type} {result : Except Fault (WithRest α)} {x : Option α}
    {rest : List Char} (h : Decodes result x rest) (f : α → β) :
    Decodes (result.map fun (a, rest) => (f a, rest)) (x.map f) rest := by
  cases x with
  | none =>
      obtain ⟨fault, rfl⟩ := h
      exact .of_error rfl rest
  | some a =>
      obtain rfl : result = .ok (a, rest) := h
      rfl

theorem Decodes.of_bind_ok {α β : Type} {result : Except Fault β} {b : β}
    {next : β → Except Fault (WithRest α)} {x : Option α} {rest : List Char} (h : result = .ok b)
    (hnext : Decodes (next b) x rest) : Decodes (result >>= next) x rest := by
  subst h
  exact hnext

/-- What is read after a value is decoded from there. -/
theorem Decodes.bind {α β : Type} {result : Except Fault (WithRest α)} {x : Option α}
    {next : WithRest α → Except Fault (WithRest β)} {f : α → Option β} {after rest : List Char}
    (h : Decodes result x after) (hnext : ∀ a, Decodes (next (a, after)) (f a) rest) :
    Decodes (result >>= next) (x.bind f) rest := by
  cases x with
  | none =>
      obtain ⟨fault, rfl⟩ := h
      exact .of_error rfl rest
  | some a =>
      obtain rfl : result = .ok (a, after) := h
      exact hnext a

/-! ## Items and members -/

/-- Whatever text spells the document, as long as it takes no more characters than the size, it is
decoded by the reader. -/
def DecodesAll {α : Type} (size : Nat) (item : List Char → Except Fault (WithRest α)) (j : Json)
    (x : Option α) : Prop :=
  ∀ ⦃cs rest : List Char⦄, Spelled j cs rest → cs.length ≤ size + rest.length →
    Decodes (item cs) x rest

theorem decodes_readItems {α : Type} {item : List Char → Except Fault (WithRest α)}
    {f : Json → Option α} (size : Nat) {fuel : Nat} {items : List Json} {first : Bool}
    {cs rest : List Char}
    (hitem : ∀ j ∈ items, DecodesAll size item j (f j)) (h : SpelledItems items first cs rest)
    (hsize : cs.length ≤ size + rest.length) (hfuel : cs.length ≤ fuel + rest.length) :
    Decodes (readItems item fuel first cs) (items.mapM f) rest := by
  -- each turn takes a character, so fuel for one turn is left at every item
  obtain ⟨fuel, rfl⟩ : ∃ k, fuel = k + 1 := ⟨fuel - 1, by have := h.length_lt; omega⟩
  induction items generalizing fuel first cs with
  | nil =>
      obtain ⟨hnext, hclose⟩ := h
      exact readItems_eq_ok_iff.2 (.done hnext hclose)
  | cons j items ih =>
      obtain ⟨start, after, hnext, hspelled, hspelledItems⟩ := h
      have hstart := length_le_of_nextItem hnext
      have hafter := hspelled.length_lt
      have hpos := hspelledItems.length_lt
      obtain ⟨fuel, rfl⟩ : ∃ k, fuel = k + 1 := ⟨fuel - 1, by omega⟩
      have hhead := hitem j List.mem_cons_self hspelled (by omega)
      have htail := ih (fun j hj => hitem j (List.mem_cons_of_mem _ hj)) hspelledItems
        (by omega) fuel (by omega)
      rw [readItems, hnext, List.mapM_cons]
      exact hhead.bind fun x => htail.bind fun xs => rfl

theorem decodes_readMembers {σ : Type} {member : σ → String → List Char → Except Fault (WithRest σ)}
    {take : σ → String × Json → Option σ} (size : Nat) {fuel : Nat} {members : List (String × Json)}
    {first : Bool} {state : σ} {cs rest : List Char}
    (hmember : ∀ e ∈ members, ∀ state behind colon after, readColon behind = .ok colon →
      Spelled e.2 colon after → colon.length ≤ size + after.length →
        Decodes (member state e.1 behind) (take state e) after)
    (h : SpelledMembers members first cs rest) (hsize : cs.length ≤ size + rest.length)
    (hfuel : cs.length ≤ fuel + rest.length) :
    Decodes (readMembers member fuel first state cs) (members.foldlM take state) rest := by
  obtain ⟨fuel, rfl⟩ : ∃ k, fuel = k + 1 := ⟨fuel - 1, by have := h.length_lt; omega⟩
  induction members generalizing fuel first state cs with
  | nil => exact readMembers_eq_ok_iff.2 (.done h)
  | cons e members ih =>
      obtain ⟨start, passed, behind, colon, after, hnext, hkey, hcolon, hspelled, hmembers⟩ := h
      have hstart := length_lt_of_nextKey hnext
      have hbehind := length_le_of_readString hkey
      have hcolon' := length_le_of_readColon hcolon
      have hafter := hspelled.length_lt
      have hpos := hmembers.length_lt
      obtain ⟨fuel, rfl⟩ : ∃ k, fuel = k + 1 := ⟨fuel - 1, by omega⟩
      have hhead := hmember e List.mem_cons_self state behind colon after hcolon hspelled (by omega)
      rw [readMembers, hnext, List.foldlM_cons]
      simp only [bind, Except.bind, hkey]
      exact hhead.bind fun next => ih (fun e he => hmember e (List.mem_cons_of_mem _ he)) hmembers
        (by omega) fuel (by omega)

/-! ## Values -/

theorem decodes_readNumber {cs rest : List Char} {p : NumeralParts}
    (h : readParts cs = .ok (p, rest)) : Decodes (readNumber cs) p.toNumber? rest := by
  cases hn : p.toNumber? with
  | some n => exact readNumber_eq_ok_iff.2 ⟨p, h, hn⟩
  | none =>
      have herror : readNumber cs = .error .malformed := by
        rw [readNumber, h]
        simp only [bind, Except.bind, hn]
        rfl
      exact .of_error herror rest

/-- On every text that spells it, a document is read as it is held. -/
theorem decodes_readValue {j : Json} {fuel budget : Nat} {cs rest : List Char}
    (h : Spelled j cs rest) (hdepth : j.depth < budget) (hfuel : cs.length ≤ fuel + rest.length) :
    Decodes (readValue fuel budget cs) j.held? rest := by
  induction fuel generalizing j budget cs rest with
  | zero =>
      have hpos := h.length_lt
      omega
  | succ fuel ih =>
      match j with
      | null | bool true | bool false =>
          rw [readValue, show skipBlanks cs = _ from h]
          rfl
      | number n =>
          obtain ⟨p, hparts, hvalue⟩ := h
          obtain ⟨c, after, hcs, hc⟩ := exists_cons_of_readParts hparts
          rw [held?_number, ← hvalue, readValue_of_startsNumeral fuel budget hcs hc]
          exact (decodes_readNumber (hcs ▸ hparts)).map number
      | string s =>
          obtain ⟨after, hcs, hread⟩ := h
          exact readValue_eq_ok_iff.2 (.string hcs hread)
      | array items =>
          obtain ⟨after, hcs, hitems⟩ := h
          have hlength := length_lt_of_skipBlanks hcs
          simp only [depth] at hdepth
          have hread : Decodes (readItems (readValue fuel (budget - 1)) fuel true after)
              (items.mapM held?) rest := by
            refine decodes_readItems fuel (fun j hj cs rest hspelled hsize => ?_) hitems
              (by omega) (by omega)
            have hj := depthItems_le_iff.1 (Nat.le_refl _) j hj
            exact ih hspelled (by omega) (by omega)
          rw [held?_array, readValue, hcs]
          simp only [if_neg (show ¬ budget ≤ 1 by omega)]
          exact hread.map array
      | object members =>
          obtain ⟨after, hcs, hmembers⟩ := h
          have hlength := length_lt_of_skipBlanks hcs
          simp only [depth] at hdepth
          have hread : Decodes (readMembers (readMember fuel (budget - 1)) fuel true [] after)
              (members.foldlM keep? []) rest := by
            refine decodes_readMembers fuel
              (fun e he state behind colon after hcolon hspelled hsize => ?_) hmembers
              (by omega) (by omega)
            have he := depthMembers_le_iff.1 (Nat.le_refl _) e he
            exact .of_bind_ok hcolon ((ih hspelled (by omega) (by omega)).map _)
          rw [held?_object, readValue, hcs]
          simp only [if_neg (show ¬ budget ≤ 1 by omega)]
          exact hread.map object

/-- A document of finite numbers that is not too deep is read from every text that spells it. -/
theorem ofText_of_spells {text : String} {j : Json} (h : Spells text j) (hfinite : j.IsFinite)
    (hdepth : j.depth < nestingBudget) : ofText text = .ok j.held := by
  obtain ⟨rest, hspelled, hend⟩ := h
  have hfuel : text.toList.length ≤ text.length + 1 + rest.length := by
    rw [String.length_toList]
    omega
  have hread := decodes_readValue hspelled hdepth hfuel
  rw [(givesWhen_held? j).eq_some hfinite] at hread
  exact readText_eq_ok_iff.2 ⟨rest, hread, hend⟩

end RuleFilter.Json
