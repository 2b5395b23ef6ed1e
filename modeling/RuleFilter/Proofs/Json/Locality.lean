import RuleFilter.Proofs.Json.Compound
import RuleFilter.Proofs.Json.Step

set_option autoImplicit false

/-! # Readers look at what they take

What a reader takes off the front of a text, it takes in the same way in front of any other text:
fuel for as many turns as characters are taken is enough, and more nesting may be allowed
(`exists_taken_of_readValue`). What follows must only not prolong a numeral (`Stops`), which is the
one value whose end is not part of it. -/

namespace RuleFilter.Json

open Numeral

/-! ## What stops a numeral -/

/-- No numeral goes on with what follows. -/
def Stops (tail : List Char) : Prop :=
  ∀ c ∈ tail.head?, c.isDigit = false ∧ c ≠ '.' ∧ c ≠ 'e' ∧ c ≠ 'E'

theorem Stops.noDigitNext {tail : List Char} (h : Stops tail) : NoDigitNext tail :=
  fun c hc => (h c hc).1

/-- Blanks and the marks between values stop a numeral. -/
theorem stops_of_skipBlanks {cs after : List Char} {c : Char} (h : skipBlanks cs = c :: after)
    (hc : c = ',' ∨ c = ']' ∨ c = '\x7d') : Stops cs := by
  cases cs with
  | nil => exact fun _ h => nomatch h
  | cons c' cs =>
      rintro _ ⟨⟩
      by_cases hblank : isBlank c' = true
      · simp only [isBlank, Bool.or_eq_true, decide_eq_true_eq] at hblank
        rcases hblank with ((rfl | rfl) | rfl) | rfl <;> decide
      · rw [skipBlanks_cons (Bool.eq_false_iff.2 hblank)] at h
        cases h
        rcases hc with rfl | rfl | rfl <;> decide

/-! ## Blanks, words and strings -/

/-- Blanks are skipped whatever follows the first character that is none. -/
theorem exists_of_skipBlanks {cs after : List Char} {c : Char} (h : skipBlanks cs = c :: after) :
    ∃ blanks, cs = blanks ++ c :: after ∧ ∀ tail, skipBlanks (blanks ++ c :: tail) = c :: tail := by
  have hsplit : cs.takeWhile isBlank ++ cs.dropWhile isBlank = cs := List.takeWhile_append_dropWhile
  have hc : isBlank c = false := by
    have hstop := List.head?_dropWhile_not isBlank cs
    rw [← skipBlanks, h] at hstop
    exact hstop
  refine ⟨cs.takeWhile isBlank, ?_, fun tail => ?_⟩
  · rw [← h]
    exact hsplit.symm
  · rw [skipBlanks, List.dropWhile_append_of_pos fun _ hb => List.mem_takeWhile_imp hb]
    exact skipBlanks_cons hc tail

theorem readWord_eq_ok_iff {letters cs rest : List Char} :
    readWord letters cs = .ok rest ↔ cs = letters ++ rest := by
  induction letters generalizing cs with
  | nil => simp [readWord]
  | cons w ws ih =>
      cases cs with
      | nil => simp [readWord]
      | cons c cs =>
          rw [readWord, List.cons_append, List.cons.injEq, ← ih]
          split
          · next hc => simp [hc]
          · next hc => simp [hc]

/-- How many digits of a numeric escape are still to come. -/
def StringState.missing : StringState → Nat
  | numeric _ missing _ => missing
  | _ => 0

theorem hasFourBytes_of_length {cs : List Char} (h : 4 ≤ cs.length) : hasFourBytes cs = true := by
  obtain ⟨a, b, c, d, cs, rfl⟩ : ∃ a b c d cs', cs = a :: b :: c :: d :: cs' := by
    match cs, h with
    | a :: b :: c :: d :: cs, _ => exact ⟨a, b, c, d, cs, rfl⟩
  exact hasFourBytes_cons a b c d cs

/-- The check for a numeric escape looks further than one character, at what will be taken. -/
theorem StringStep.change {skipping : Bool} {c : Char} {cs cs' : List Char}
    {state state' : StringState} {read read' : List Char}
    (h : StringStep skipping c cs state read state' read') (hcs' : state'.missing ≤ cs'.length) :
    StringStep skipping c cs' state read state' read' := by
  cases h with
  | plain hquote hbackslash hcontrol => exact .plain hquote hbackslash hcontrol
  | backslash hc => exact .backslash hc
  | letter hc he => exact .letter hc he
  | numeric hc => exact .numeric hc (hasFourBytes_of_length hcs')
  | digit hd hmissing => exact .digit hd hmissing
  | skipped hd hskipping => exact .skipped hd hskipping
  | high hd hskipping hlow hhigh => exact .high hd hskipping hlow hhigh
  | whole hd hskipping hlow hhigh => exact .whole hd hskipping hlow hhigh
  | pair hd hlow => exact .pair hd hlow
  | partnerBackslash hc => exact .partnerBackslash hc
  | partnerLetter hc => exact .partnerLetter hc (hasFourBytes_of_length hcs')

theorem StringStep.missing_le {skipping : Bool} {c : Char} {cs : List Char}
    {state state' : StringState} {read read' : List Char}
    (h : StringStep skipping c cs state read state' read') :
    state.missing ≤ state'.missing + 1 := by
  cases h with
  | digit => simp only [StringState.missing]; omega
  | _ => simp [StringState.missing]

theorem exists_taken_of_readStringFrom {skipping : Bool} {state : StringState}
    {read cs rest : List Char} {s : String}
    (h : readStringFrom skipping state read cs = .ok (s, rest)) :
    ∃ taken, cs = taken ++ rest ∧ state.missing ≤ taken.length
      ∧ ∀ tail, readStringFrom skipping state read (taken ++ tail) = .ok (s, tail) := by
  induction cs generalizing state read with
  | nil => cases state <;> cases h
  | cons c cs ih =>
      rcases readStringFrom_eq_ok_iff.1 h with ⟨rfl, rfl, rfl, rfl⟩ | ⟨state', read', hstep, h⟩
      · exact ⟨['"'], rfl, Nat.zero_le _, fun tail => rfl⟩
      · obtain ⟨taken, rfl, hmissing, htaken⟩ := ih h
        refine ⟨c :: taken, rfl, ?_, fun tail => ?_⟩
        · exact Nat.le_trans hstep.missing_le (Nat.succ_le_succ hmissing)
        · have hlength : state'.missing ≤ (taken ++ tail).length := by
            rw [List.length_append]
            omega
          exact readStringFrom_eq_ok_iff.2
            (Or.inr ⟨state', read', hstep.change hlength, htaken tail⟩)

/-! ## Numerals -/

theorem exists_taken_of_readPower {cs rest : List Char} {power : Option Int}
    (h : readPower cs = .ok (power, rest)) :
    ∃ taken, cs = taken ++ rest ∧ ∀ tail, Stops tail →
      readPower (taken ++ tail) = .ok (power, tail) ∧ EndsFraction (taken ++ tail) := by
  cases readPower_eq_ok_iff.1 h with
  | none =>
      refine ⟨[], rfl, fun tail htail => ⟨?_, ⟨htail.noDigitNext, fun c hc => (htail c hc).2.1⟩⟩⟩
      exact readPower_eq_ok_iff.2 (.none fun c hc => (htail c hc).2.2)
  | @some mark signed after digits _ value hmark hcs hsign hdigits =>
      obtain ⟨rfl, hall, hne, -⟩ := readDigits_eq_ok_iff.1 hdigits
      obtain ⟨sign, rfl, hsigned⟩ : ∃ sign, signed = sign ++ (digits ++ rest)
          ∧ ∀ tail, PowerSign (sign ++ tail) tail value := by
        cases hsign with
        | minus => exact ⟨['-'], rfl, fun tail => .minus tail⟩
        | plus => exact ⟨['+'], rfl, fun tail => .plus tail⟩
        | none => exact ⟨[], rfl, fun tail => .none tail⟩
      refine ⟨mark :: (sign ++ digits), by simp [hcs], fun tail htail => ⟨?_, ?_⟩⟩
      · have hread := readDigits_append hall hne htail.noDigitNext
        rw [List.cons_append, List.append_assoc]
        exact readPower_eq_ok_iff.2 (.some hmark rfl (hsigned _) hread)
      · rcases hmark with rfl | rfl
        all_goals
          constructor
          · rintro c ⟨⟩
            rfl
          · rintro c ⟨⟩
            decide

theorem exists_taken_of_readFraction {cs rest : List Char} {fraction : Option (List Char)}
    (h : readFraction cs = .ok (fraction, rest)) :
    ∃ taken, cs = taken ++ rest ∧ ∀ tail, EndsFraction tail →
      readFraction (taken ++ tail) = .ok (fraction, tail) ∧ NoDigitNext (taken ++ tail) := by
  cases readFraction_eq_ok_iff.1 h with
  | none =>
      refine ⟨[], rfl, fun tail htail => ⟨?_, htail.noDigitNext⟩⟩
      exact readFraction_eq_ok_iff.2 (.none htail.noPointNext)
  | @some _ digits _ hcs hdigits =>
      obtain ⟨rfl, hall, hne, -⟩ := readDigits_eq_ok_iff.1 hdigits
      refine ⟨'.' :: digits, hcs, fun tail htail => ⟨?_, ?_⟩⟩
      · exact readFraction_eq_ok_iff.2 (.some rfl (readDigits_append hall hne htail.noDigitNext))
      · rintro c ⟨⟩
        rfl

theorem exists_taken_of_readParts {cs rest : List Char} {p : NumeralParts}
    (h : readParts cs = .ok (p, rest)) :
    ∃ taken, taken ≠ [] ∧ cs = taken ++ rest ∧ ∀ tail, Stops tail →
      readParts (taken ++ tail) = .ok (p, tail) := by
  obtain ⟨cs₁, cs₂, cs₃, hsigned, hwhole, hfraction, hpower⟩ := readParts_eq_ok_iff.1 h
  obtain ⟨rfl, hisWhole, -⟩ := readWhole_eq_ok_iff.1 hwhole
  obtain ⟨fraction, rfl, hfraction'⟩ := exists_taken_of_readFraction hfraction
  obtain ⟨power, rfl, hpower'⟩ := exists_taken_of_readPower hpower
  obtain ⟨sign, rfl, hsigned'⟩ : ∃ sign, cs = sign ++ (p.whole ++ (fraction ++ (power ++ rest)))
      ∧ ∀ tail, Signed p.negative (sign ++ tail) tail := by
    generalize p.negative = negative at hsigned ⊢
    cases hsigned with
    | minus => exact ⟨['-'], rfl, fun tail => .minus tail⟩
    | none => exact ⟨[], rfl, fun tail => .none tail⟩
  refine ⟨sign ++ (p.whole ++ (fraction ++ power)), by simp [hisWhole.ne_nil], by simp,
    fun tail htail => ?_⟩
  obtain ⟨hreadPower, hends⟩ := hpower' tail htail
  obtain ⟨hreadFraction, hnext⟩ := hfraction' (power ++ tail) hends
  simp only [List.append_assoc]
  exact readParts_eq_ok_iff.2
    ⟨_, _, _, hsigned' _, readWhole_append hisWhole hnext, hreadFraction, hreadPower⟩

theorem exists_taken_of_readNumber {cs rest : List Char} {n : Number}
    (h : readNumber cs = .ok (n, rest)) :
    ∃ taken, taken ≠ [] ∧ cs = taken ++ rest ∧ ∀ tail, Stops tail →
      readNumber (taken ++ tail) = .ok (n, tail) := by
  obtain ⟨p, hparts, hvalue⟩ := readNumber_eq_ok_iff.1 h
  obtain ⟨taken, hne, rfl, htaken⟩ := exists_taken_of_readParts hparts
  exact ⟨taken, hne, rfl, fun tail htail => readNumber_eq_ok_iff.2 ⟨p, htaken tail htail, hvalue⟩⟩

/-! ## Where items and keys start -/

theorem exists_of_nextItem {first : Bool} {cs start : List Char}
    (h : nextItem first cs = .ok (some start)) :
    ∃ before c after, cs = before ++ start ∧ start = c :: after
      ∧ (first = false → ∀ tail, Stops (before ++ tail))
      ∧ ∀ tail, nextItem first (before ++ c :: tail) = .ok (some (c :: tail)) := by
  cases nextItem_eq_ok_iff.1 h with
  | first hcs hc =>
      obtain ⟨blanks, rfl, hblanks⟩ := exists_of_skipBlanks hcs
      refine ⟨blanks, _, _, rfl, rfl, by simp, fun tail => ?_⟩
      exact nextItem_eq_ok_iff.2 (.first (hblanks tail) hc)
  | later hcs hafter hc =>
      obtain ⟨blanks, rfl, hblanks⟩ := exists_of_skipBlanks hcs
      obtain ⟨blanks', rfl, hblanks'⟩ := exists_of_skipBlanks hafter
      refine ⟨blanks ++ ',' :: blanks', _, _, by simp, rfl, fun _ tail => ?_, fun tail => ?_⟩
      · rw [List.append_assoc]
        exact stops_of_skipBlanks (hblanks _) (Or.inl rfl)
      · rw [List.append_assoc, List.cons_append]
        exact nextItem_eq_ok_iff.2 (.later (hblanks _) (hblanks' tail) hc)

theorem exists_of_nextKey {first : Bool} {cs start passed : List Char}
    (h : nextKey first cs = .ok (some start, passed)) :
    ∃ before, before ≠ [] ∧ cs = before ++ start
      ∧ (first = false → ∀ tail, Stops (before ++ tail))
      ∧ ∀ tail, nextKey first (before ++ tail) = .ok (some tail, passed) := by
  cases nextKey_eq_ok_iff.1 h with
  | first hcs =>
      obtain ⟨blanks, rfl, hblanks⟩ := exists_of_skipBlanks hcs
      refine ⟨blanks ++ ['"'], by simp, by simp, by simp, fun tail => ?_⟩
      rw [List.append_assoc]
      exact nextKey_eq_ok_iff.2 (.first (hblanks tail))
  | later hcs hafter =>
      obtain ⟨blanks, rfl, hblanks⟩ := exists_of_skipBlanks hcs
      obtain ⟨blanks', rfl, hblanks'⟩ := exists_of_skipBlanks hafter
      refine ⟨blanks ++ ',' :: (blanks' ++ ['"']), by simp, by simp, fun _ tail => ?_,
        fun tail => ?_⟩
      · rw [List.append_assoc]
        exact stops_of_skipBlanks (hblanks _) (Or.inl rfl)
      · simp only [List.append_assoc, List.cons_append, List.nil_append]
        exact nextKey_eq_ok_iff.2 (.later (hblanks _) (hblanks' tail))

theorem exists_of_readColon {cs after : List Char} (h : readColon cs = .ok after) :
    ∃ before, cs = before ++ after ∧ ∀ tail, readColon (before ++ tail) = .ok tail := by
  rw [readColon] at h
  split at h
  · cases h
  · next hcs =>
      cases h
      obtain ⟨blanks, rfl, hblanks⟩ := exists_of_skipBlanks hcs
      refine ⟨blanks ++ [':'], by simp, fun tail => ?_⟩
      rw [readColon, List.append_assoc, List.singleton_append, hblanks]
      rfl
  · cases h

/-! ## Arrays and objects -/

/-- What the first reader takes, the second one takes as well, in front of every text that stops it
and as long as it is no longer than the bound. -/
def Local {α : Type} (bound : Nat) (item item' : List Char → Except Fault (WithRest α)) : Prop :=
  ∀ ⦃cs : List Char⦄ ⦃x : α⦄ ⦃rest : List Char⦄, item cs = .ok (x, rest) →
    ∃ taken, taken ≠ [] ∧ cs = taken ++ rest
      ∧ (taken.length ≤ bound → ∀ tail, Stops tail → item' (taken ++ tail) = .ok (x, tail))

theorem exists_taken_of_readItems {α : Type} {bound : Nat}
    {item item' : List Char → Except Fault (WithRest α)} (hitem : Local bound item item')
    {fuel : Nat} {first : Bool} {cs rest : List Char} {xs : List α}
    (h : readItems item fuel first cs = .ok (xs, rest)) :
    ∃ taken, cs = taken ++ rest ∧ (first = false → ∀ tail, Stops (taken ++ tail))
      ∧ ∀ fuel', taken.length ≤ fuel' → taken.length ≤ bound → ∀ tail,
          readItems item' fuel' first (taken ++ tail) = .ok (xs, tail) := by
  induction fuel generalizing first cs xs with
  | zero => cases h
  | succ fuel ih =>
      cases readItems_eq_ok_iff.1 h with
      | done hnext hclose =>
          cases nextItem_eq_ok_iff.1 hnext with
          | closed hcs =>
              obtain ⟨blanks, rfl, hblanks⟩ := exists_of_skipBlanks hcs
              rw [closeArray, hcs] at hclose
              cases hclose
              refine ⟨blanks ++ [']'], by simp, fun _ tail => ?_, fun fuel' hfuel' _ tail => ?_⟩
              · rw [List.append_assoc]
                exact stops_of_skipBlanks (hblanks tail) (Or.inr (Or.inl rfl))
              · obtain ⟨fuel', rfl⟩ : ∃ k, fuel' = k + 1 :=
                  ⟨fuel' - 1, by rw [List.length_append] at hfuel'; simp at hfuel'; omega⟩
                rw [List.append_assoc]
                refine readItems_eq_ok_iff.2
                  (.done (nextItem_eq_ok_iff.2 (.closed (hblanks tail))) ?_)
                rw [closeArray, List.singleton_append, hblanks]
                rfl
      | more hnext hhead htail =>
          obtain ⟨before, c, _, rfl, hstart, hstops, hbefore⟩ := exists_of_nextItem hnext
          obtain ⟨taken₁, hne, rfl, htaken₁⟩ := hitem hhead
          obtain ⟨taken₂, rfl, hstops₂, htaken₂⟩ := ih htail
          obtain ⟨c', cs', rfl⟩ := List.exists_cons_of_ne_nil hne
          cases hstart
          refine ⟨before ++ (c :: cs' ++ taken₂), by simp, fun hfirst tail => ?_,
            fun fuel' hfuel' hbound tail => ?_⟩
          · rw [List.append_assoc]
            exact hstops hfirst _
          · simp only [List.length_append, List.length_cons] at hfuel' hbound
            obtain ⟨fuel', rfl⟩ : ∃ k, fuel' = k + 1 := ⟨fuel' - 1, by omega⟩
            have hread := htaken₁ (by rw [List.length_cons]; omega) _ (hstops₂ rfl tail)
            have hrest := htaken₂ fuel' (by omega) (by omega) tail
            simp only [List.append_assoc, List.cons_append] at hread ⊢
            exact readItems_eq_ok_iff.2 (.more (hbefore _) hread hrest)

theorem exists_taken_of_readMembers {σ : Type} {bound : Nat}
    {member member' : σ → String → List Char → Except Fault (WithRest σ)}
    (hmember : ∀ state key, Local bound (member state key) (member' state key))
    {fuel : Nat} {first : Bool} {state last : σ} {cs rest : List Char}
    (h : readMembers member fuel first state cs = .ok (last, rest)) :
    ∃ taken, cs = taken ++ rest ∧ (first = false → ∀ tail, Stops (taken ++ tail))
      ∧ ∀ fuel', taken.length ≤ fuel' → taken.length ≤ bound → ∀ tail,
          readMembers member' fuel' first state (taken ++ tail) = .ok (last, tail) := by
  induction fuel generalizing first state cs with
  | zero => cases h
  | succ fuel ih =>
      cases readMembers_eq_ok_iff.1 h with
      | done hnext =>
          cases nextKey_eq_ok_iff.1 hnext with
          | closed hcs =>
              obtain ⟨blanks, rfl, hblanks⟩ := exists_of_skipBlanks hcs
              refine ⟨blanks ++ ['\x7d'], by simp, fun _ tail => ?_, fun fuel' hfuel' _ tail => ?_⟩
              · rw [List.append_assoc]
                exact stops_of_skipBlanks (hblanks tail) (Or.inr (Or.inr rfl))
              · obtain ⟨fuel', rfl⟩ : ∃ k, fuel' = k + 1 :=
                  ⟨fuel' - 1, by rw [List.length_append] at hfuel'; simp at hfuel'; omega⟩
                rw [List.append_assoc]
                exact readMembers_eq_ok_iff.2 (.done (nextKey_eq_ok_iff.2 (.closed (hblanks tail))))
      | more hnext hkey hhead htail =>
          obtain ⟨before, hne, rfl, hstops, hbefore⟩ := exists_of_nextKey hnext
          obtain ⟨key, rfl, -, hkey'⟩ := exists_taken_of_readStringFrom hkey
          obtain ⟨taken₁, -, rfl, htaken₁⟩ := hmember _ _ hhead
          obtain ⟨taken₂, rfl, hstops₂, htaken₂⟩ := ih htail
          have hpos := List.length_pos_iff.2 hne
          refine ⟨before ++ (key ++ (taken₁ ++ taken₂)), by simp, fun hfirst tail => ?_,
            fun fuel' hfuel' hbound tail => ?_⟩
          · rw [List.append_assoc]
            exact hstops hfirst _
          · simp only [List.length_append] at hfuel' hbound
            obtain ⟨fuel', rfl⟩ : ∃ k, fuel' = k + 1 := ⟨fuel' - 1, by omega⟩
            have hread := htaken₁ (by omega) _ (hstops₂ rfl tail)
            have hrest := htaken₂ fuel' (by omega) (by omega) tail
            simp only [List.append_assoc]
            exact readMembers_eq_ok_iff.2 (.more (hbefore _) (hkey' _) hread hrest)

/-! ## Values -/

theorem local_readValue (fuel : Nat) {fuel' budget budget' : Nat} (hbudget : budget ≤ budget') :
    Local fuel' (readValue fuel budget) (readValue fuel' budget') := by
  induction fuel generalizing fuel' budget budget' with
  | zero => exact fun _ _ _ h => nomatch h
  | succ fuel ih =>
      intro cs j rest h
      have hinner : Local (fuel' - 1) (readValue fuel (budget - 1))
          (readValue (fuel' - 1) (budget' - 1)) := ih (Nat.sub_le_sub_right hbudget 1)
      -- the first character is taken in every case, so that there is fuel for it
      have htake : ∀ taken : List Char, taken ≠ [] → cs = taken ++ rest →
          (∀ k, fuel' = k + 1 → taken.length ≤ fuel' → ∀ tail, Stops tail →
            ValueStep k budget' (taken ++ tail) j tail) →
          ∃ taken, taken ≠ [] ∧ cs = taken ++ rest ∧ (taken.length ≤ fuel' → ∀ tail, Stops tail →
            readValue fuel' budget' (taken ++ tail) = .ok (j, tail)) := by
        intro taken hne hcs hstep
        refine ⟨taken, hne, hcs, fun hlength tail htail => ?_⟩
        have hpos := List.length_pos_iff.2 hne
        obtain ⟨k, rfl⟩ : ∃ k, fuel' = k + 1 := ⟨fuel' - 1, by omega⟩
        exact readValue_eq_ok_iff.2 (hstep k rfl hlength tail htail)
      cases readValue_eq_ok_iff.1 h with
      | @word letter letters _ _ _ hword hcs hrest =>
          obtain ⟨blanks, rfl, hblanks⟩ := exists_of_skipBlanks hcs
          obtain rfl := readWord_eq_ok_iff.1 hrest
          refine htake (blanks ++ letter :: letters) (by simp) (by simp) fun k _ _ tail _ => ?_
          rw [List.append_assoc, List.cons_append]
          exact .word hword (hblanks _) (readWord_eq_ok_iff.2 rfl)
      | string hcs hrest =>
          obtain ⟨blanks, rfl, hblanks⟩ := exists_of_skipBlanks hcs
          obtain ⟨taken, rfl, -, htaken⟩ := exists_taken_of_readStringFrom hrest
          refine htake (blanks ++ '"' :: taken) (by simp) (by simp) fun k _ _ tail _ => ?_
          rw [List.append_assoc, List.cons_append]
          exact .string (hblanks _) (htaken tail)
      | @number c _ _ _ hcs hc hrest =>
          obtain ⟨blanks, rfl, hblanks⟩ := exists_of_skipBlanks hcs
          obtain ⟨numeral, hne, hnumeral, htaken⟩ := exists_taken_of_readNumber hrest
          obtain ⟨c', cs', rfl⟩ := List.exists_cons_of_ne_nil hne
          rw [List.cons_append] at hnumeral
          obtain ⟨hhead, rfl⟩ := List.cons.inj hnumeral
          subst hhead
          refine htake (blanks ++ c :: cs') (by simp) (by simp) fun k _ _ tail htail => ?_
          rw [List.append_assoc, List.cons_append]
          exact .number (hblanks _) hc (htaken tail htail)
      | array hmore hcs hrest =>
          obtain ⟨blanks, rfl, hblanks⟩ := exists_of_skipBlanks hcs
          obtain ⟨taken, rfl, -, htaken⟩ := exists_taken_of_readItems hinner hrest
          refine htake (blanks ++ '[' :: taken) (by simp) (by simp) fun k hk hlength tail _ => ?_
          subst hk
          simp only [List.length_append, List.length_cons] at hlength
          rw [List.append_assoc, List.cons_append]
          exact .array (Nat.lt_of_lt_of_le hmore hbudget) (hblanks _)
            (htaken k (by omega) (by omega) tail)
      | object hmore hcs hrest =>
          obtain ⟨blanks, rfl, hblanks⟩ := exists_of_skipBlanks hcs
          have hmember : ∀ members key, Local (fuel' - 1) (readMember fuel (budget - 1) members key)
              (readMember (fuel' - 1) (budget' - 1) members key) := by
            intro members key cs next rest h
            obtain ⟨after, value, hcolon, hvalue, hnext⟩ := readMember_eq_ok_iff.1 h
            obtain ⟨before, rfl, hbefore⟩ := exists_of_readColon hcolon
            obtain ⟨taken, hne, rfl, htaken⟩ := hinner hvalue
            refine ⟨before ++ taken, by simp [hne], by simp, fun hlength tail htail => ?_⟩
            rw [List.length_append] at hlength
            rw [List.append_assoc]
            exact readMember_eq_ok_iff.2
              ⟨_, value, hbefore _, htaken (by omega) tail htail, hnext⟩
          obtain ⟨taken, rfl, -, htaken⟩ := exists_taken_of_readMembers hmember hrest
          refine htake (blanks ++ '\x7b' :: taken) (by simp) (by simp) fun k hk hlength tail _ => ?_
          subst hk
          simp only [List.length_append, List.length_cons] at hlength
          rw [List.append_assoc, List.cons_append]
          exact .object (Nat.lt_of_lt_of_le hmore hbudget) (hblanks _)
            (htaken k (by omega) (by omega) tail)

/-- **A value is read by what is taken of it**: in front of every text that stops it, with as much
fuel as there are characters, and where more nesting is allowed. -/
theorem exists_taken_of_readValue {fuel budget : Nat} {cs rest : List Char} {j : Json}
    (h : readValue fuel budget cs = .ok (j, rest)) :
    ∃ taken, cs = taken ++ rest ∧ ∀ fuel' budget' tail, taken.length ≤ fuel' → budget ≤ budget' →
      Stops tail → readValue fuel' budget' (taken ++ tail) = .ok (j, tail) := by
  have hlocal : ∀ fuel' budget', budget ≤ budget' →
      Local fuel' (readValue fuel budget) (readValue fuel' budget') :=
    fun _ _ hbudget => local_readValue fuel hbudget
  obtain ⟨taken, -, rfl, -⟩ := hlocal 0 budget (Nat.le_refl budget) h
  refine ⟨taken, rfl, fun fuel' budget' tail hfuel hbudget htail => ?_⟩
  obtain ⟨taken', -, htext, hread⟩ := hlocal fuel' budget' hbudget h
  obtain rfl := List.append_cancel_right htext
  exact hread hfuel tail htail

end RuleFilter.Json
