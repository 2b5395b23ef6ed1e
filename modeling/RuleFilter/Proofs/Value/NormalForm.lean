import RuleFilter.Predicate
import RuleFilter.Proofs.Reference.Equality
import RuleFilter.Proofs.Reference.Meaning
import RuleFilter.Proofs.Value.Alike

set_option autoImplicit false

/-! # Deep equality is equality of normal forms

A value without records can be written as a reference: nil as null, numbers of all widths as their
doubles, and maps in key order (`Value.normal?`). Where no map lists a key twice, a value equals a
reference when its normal form does (`Value.equals_iff_isNormally`). Deep equality never builds that
form. Of two maps it compares the sizes and looks the entries of the candidate up in the reference.
That no key of the reference is left over is not looked at; it follows from the sizes
(`Value.isNormally_map_iff`). -/

namespace RuleFilter.Value

open Json (KeysRise membersOf)

/-! ## Normal forms -/

mutual

/-- The reference a value is, if there is no record in it. -/
def normal? : Value → Option Reference
  | nil => some .null
  | bool b => some (.bool b)
  | number n => some (.ofNumber n)
  | string s => some (.string s)
  | list items => (normalItems? items).map .list
  | map entries => (normalEntries? entries).map .ofEntries
  | record _ _ => none

def normalItems? : List Value → Option (List Reference)
  | [] => some []
  | v :: vs => v.normal?.bind fun n => (normalItems? vs).map (n :: ·)

def normalEntries? : List (String × Value) → Option (List (String × Reference))
  | [] => some []
  | (k, v) :: rest => v.normal?.bind fun n => (normalEntries? rest).map ((k, n) :: ·)

end

mutual

/-- No map in the value lists a key twice. -/
def DistinctKeys : Value → Prop
  | list items => DistinctKeysItems items
  | map entries => KeysDistinct entries ∧ DistinctKeysEntries entries
  | _ => True

def DistinctKeysItems : List Value → Prop
  | [] => True
  | v :: vs => DistinctKeys v ∧ DistinctKeysItems vs

def DistinctKeysEntries : List (String × Value) → Prop
  | [] => True
  | (_, v) :: rest => DistinctKeys v ∧ DistinctKeysEntries rest

end

/-- The value has a normal form, and that equals the reference. -/
def IsNormally (v : Value) (r : Reference) : Prop := ∃ n, v.normal? = some n ∧ n.beq r = true

theorem normalItems?_cons_eq_some_iff {v : Value} {vs : List Value} {ns : List Reference} :
    normalItems? (v :: vs) = some ns
      ↔ ∃ n ns', v.normal? = some n ∧ normalItems? vs = some ns' ∧ n :: ns' = ns := by
  simp [normalItems?, Option.bind_eq_some_iff]

theorem normalEntries?_cons_eq_some_iff {k : String} {v : Value} {rest : List (String × Value)}
    {ns : List (String × Reference)} :
    normalEntries? ((k, v) :: rest) = some ns
      ↔ ∃ n ns', v.normal? = some n ∧ normalEntries? rest = some ns' ∧ (k, n) :: ns' = ns := by
  simp [normalEntries?, Option.bind_eq_some_iff]

theorem keys_normalEntries? {entries : List (String × Value)} {ns : List (String × Reference)}
    (h : normalEntries? entries = some ns) : ns.map Prod.fst = entries.map Prod.fst := by
  induction entries generalizing ns with
  | nil =>
      cases h
      rfl
  | cons e rest ih =>
      obtain ⟨n, ns', -, hrest, rfl⟩ := normalEntries?_cons_eq_some_iff.1 h
      exact congrArg (e.1 :: ·) (ih hrest)

/-- The normal form of a map of distinct keys has the normal forms of its entries in key order, and
loses none. -/
theorem normal?_map {entries : List (String × Value)} {ns : List (String × Reference)}
    (hkeys : KeysDistinct entries) (h : normalEntries? entries = some ns) :
    ∃ listed, (map entries).normal? = some (.map listed) ∧ KeysRise listed ∧ listed.Perm ns := by
  refine ⟨membersOf ns, ?_, Json.keysRise_membersOf ns, ?_⟩
  · rw [normal?, h, Option.map_some, Reference.ofEntries]
  · apply Json.perm_membersOf
    unfold KeysDistinct
    rwa [keys_normalEntries? h]

/-! ## Equality of normal forms -/

/-- A map equals a map as large in which every one of its entries is found. -/
theorem isNormally_map_iff {entries : List (String × Value)} {refs : List (String × Reference)}
    (hkeys : KeysDistinct entries) (hrefs : KeysRise refs) :
    (map entries).IsNormally (.map refs) ↔ entries.length = refs.length
      ∧ ∃ ns, normalEntries? entries = some ns
        ∧ ∀ e ∈ ns, ∃ r, (e.1, r) ∈ refs ∧ e.2.beq r = true := by
  have hform {ns : List (String × Reference)} (h : normalEntries? entries = some ns) :
      ∃ listed, (map entries).normal? = some (.map listed)
        ∧ (Reference.beqEntries listed refs = true ↔ entries.length = refs.length
          ∧ ∀ e ∈ ns, ∃ r, (e.1, r) ∈ refs ∧ e.2.beq r = true) := by
    obtain ⟨listed, hnormal, hrise, hperm⟩ := normal?_map hkeys h
    refine ⟨listed, hnormal, ?_⟩
    have hlength : ns.length = entries.length := by
      simpa using congrArg List.length (keys_normalEntries? h)
    rw [Reference.beqEntries_iff hrise hrefs, hperm.length_eq, hlength]
    simp only [hperm.mem_iff]
  constructor
  · rintro ⟨n, hn, hbeq⟩
    obtain ⟨ns, hns, -⟩ := Option.map_eq_some_iff.1 hn
    obtain ⟨listed, hlisted, hiff⟩ := hform hns
    cases hn.symm.trans hlisted
    obtain ⟨hlength, hall⟩ := hiff.1 hbeq
    exact ⟨hlength, ns, hns, hall⟩
  · rintro ⟨hlength, ns, hns, hall⟩
    obtain ⟨listed, hlisted, hiff⟩ := hform hns
    exact ⟨_, hlisted, hiff.2 ⟨hlength, hall⟩⟩

mutual

/-- **A value equals a reference exactly when its normal form does.** -/
theorem equals_iff_isNormally {v : Value} {r : Reference} (hv : v.DistinctKeys) (hr : r.Ordered) :
    v.equals r = true ↔ v.IsNormally r := by
  match v with
  | nil | bool _ | number _ | string _ =>
      cases r <;> simp [IsNormally, normal?, equals, Reference.ofNumber, Reference.beq]
  | record _ _ => cases r <;> simp [IsNormally, normal?, equals]
  | list items =>
      cases r with
      | list refs =>
          rw [equals, equalsList_iff hv hr]
          simp [IsNormally, normal?, Reference.beq]
      | _ => simp [IsNormally, normal?, equals, Reference.beq]
  | map entries =>
      cases r with
      | map refs =>
          -- both sides ask for the same size, and look entries up in the same map
          rw [isNormally_map_iff hv.1 hr.1, equals, Bool.and_eq_true, beq_iff_eq,
            equalsEntries_iff hv.2 hr]
      | _ => simp [IsNormally, normal?, equals, Reference.ofEntries, Reference.beq]

theorem equalsList_iff {items : List Value} {refs : List Reference}
    (hitems : DistinctKeysItems items) (hrefs : Reference.OrderedItems refs) :
    equalsList items refs = true
      ↔ ∃ ns, normalItems? items = some ns ∧ Reference.beqList ns refs = true := by
  match items, refs with
  | [], refs => cases refs <;> simp [equalsList, normalItems?, Reference.beqList]
  | v :: vs, [] =>
      simp [equalsList, normalItems?_cons_eq_some_iff, Reference.beqList]
  | v :: vs, r :: rs =>
      rw [equalsList, Bool.and_eq_true, equals_iff_isNormally hitems.1 hrefs.1,
        equalsList_iff hitems.2 hrefs.2]
      constructor
      · rintro ⟨⟨n, hn, hbeq⟩, ns, hns, hbeqs⟩
        refine ⟨n :: ns, normalItems?_cons_eq_some_iff.2 ⟨n, ns, hn, hns, rfl⟩, ?_⟩
        rw [Reference.beqList, hbeq, hbeqs]
        rfl
      · rintro ⟨ns, hns, h⟩
        obtain ⟨n, ns', hn, hns', rfl⟩ := normalItems?_cons_eq_some_iff.1 hns
        rw [Reference.beqList, Bool.and_eq_true] at h
        exact ⟨⟨n, hn, h.1⟩, ns', hns', h.2⟩

theorem equalsEntries_iff {entries : List (String × Value)} {refs : List (String × Reference)}
    (hentries : DistinctKeysEntries entries) (hrefs : (Reference.map refs).Ordered) :
    equalsEntries entries refs = true ↔ ∃ ns, normalEntries? entries = some ns
      ∧ ∀ e ∈ ns, ∃ r, (e.1, r) ∈ refs ∧ e.2.beq r = true := by
  match entries with
  | [] => simp [equalsEntries, normalEntries?]
  | (k, v) :: rest =>
      have hhead : ((refs.lookup k).map v.equals).getD false = true
          ↔ ∃ n, v.normal? = some n ∧ ∃ r, (k, r) ∈ refs ∧ n.beq r = true := by
        simp only [← lookup_eq_some_iff_mem hrefs.1.keysDistinct]
        cases hfound : refs.lookup k with
        | none => simp
        | some r =>
            have hr : r.Ordered :=
              Reference.orderedEntries_iff.1 hrefs.2 _ (mem_of_lookup_eq_some hfound)
            simpa [IsNormally] using equals_iff_isNormally hentries.1 hr
      rw [equalsEntries_eq_all, List.all_cons, ← equalsEntries_eq_all, Bool.and_eq_true, hhead,
        equalsEntries_iff hentries.2 hrefs]
      constructor
      · rintro ⟨⟨n, hn, hbeq⟩, ns, hns, hbeqs⟩
        refine ⟨(k, n) :: ns, normalEntries?_cons_eq_some_iff.2 ⟨n, ns, hn, hns, rfl⟩, ?_⟩
        exact List.forall_mem_cons.2 ⟨hbeq, hbeqs⟩
      · rintro ⟨ns, hns, h⟩
        obtain ⟨n, ns', hn, hns', rfl⟩ := normalEntries?_cons_eq_some_iff.1 hns
        obtain ⟨hbeq, hbeqs⟩ := List.forall_mem_cons.1 h
        exact ⟨⟨n, hn, hbeq⟩, ns', hns', hbeqs⟩

end

/-! ## Records and NaNs -/

/-- The value or one inside it, at any depth, satisfies the predicate. -/
inductive Contains (p : Value → Prop) : Value → Prop
  | self {v : Value} (h : p v) : Contains p v
  | item {items : List Value} {v : Value} (hmem : v ∈ items) (h : Contains p v) :
      Contains p (list items)
  | entry {entries : List (String × Value)} {e : String × Value} (hmem : e ∈ entries)
      (h : Contains p e.2) : Contains p (map entries)
  | field {identity : Nat} {fields : List (FieldDef × Value)} {f : FieldDef × Value}
      (hmem : f ∈ fields) (h : Contains p f.2) : Contains p (record identity fields)

def IsRecord (v : Value) : Prop := v.kind = .record

/-- The value is a number that is none. -/
def IsNaN (v : Value) : Prop := v = number (.double .nan)

theorem normalItems?_eq_none_iff {items : List Value} :
    normalItems? items = none ↔ ∃ v ∈ items, v.normal? = none := by
  induction items with
  | nil => simp [normalItems?]
  | cons v vs ih =>
      rw [List.exists_mem_cons_iff, ← ih, normalItems?]
      cases v.normal? <;> simp

theorem normalEntries?_eq_none_iff {entries : List (String × Value)} :
    normalEntries? entries = none ↔ ∃ e ∈ entries, e.2.normal? = none := by
  induction entries with
  | nil => simp [normalEntries?]
  | cons e rest ih =>
      rw [List.exists_mem_cons_iff, ← ih, normalEntries?]
      cases e.2.normal? <;> simp

theorem Contains.normal?_eq_none {v : Value} (h : v.Contains IsRecord) : v.normal? = none := by
  induction h with
  | self h =>
      next v => cases v with
        | record _ _ => rfl
        | _ => cases h
  | item hmem _ ih =>
      rw [normal?, normalItems?_eq_none_iff.2 ⟨_, hmem, ih⟩]
      rfl
  | entry hmem _ ih =>
      rw [normal?, normalEntries?_eq_none_iff.2 ⟨_, hmem, ih⟩]
      rfl
  | field => rfl

mutual

theorem contains_of_normal?_eq_none {v : Value} (h : v.normal? = none) : v.Contains IsRecord := by
  match v with
  | nil | bool _ | number _ | string _ => cases h
  | record _ _ => exact .self rfl
  | list items =>
      obtain ⟨v, hmem, hv⟩ := contains_of_normalItems?_eq_none (Option.map_eq_none_iff.1 h)
      exact .item hmem hv
  | map entries =>
      obtain ⟨e, hmem, he⟩ := contains_of_normalEntries?_eq_none (Option.map_eq_none_iff.1 h)
      exact .entry hmem he

theorem contains_of_normalItems?_eq_none {items : List Value} (h : normalItems? items = none) :
    ∃ v ∈ items, v.Contains IsRecord := by
  match items with
  | [] => cases h
  | v :: vs =>
      rw [List.exists_mem_cons_iff]
      cases hv : v.normal? with
      | none => exact .inl (contains_of_normal?_eq_none hv)
      | some n =>
          rw [normalItems?, hv, Option.bind_some, Option.map_eq_none_iff] at h
          exact .inr (contains_of_normalItems?_eq_none h)

theorem contains_of_normalEntries?_eq_none {entries : List (String × Value)}
    (h : normalEntries? entries = none) : ∃ e ∈ entries, e.2.Contains IsRecord := by
  match entries with
  | [] => cases h
  | (k, v) :: rest =>
      rw [List.exists_mem_cons_iff]
      cases hv : v.normal? with
      | none => exact .inl (contains_of_normal?_eq_none hv)
      | some n =>
          rw [normalEntries?, hv, Option.bind_some, Option.map_eq_none_iff] at h
          exact .inr (contains_of_normalEntries?_eq_none h)

end

theorem normal?_eq_none_iff {v : Value} : v.normal? = none ↔ v.Contains IsRecord :=
  ⟨contains_of_normal?_eq_none, Contains.normal?_eq_none⟩

theorem equalsList_iff_forall₂ {items : List Value} {refs : List Reference} :
    equalsList items refs = true ↔ List.Forall₂ (fun v r => v.equals r = true) items refs := by
  induction items generalizing refs with
  | nil => cases refs <;> simp [equalsList]
  | cons v vs ih => cases refs with
    | nil => simp [equalsList]
    | cons r rs => rw [equalsList, Bool.and_eq_true, ih, List.forall₂_cons]

/-- What stands inside a value that equals a reference equals something. -/
theorem Contains.of_equals {p : Value → Prop} {v : Value} (hv : v.Contains p) :
    ∀ {r : Reference}, v.equals r = true → ∃ v' r', p v' ∧ v'.equals r' = true := by
  induction hv with
  | self h => exact fun {r} hr => ⟨_, r, h, hr⟩
  | item hmem _ ih =>
      intro r hr
      cases r with
      | list refs =>
          obtain ⟨r', -, hr'⟩ := exists_mem_of_forall₂ (equalsList_iff_forall₂.1 hr) hmem
          exact ih hr'
      | _ => cases hr
  | @entry _ e hmem _ ih =>
      intro r hr
      cases r with
      | map refs =>
          rw [equals, Bool.and_eq_true, equalsEntries_eq_all, List.all_eq_true] at hr
          have hentry := hr.2 e hmem
          cases hfound : refs.lookup e.1 with
          | none => simp [hfound] at hentry
          | some r' =>
              rw [hfound] at hentry
              exact ih hentry
      | _ => cases hr
  | field _ _ _ =>
      -- a record equals nothing, whatever its fields hold
      intro r hr
      cases r <;> cases hr

/-- A NaN anywhere, in the value or the reference, makes them unequal. -/
theorem equals_eq_false_of_isNaN {v : Value} {r : Reference} (hv : v.DistinctKeys) (hr : r.Ordered)
    (h : v.Contains IsNaN ∨ r.Contains Reference.IsNaN) : v.equals r = false := by
  by_contra hequal
  rw [Bool.not_eq_false] at hequal
  rcases h with h | h
  · obtain ⟨v', r', rfl, hr'⟩ := h.of_equals hequal
    cases r' <;> cases hr'
  · obtain ⟨n, -, hbeq⟩ := (equals_iff_isNormally hv hr).1 hequal
    obtain ⟨r', n', rfl, hn'⟩ := h.of_beq hbeq
    rw [Reference.beq_nan] at hn'
    cases hn'

/-! ## The operator -/

/-- **`==` is equality of normal forms.** The operator takes every reference and has an answer for
every value. Where no map lists a key twice, the answer is yes exactly when there is no record in
the value, at any depth, and its normal form equals the reference; and a NaN anywhere makes it
no. -/
theorem equal_test_iff_normal_forms_equal (reference : OrderedReference) :
    let r := reference.reference
    ∃ p, Predicate.ofTag "==" r = .ok p ∧ (∀ v, p.test v = .ok (v.equals r))
      ∧ ∀ v : Value, v.DistinctKeys →
        (v.equals r = true ↔ ¬ v.Contains IsRecord ∧ v.IsNormally r)
        ∧ (p.test v = .ok true ↔ ¬ v.Contains IsRecord ∧ v.IsNormally r)
        ∧ (v.normal? = none ↔ v.Contains IsRecord)
        ∧ (v.Contains IsNaN ∨ r.Contains Reference.IsNaN → v.equals r = false) := by
  intro r
  have hr : r.Ordered := reference.ordered
  refine ⟨.equal r, rfl, fun _ => rfl, fun v hv => ?_⟩
  have hequals : v.equals r = true ↔ ¬ v.Contains IsRecord ∧ v.IsNormally r := by
    rw [equals_iff_isNormally hv hr]
    constructor
    · rintro ⟨n, hn, hbeq⟩
      refine ⟨fun hrecord => ?_, n, hn, hbeq⟩
      rw [hrecord.normal?_eq_none] at hn
      cases hn
    · exact fun h => h.2
  refine ⟨hequals, ?_, normal?_eq_none_iff, equals_eq_false_of_isNaN hv hr⟩
  rw [Predicate.test, Except.ok.injEq, hequals]

/-- A map in another order with a narrower number, and one with a record in place of a list. -/
theorem equal_test_iff_normal_forms_equal_of_parcel :
    let r : OrderedReference :=
      .map [("tags", .list [.null, .bool true]), ("count", .number (.ofNat 1))]
    let v := map [("tags", list [nil, bool true]), ("count", number (.unsigned 1))]
    let w := map [("tags", record 0 []), ("count", number (.unsigned 1))]
    v.DistinctKeys ∧ w.DistinctKeys
      ∧ ∃ p, Predicate.ofTag "==" r = .ok p ∧ p.test v = .ok true ∧ p.test w ≠ .ok true := by
  intro r v w
  have hv : v.DistinctKeys := ⟨by decide, ⟨trivial, trivial, trivial⟩, trivial, trivial⟩
  have hw : w.DistinctKeys := ⟨by decide, trivial, trivial, trivial⟩
  obtain ⟨p, hp, -, hequal⟩ := equal_test_iff_normal_forms_equal r
  obtain ⟨-, hv', hnone, -⟩ := hequal v hv
  obtain ⟨-, hw', -, -⟩ := hequal w hw
  refine ⟨hv, hw, p, hp, hv'.2 ⟨fun hrecord => ?_, ?_⟩, fun htrue => ?_⟩
  · cases hnone.2 hrecord
  · exact ⟨r.reference, rfl, by decide +kernel⟩
  · exact (hw'.1 htrue).1 (.entry List.mem_cons_self (.self rfl))

end RuleFilter.Value
