import RuleFilter.Proofs.Json.Reading
import RuleFilter.Proofs.Reference.Meaning

set_option autoImplicit false

/-! # What the numerals of a document decide

Which numbers stand for the numerals of a document makes no difference to its form: how deep it is
and what its keys are (`depth_json`, `distinctKeys_json_iff`). Its meaning depends on the doubles
nearest to these numbers, and on every one of them: two choices of numbers give the same reference
only where they agree on all numerals (`ofJson_json_eq_iff`). -/

namespace RuleFilter

namespace Json

open Written (jsonItems jsonMembers numeralsMembers numeralsItems)

variable {f g : WrittenNumber → Number}

/-! ## Item by item -/

theorem jsonItems_eq_map (f : WrittenNumber → Number) (items : List Written) :
    jsonItems f items = items.map (Written.json f) := by
  induction items with
  | nil => rfl
  | cons d items ih => rw [jsonItems, ih, List.map_cons]

theorem jsonMembers_eq_map (f : WrittenNumber → Number) (members : List (String × Written)) :
    jsonMembers f members = members.map fun e => (e.1, e.2.json f) := by
  induction members with
  | nil => rfl
  | cons e members ih => rw [jsonMembers, ih, List.map_cons]

theorem forall_mem_numeralsMembers_iff {members : List (String × Written)}
    {p : WrittenNumber → Prop} :
    (∀ n ∈ numeralsMembers members, p n) ↔ ∀ e ∈ members, ∀ n ∈ e.2.numerals, p n := by
  induction members with
  | nil => simp [numeralsMembers]
  | cons e members ih => rw [numeralsMembers, List.forall_mem_append, ih, List.forall_mem_cons]

theorem keysDistinct_jsonMembers_iff {members : List (String × Written)} :
    KeysDistinct (jsonMembers f members) ↔ KeysDistinct members := by
  rw [jsonMembers_eq_map, KeysDistinct, List.map_map]
  rfl

theorem lookup_jsonMembers (members : List (String × Written)) (key : String) :
    (jsonMembers f members).lookup key = (members.lookup key).map (Written.json f) := by
  induction members with
  | nil => rfl
  | cons e members ih =>
      rw [jsonMembers, lookup_cons_eq_ite, lookup_cons_eq_ite, ih]
      split <;> rfl

/-! ## Form -/

mutual

theorem depth_json (f g : WrittenNumber → Number) (d : Written) :
    (d.json f).depth = (d.json g).depth := by
  match d with
  | .null | .bool _ | .number _ | .string _ => rfl
  | .array items => exact congrArg (· + 1) (depthItems_jsonItems f g items)
  | .object members => exact congrArg (· + 1) (depthMembers_jsonMembers f g members)

theorem depthItems_jsonItems (f g : WrittenNumber → Number) (items : List Written) :
    depthItems (jsonItems f items) = depthItems (jsonItems g items) := by
  match items with
  | [] => rfl
  | d :: items =>
      rw [jsonItems, jsonItems, depthItems, depthItems, depth_json f g d,
        depthItems_jsonItems f g items]

theorem depthMembers_jsonMembers (f g : WrittenNumber → Number)
    (members : List (String × Written)) :
    depthMembers (jsonMembers f members) = depthMembers (jsonMembers g members) := by
  match members with
  | [] => rfl
  | (key, d) :: members =>
      rw [jsonMembers, jsonMembers, depthMembers, depthMembers, depth_json f g d,
        depthMembers_jsonMembers f g members]

end

mutual

theorem distinctKeys_json_iff (d : Written) :
    (d.json f).DistinctKeys ↔ (d.json g).DistinctKeys := by
  match d with
  | .null | .bool _ | .number _ | .string _ => rfl
  | .array items => exact distinctKeysItems_jsonItems_iff items
  | .object members =>
      exact and_congr (keysDistinct_jsonMembers_iff.trans keysDistinct_jsonMembers_iff.symm)
        (distinctKeysMembers_jsonMembers_iff members)

theorem distinctKeysItems_jsonItems_iff (items : List Written) :
    DistinctKeysItems (jsonItems f items) ↔ DistinctKeysItems (jsonItems g items) := by
  match items with
  | [] => rfl
  | d :: items => exact and_congr (distinctKeys_json_iff d) (distinctKeysItems_jsonItems_iff items)

theorem distinctKeysMembers_jsonMembers_iff (members : List (String × Written)) :
    DistinctKeysMembers (jsonMembers f members) ↔ DistinctKeysMembers (jsonMembers g members) := by
  match members with
  | [] => rfl
  | (key, d) :: members =>
      exact and_congr (distinctKeys_json_iff d) (distinctKeysMembers_jsonMembers_iff members)

end

/-! ## Numbers that are read -/

mutual

/-- The numbers of a document are finite where a number is read for each of its numerals. -/
theorem isFinite_read_iff (d : Written) :
    d.read.IsFinite ↔ ∀ n ∈ d.numerals, n.number?.isSome = true := by
  match d with
  | .null | .bool _ | .string _ => exact iff_of_true trivial (List.forall_mem_nil _)
  | .number n =>
      rw [Written.numerals, List.forall_mem_singleton]
      exact n.isFinite_read_iff
  | .array items => exact isFiniteItems_read_iff items
  | .object members => exact isFiniteMembers_read_iff members

theorem isFiniteItems_read_iff (items : List Written) :
    IsFiniteItems (jsonItems WrittenNumber.read items)
      ↔ ∀ n ∈ numeralsItems items, n.number?.isSome = true := by
  match items with
  | [] => exact iff_of_true trivial (List.forall_mem_nil _)
  | d :: items =>
      rw [numeralsItems, List.forall_mem_append]
      exact and_congr (isFinite_read_iff d) (isFiniteItems_read_iff items)

theorem isFiniteMembers_read_iff (members : List (String × Written)) :
    IsFiniteMembers (jsonMembers WrittenNumber.read members)
      ↔ ∀ n ∈ numeralsMembers members, n.number?.isSome = true := by
  match members with
  | [] => exact iff_of_true trivial (List.forall_mem_nil _)
  | (key, d) :: members =>
      rw [numeralsMembers, List.forall_mem_append]
      exact and_congr (isFinite_read_iff d) (isFiniteMembers_read_iff members)

end

end Json

/-! ## Meaning -/

namespace Reference

open Json

variable {f g : WrittenNumber → Number}

mutual

/-- **A document means what its numerals make of it**: the same under two choices of numbers only
where these have the same double for every numeral. -/
theorem ofJson_json_eq_iff {d : Written} (hkeys : (d.json f).DistinctKeys) :
    ofJson (d.json f) = ofJson (d.json g) ↔ ∀ n ∈ d.numerals, (f n).toDouble = (g n).toDouble := by
  match d with
  | .null | .bool _ | .string _ => exact iff_of_true rfl (List.forall_mem_nil _)
  | .number n =>
      simp only [Written.json, ofJson, ofNumber, number.injEq, Written.numerals,
        List.forall_mem_singleton]
  | .array items =>
      rw [Written.json, Written.json, ofJson, ofJson, list.injEq]
      exact ofJsonList_jsonItems_eq_iff hkeys
  | .object members =>
      obtain ⟨hdistinct, hmembers⟩ := hkeys
      have hentries := membersOf_map_eq_iff (keysDistinct_jsonMembers_iff.1 hdistinct)
        (f := fun d => ofJson (d.json f)) (g := fun d => ofJson (d.json g))
      simp only [Written.json, ofJson, ofEntries, map.injEq, ofJsonMembers_eq_map,
        jsonMembers_eq_map, List.map_map, Function.comp_def, Written.numerals,
        forall_mem_numeralsMembers_iff]
      rw [hentries]
      exact forall₂_congr fun e he => ofJson_member_eq_iff hmembers e he

theorem ofJsonList_jsonItems_eq_iff {items : List Written}
    (hkeys : DistinctKeysItems (Written.jsonItems f items)) :
    ofJsonList (Written.jsonItems f items) = ofJsonList (Written.jsonItems g items)
      ↔ ∀ n ∈ Written.numeralsItems items, (f n).toDouble = (g n).toDouble := by
  match items with
  | [] => exact iff_of_true rfl (List.forall_mem_nil _)
  | d :: items =>
      rw [Written.numeralsItems, List.forall_mem_append, ← ofJson_json_eq_iff hkeys.1,
        ← ofJsonList_jsonItems_eq_iff hkeys.2]
      exact List.cons_eq_cons

theorem ofJson_member_eq_iff {members : List (String × Written)}
    (hkeys : DistinctKeysMembers (Written.jsonMembers f members)) :
    ∀ e ∈ members, ofJson (e.2.json f) = ofJson (e.2.json g)
      ↔ ∀ n ∈ e.2.numerals, (f n).toDouble = (g n).toDouble := by
  match members with
  | [] => exact List.forall_mem_nil _
  | (key, d) :: members =>
      exact List.forall_mem_cons.2 ⟨ofJson_json_eq_iff hkeys.1, ofJson_member_eq_iff hkeys.2⟩

end

end Reference

end RuleFilter
