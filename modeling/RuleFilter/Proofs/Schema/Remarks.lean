import RuleFilter.Proofs.Traversal
import RuleFilter.Schema.FieldAttributes

set_option autoImplicit false

/-! # Attributes as remarks

Attributes make remarks: that a field is left out, that its own fields take its place, that it has
another name, that a source knows it by an alias. What the items of a `filter` attribute say is a
small grammar (`MemberSays`, `ItemSays`, `FilterSays`), and what is no sentence of it is an error.
In the attribute of the other library two kinds of remarks are looked for (`serdeRemarks`), and
nothing there is an error.

Reading the attributes of a field is taking in their remarks one by one, those of the other library
first (`ofAttributes_eq_ok_iff`). Every reader of the library's own items does its part of that
(`Takes`), and a row of items is read as its items are (`Takes.foldlM`). -/

namespace RuleFilter.Schema

/-! ## Remarks -/

/-- A remark on a field. -/
inductive Remark where
  | skip
  | flatten
  | rename (name : String)
  | tag (source name : String)
deriving DecidableEq

namespace Remark

def name? : Remark → Option String
  | rename name => some name
  | _ => none

def tag? : Remark → Option (String × String)
  | tag source name => some (source, name)
  | _ => none

end Remark

/-! ## What attributes say -/

/-- A member of `tag(...)` gives a source its alias. -/
inductive MemberSays : Item → List Remark → Prop
  | tag (source name : String) :
      MemberSays (.valued [source] (.text name)) [.tag source name]

/-- The items that a `filter` attribute may have. -/
inductive ItemSays : Item → List Remark → Prop
  | skip : ItemSays (.bare ["skip"]) [.skip]
  | flatten : ItemSays (.bare ["flatten"]) [.flatten]
  | rename (name : String) : ItemSays (.valued ["rename"] (.text name)) [.rename name]
  | tag {members : List Item} {remarks : List (List Remark)}
      (h : List.Forall₂ MemberSays members remarks) :
      ItemSays (.list ["tag"] (some members)) remarks.flatten

/-- A `filter` attribute is a list of such items. -/
inductive FilterSays : Item → List Remark → Prop
  | list {items : List Item} {remarks : List (List Remark)}
      (h : List.Forall₂ ItemSays items remarks) :
      FilterSays (.list ["filter"] (some items)) remarks.flatten

/-- What an item of a `serde` attribute says, if it is of interest. -/
def serdeRemark? : Item → Option Remark
  | .bare ["flatten"] => some .flatten
  | .valued ["rename"] (.text name) => some (.rename name)
  | _ => none

/-- What a `serde` attribute says; one that cannot be read says nothing. -/
def serdeRemarks : Item → List Remark
  | .list ["serde"] (some items) => items.filterMap serdeRemark?
  | _ => []

namespace FieldAttributes

variable {attrs attrs' : FieldAttributes} {attributes : List Item} {remarks : List Remark}

/-! ## Taking in remarks -/

/-- Takes in a remark. -/
def take (attrs : FieldAttributes) : Remark → FieldAttributes
  | .skip => { attrs with skip := true }
  | .flatten => { attrs with flatten := true }
  | .rename name => { attrs with rename := some name }
  | .tag source name => attrs.withAlias source name

/-- From the item the function takes in the remarks that it makes, and fails if it makes none. -/
def Takes (f : FieldAttributes → Item → Except SchemaError FieldAttributes)
    (Says : Item → List Remark → Prop) (item : Item) : Prop :=
  ∀ attrs attrs', f attrs item = .ok attrs'
    ↔ ∃ remarks, Says item remarks ∧ attrs' = remarks.foldl take attrs

/-- **Taking in items one by one is taking in all their remarks.** -/
theorem Takes.foldlM {f : FieldAttributes → Item → Except SchemaError FieldAttributes}
    {Says : Item → List Remark → Prop} {items : List Item} (h : ∀ item ∈ items, Takes f Says item) :
    items.foldlM f attrs = .ok attrs'
      ↔ ∃ remarks, List.Forall₂ Says items remarks ∧ attrs' = remarks.flatten.foldl take attrs := by
  -- the items behind the first are taken in on top of what it says
  induction items generalizing attrs with
  | nil => simp [pure, Except.pure, eq_comm]
  | cons item items ih =>
      obtain ⟨hitem, hitems⟩ := List.forall_mem_cons.1 h
      rw [List.foldlM_cons, Except.bind_eq_ok_iff]
      unfold Takes at hitem
      simp only [hitem, ih hitems]
      constructor
      · rintro ⟨_, ⟨remarks, hread, rfl⟩, rest, hrest, rfl⟩
        refine ⟨remarks :: rest, .cons hread hrest, ?_⟩
        rw [List.flatten_cons, List.foldl_append]
      · rintro ⟨_, _ | ⟨hread, hrest⟩, rfl⟩
        refine ⟨_, ⟨_, hread, rfl⟩, _, hrest, ?_⟩
        rw [List.flatten_cons, List.foldl_append]

theorem takes_addAlias (item : Item) : Takes addAlias MemberSays item := by
  intro attrs attrs'
  constructor
  · intro h
    unfold addAlias at h
    split at h
    · split at h
      · cases h
        exact ⟨_, .tag _ _, rfl⟩
      · cases h
    · cases h
    · cases h
  · rintro ⟨_, ⟨source, name⟩, rfl⟩
    rfl

theorem takes_addItem (item : Item) : Takes addItem ItemSays item := by
  intro attrs attrs'
  constructor
  · intro h
    unfold addItem at h
    split at h
    · cases h
      exact ⟨_, .skip, rfl⟩
    · cases h
      exact ⟨_, .flatten, rfl⟩
    · split at h
      · cases h
        exact ⟨_, .rename _, rfl⟩
      · cases h
    · split at h
      · obtain ⟨remarks, hread, rfl⟩ := (Takes.foldlM fun member _ => takes_addAlias member).1 h
        exact ⟨_, .tag hread, rfl⟩
      · cases h
    · cases h
  · rintro ⟨_, hread, rfl⟩
    cases hread with
    | skip | flatten | rename => rfl
    | tag hmembers =>
        exact (Takes.foldlM fun member _ => takes_addAlias member).2 ⟨_, hmembers, rfl⟩

theorem takes_addFilter {item : Item} (h : item.path = ["filter"]) :
    Takes addFilter FilterSays item := by
  intro attrs attrs'
  constructor
  · intro hadd
    unfold addFilter at hadd
    split at hadd
    · obtain ⟨remarks, hread, rfl⟩ := (Takes.foldlM fun item _ => takes_addItem item).1 hadd
      exact ⟨_, .list hread, rfl⟩
    · rw [if_pos h] at hadd
      cases hadd
  · rintro ⟨_, ⟨hitems⟩, rfl⟩
    exact (Takes.foldlM fun item _ => takes_addItem item).2 ⟨_, hitems, rfl⟩

/-- An attribute of another name says nothing. -/
theorem addFilter_of_path_ne {item : Item} (h : item.path ≠ ["filter"]) (attrs : FieldAttributes) :
    addFilter attrs item = .ok attrs := by
  unfold addFilter
  split
  · exact absurd rfl h
  · exact if_neg h

theorem addSerde_of_path_ne {item : Item} (h : item.path ≠ ["serde"]) (attrs : FieldAttributes) :
    addSerde attrs item = attrs := by
  unfold addSerde
  split
  · exact absurd rfl h
  · rfl

/-- The attributes of one name. -/
def named (name : String) (attributes : List Item) : List Item :=
  attributes.filter (·.path = [name])

theorem foldlM_addFilter_named (attributes : List Item) (attrs : FieldAttributes) :
    (named "filter" attributes).foldlM addFilter attrs = attributes.foldlM addFilter attrs := by
  unfold named
  rw [List.foldlM_filter]
  congr 1
  funext attrs item
  by_cases h : item.path = ["filter"]
  · simp [h]
  · simp [h, addFilter_of_path_ne, pure, Except.pure]

theorem foldl_addSerde_named (attributes : List Item) (attrs : FieldAttributes) :
    (named "serde" attributes).foldl addSerde attrs = attributes.foldl addSerde attrs := by
  unfold named
  rw [List.foldl_filter]
  congr 1
  funext attrs item
  by_cases h : item.path = ["serde"]
  · simp [h]
  · simp [h, addSerde_of_path_ne]

/-- **How the two kinds of attributes are mixed, and what else there is, makes no difference.** -/
theorem ofAttributes_eq_of_named {others : List Item}
    (hfilter : named "filter" others = named "filter" attributes)
    (hserde : named "serde" others = named "serde" attributes) :
    ofAttributes others = ofAttributes attributes := by
  unfold ofAttributes
  rw [← foldlM_addFilter_named, ← foldl_addSerde_named, hfilter, hserde, foldlM_addFilter_named,
    foldl_addSerde_named]

/-! ## The remarks of the other library -/

/-- A remark taken over from the other library: a name given there is an alias here. -/
def takenOver : Remark → Option Remark
  | .flatten => some .flatten
  | .rename name => some (.tag serdeSource name)
  | _ => none

theorem addSerdeItem_eq (attrs : FieldAttributes) (item : Item) :
    addSerdeItem attrs item
      = ((serdeRemark? item).toList.filterMap takenOver).foldl take attrs := by
  unfold addSerdeItem
  split
  · rfl
  · rfl
  · next hflatten hrename =>
      rw [serdeRemark?]
      · rfl
      · exact hflatten
      · exact hrename

theorem foldl_addSerdeItem (attrs : FieldAttributes) (items : List Item) :
    items.foldl addSerdeItem attrs
      = ((items.filterMap serdeRemark?).filterMap takenOver).foldl take attrs := by
  induction items generalizing attrs with
  | nil => rfl
  | cons item items ih =>
      rw [List.foldl_cons, ih, addSerdeItem_eq, ← List.foldl_append, ← List.filterMap_append]
      cases hremark : serdeRemark? item with
      | none => rw [List.filterMap_cons_none hremark, Option.toList_none, List.nil_append]
      | some remark =>
          rw [List.filterMap_cons_some hremark, Option.toList_some, List.singleton_append]

theorem addSerde_eq (attrs : FieldAttributes) (item : Item) :
    addSerde attrs item = ((serdeRemarks item).filterMap takenOver).foldl take attrs := by
  unfold addSerde
  split
  · exact foldl_addSerdeItem attrs _
  · next hother =>
      rw [serdeRemarks]
      · rfl
      · exact hother

/-- Nothing in the other library's attributes is an error. -/
theorem foldl_addSerde (attrs : FieldAttributes) (attributes : List Item) :
    attributes.foldl addSerde attrs
      = ((attributes.flatMap serdeRemarks).filterMap takenOver).foldl take attrs := by
  induction attributes generalizing attrs with
  | nil => rfl
  | cons item attributes ih =>
      rw [List.foldl_cons, ih, addSerde_eq, ← List.foldl_append, ← List.filterMap_append,
        ← List.flatMap_cons]

/-- **Reading attributes is taking in remarks**, those of the other library first. -/
theorem ofAttributes_eq_ok_iff :
    ofAttributes attributes = .ok attrs
      ↔ ∃ remarks, List.Forall₂ FilterSays (named "filter" attributes) remarks
        ∧ attrs = ((attributes.flatMap serdeRemarks).filterMap takenOver ++ remarks.flatten).foldl
            take initial := by
  have htakes : ∀ item ∈ named "filter" attributes, Takes addFilter FilterSays item := by
    intro item hitem
    obtain ⟨-, hpath⟩ := List.mem_filter.1 hitem
    exact takes_addFilter (of_decide_eq_true hpath)
  rw [ofAttributes, ← foldlM_addFilter_named, foldl_addSerde, Takes.foldlM htakes]
  simp only [List.foldl_append]

theorem exists_ofAttributes_eq_ok_iff :
    (∃ attrs, ofAttributes attributes = .ok attrs)
      ↔ ∀ item ∈ named "filter" attributes, ∃ remarks, FilterSays item remarks := by
  rw [← exists_forall₂_iff]
  constructor
  · rintro ⟨attrs, h⟩
    obtain ⟨remarks, hread, -⟩ := ofAttributes_eq_ok_iff.1 h
    exact ⟨remarks, hread⟩
  · rintro ⟨remarks, hread⟩
    exact ⟨_, ofAttributes_eq_ok_iff.2 ⟨remarks, hread, rfl⟩⟩

/-- **Only a `filter` attribute outside the grammar is an error.** -/
theorem exists_ofAttributes_eq_error_iff :
    (∃ e, ofAttributes attributes = .error e)
      ↔ ∃ item ∈ attributes, item.path = ["filter"] ∧ ¬ ∃ remarks, FilterSays item remarks := by
  have hfails : (∃ e, ofAttributes attributes = .error e)
      ↔ ¬ ∃ attrs, ofAttributes attributes = .ok attrs := by
    cases ofAttributes attributes <;> simp
  rw [hfails, exists_ofAttributes_eq_ok_iff]
  simp only [named, List.mem_filter, decide_eq_true_eq, not_forall, and_assoc, exists_prop]

end FieldAttributes

end RuleFilter.Schema
