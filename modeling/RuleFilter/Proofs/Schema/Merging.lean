import RuleFilter.Proofs.Entries
import RuleFilter.Proofs.Schema.Remarks

set_option autoImplicit false

/-! # How the attributes of a field come together

What has been taken in after a row of remarks is told by the row as a whole (`Tells`): a field is
left out when some remark says so, its name is the one given last, and the table of aliases has an
entry for every source that is mentioned (`Tabulates`). One remark more keeps that true
(`Tells.take`), and with it any number of remarks. With the remarks of the two libraries side by
side it says how these come together (`MergedFrom`). -/

namespace RuleFilter.Schema

namespace Remark

/-- The name that is given last. -/
def lastName (remarks : List Remark) : Option String := (remarks.filterMap name?).getLast?

/-- The sources with their aliases, as often as they are mentioned. -/
def tags (remarks : List Remark) : List (String × String) := remarks.filterMap tag?

/-- The alias that the source is given last. -/
def lastAlias (remarks : List Remark) (source : String) : Option String :=
  (tags remarks).reverse.lookup source

theorem lastName_append_singleton (remarks : List Remark) (remark : Remark) :
    lastName (remarks ++ [remark]) = remark.name?.or (lastName remarks) := by
  unfold lastName
  rw [List.filterMap_append, List.getLast?_append]
  cases remark <;> rfl

theorem tags_append_singleton (remarks : List Remark) (remark : Remark) :
    tags (remarks ++ [remark]) = tags remarks ++ remark.tag?.toList := by
  unfold tags
  rw [List.filterMap_append]
  cases remark <;> rfl

end Remark

namespace FieldAttributes

open Remark (lastName lastAlias tags lastName_append_singleton tags_append_singleton)

variable {attrs : FieldAttributes} {remarks : List Remark}

/-! ## What has been taken in -/

/-- A source is given its place when it is mentioned first, and keeps it. -/
theorem map_fst_setAlias (source name : String) (entries : List (String × String)) :
    (setAlias source name entries).map Prod.fst
      = if source ∈ entries.map Prod.fst then entries.map Prod.fst
        else entries.map Prod.fst ++ [source] := by
  induction entries with
  | nil => rfl
  | cons entry rest ih =>
      obtain ⟨s, a⟩ := entry
      unfold setAlias
      by_cases h : s = source
      · simp [h]
      · have hne : source ≠ s := fun heq => h heq.symm
        rw [if_neg h, List.map_cons, ih, List.map_cons]
        by_cases hmem : source ∈ rest.map Prod.fst
        · rw [if_pos hmem, if_pos (List.mem_cons_of_mem _ hmem)]
        · rw [if_neg hmem, if_neg (List.not_mem_cons_of_ne_of_not_mem hne hmem), List.cons_append]

theorem lookup_setAlias (source name key : String) (entries : List (String × String)) :
    (setAlias source name entries).lookup key
      = if key = source then some name else entries.lookup key := by
  induction entries with
  | nil => rw [setAlias, lookup_cons_eq_ite]
  | cons entry rest ih =>
      obtain ⟨s, a⟩ := entry
      unfold setAlias
      by_cases h : s = source
      · subst h
        rw [if_pos rfl, lookup_cons_eq_ite, lookup_cons_eq_ite]
        by_cases hkey : key = s
        · rw [if_pos hkey, if_pos hkey]
        · rw [if_neg hkey, if_neg hkey, if_neg hkey]
      · rw [if_neg h, lookup_cons_eq_ite, lookup_cons_eq_ite, ih]
        by_cases hkey : key = source
        · -- the entry in front is that of another source
          have hne : key ≠ s := fun heq => h (heq.symm.trans hkey)
          rw [if_pos hkey, if_pos hkey, if_neg hne]
        · rw [if_neg hkey, if_neg hkey]

theorem eraseDups_append_singleton (xs : List String) (x : String) :
    (xs ++ [x]).eraseDups = if x ∈ xs then xs.eraseDups else xs.eraseDups ++ [x] := by
  rw [List.eraseDups_append]
  by_cases h : x ∈ xs
  · simp [List.removeAll, h]
  · simp [List.removeAll, h, List.eraseDups_cons]

/-- Every source that is mentioned has one entry, in the order of first mention, with the alias that
is mentioned last. -/
structure Tabulates (entries mentions : List (String × String)) : Prop where
  once : KeysDistinct entries
  order : entries.map Prod.fst = (mentions.map Prod.fst).eraseDups
  last : ∀ source, entries.lookup source = mentions.reverse.lookup source

theorem Tabulates.setAlias {entries mentions : List (String × String)}
    (h : Tabulates entries mentions)
    (source name : String) :
    Tabulates (setAlias source name entries) (mentions ++ [(source, name)]) := by
  refine ⟨?_, ?_, fun key => ?_⟩
  · unfold KeysDistinct
    rw [map_fst_setAlias]
    by_cases hsource : source ∈ entries.map Prod.fst
    · rw [if_pos hsource]
      exact h.once
    · rw [if_neg hsource, ← List.concat_eq_append]
      exact h.once.concat hsource
  · rw [map_fst_setAlias, List.map_append, List.map_singleton, eraseDups_append_singleton, h.order]
    simp only [List.mem_eraseDups]
  · rw [lookup_setAlias, h.last, List.reverse_append, List.reverse_singleton, List.singleton_append,
      lookup_cons_eq_ite]

/-- The attributes are what the remarks make of a field on which nothing has been said. -/
structure Tells (attrs : FieldAttributes) (remarks : List Remark) : Prop where
  skip : attrs.skip = true ↔ .skip ∈ remarks
  flatten : attrs.flatten = true ↔ .flatten ∈ remarks
  rename : attrs.rename = lastName remarks
  aliases : Tabulates attrs.aliases (tags remarks)

theorem tells_initial : initial.Tells [] where
  skip := by simp [initial]
  flatten := by simp [initial]
  rename := rfl
  aliases := ⟨List.nodup_nil, rfl, fun _ => rfl⟩

/-- A remark more is taken in. -/
theorem Tells.take (h : attrs.Tells remarks) (remark : Remark) :
    (attrs.take remark).Tells (remarks ++ [remark]) := by
  have hname := lastName_append_singleton remarks remark
  have htags := tags_append_singleton remarks remark
  refine ⟨?_, ?_, ?_, ?_⟩
  · rw [List.mem_append, List.mem_singleton, ← h.skip]
    cases remark <;> simp [FieldAttributes.take, withAlias]
  · rw [List.mem_append, List.mem_singleton, ← h.flatten]
    cases remark <;> simp [FieldAttributes.take, withAlias]
  · rw [hname, ← h.rename]
    cases remark <;> rfl
  · -- of the remarks only a tag touches the table
    rw [htags]
    cases remark with
    | skip | flatten | rename =>
        show Tabulates attrs.aliases (tags remarks ++ [])
        rw [List.append_nil]
        exact h.aliases
    | tag source name => exact h.aliases.setAlias source name

theorem Tells.foldl_take (h : attrs.Tells remarks) (more : List Remark) :
    (more.foldl FieldAttributes.take attrs).Tells (remarks ++ more) := by
  induction more generalizing attrs remarks with
  | nil =>
      rw [List.append_nil]
      exact h
  | cons remark more ih =>
      rw [List.foldl_cons, List.append_cons]
      exact ih (h.take remark)

/-! ## The attributes of a field -/

theorem skip_not_mem_takenOver : .skip ∉ remarks.filterMap takenOver := by
  intro h
  obtain ⟨remark, -, htaken⟩ := List.mem_filterMap.1 h
  cases remark <;> cases htaken

theorem flatten_mem_takenOver : .flatten ∈ remarks.filterMap takenOver ↔ .flatten ∈ remarks := by
  rw [List.mem_filterMap]
  constructor
  · rintro ⟨remark, hmem, htaken⟩
    cases remark with
    | flatten => exact hmem
    | skip | rename _ | tag _ _ => cases htaken
  · intro h
    exact ⟨_, h, rfl⟩

theorem lastName_takenOver_append (remarks others : List Remark) :
    lastName (remarks.filterMap takenOver ++ others) = lastName others := by
  have hnone : (remarks.filterMap takenOver).filterMap Remark.name? = [] := by
    rw [List.filterMap_eq_nil_iff]
    intro taken htaken
    obtain ⟨remark, -, h⟩ := List.mem_filterMap.1 htaken
    cases remark <;> cases h <;> rfl
  unfold lastName
  rw [List.filterMap_append, hnone, List.nil_append]

/-- What is taken over are names, and all of them are aliases for one source. -/
theorem tags_takenOver (remarks : List Remark) :
    tags (remarks.filterMap takenOver)
      = (remarks.filterMap Remark.name?).map (fun name => (serdeSource, name)) := by
  unfold tags
  rw [List.filterMap_filterMap, List.map_filterMap]
  congr 1
  funext remark
  cases remark <;> rfl

theorem lookup_map_key (key source : String) (names : List String) :
    (names.map (fun name => (key, name))).lookup source
      = if source = key then names.head? else none := by
  induction names with
  | nil => simp
  | cons name names ih =>
      rw [List.map_cons, lookup_cons_eq_ite, ih]
      by_cases h : source = key
      · rw [if_pos h, if_pos h, List.head?_cons]
      · rw [if_neg h, if_neg h, if_neg h]

/-- The attributes are merged from what the other library's attributes say and what the own ones
do. -/
structure MergedFrom (attrs : FieldAttributes) (serde filter : List Remark) : Prop where
  skip : attrs.skip = true ↔ .skip ∈ filter
  flatten : attrs.flatten = true ↔ .flatten ∈ filter ∨ .flatten ∈ serde
  rename : attrs.rename = lastName filter
  /-- No source has two entries. -/
  once : KeysDistinct attrs.aliases
  /-- The entries come in the order of first mention, and names of the other library come first. -/
  order : attrs.aliases.map Prod.fst
    = ((serde.filterMap Remark.name?).map (fun _ => serdeSource)
        ++ (tags filter).map Prod.fst).eraseDups
  /-- The own aliases win. -/
  alias_eq : ∀ source, attrs.aliases.lookup source
    = (lastAlias filter source).or (if source = serdeSource then lastName serde else none)

theorem Tells.mergedFrom {serde filter : List Remark}
    (h : attrs.Tells (serde.filterMap takenOver ++ filter)) : attrs.MergedFrom serde filter := by
  have htags : tags (serde.filterMap takenOver ++ filter)
      = (serde.filterMap Remark.name?).map (fun name => (serdeSource, name)) ++ tags filter := by
    rw [← tags_takenOver]
    exact List.filterMap_append
  have haliases := h.aliases
  rw [htags] at haliases
  refine ⟨?_, ?_, ?_, haliases.once, ?_, fun source => ?_⟩
  · rw [h.skip, List.mem_append, or_iff_right skip_not_mem_takenOver]
  · rw [h.flatten, List.mem_append, flatten_mem_takenOver, or_comm]
  · rw [h.rename, lastName_takenOver_append]
  · rw [haliases.order, List.map_append, List.map_map]
    rfl
  · rw [haliases.last, List.reverse_append, List.lookup_append, ← List.map_reverse, lookup_map_key,
      List.head?_reverse]
    rfl

/-- **How the attributes of a field come together.** They fail exactly when some `filter` attribute
says nothing in the grammar, whatever the attributes of the other library are. The order within each
kind matters and nothing else. What comes out is merged from the remarks of the two kinds. -/
theorem attributes_merge_remarks (attributes : List Item) :
    ((∃ e, ofAttributes attributes = .error e)
        ↔ ∃ item ∈ attributes, item.path = ["filter"] ∧ ¬ ∃ remarks, FilterSays item remarks)
      ∧ (∀ others, named "filter" others = named "filter" attributes →
          named "serde" others = named "serde" attributes →
          ofAttributes others = ofAttributes attributes)
      ∧ ∀ attrs, ofAttributes attributes = .ok attrs →
          ∃ remarks, List.Forall₂ FilterSays (named "filter" attributes) remarks
            ∧ attrs.MergedFrom (attributes.flatMap serdeRemarks) remarks.flatten := by
  refine ⟨exists_ofAttributes_eq_error_iff, fun others => ofAttributes_eq_of_named, ?_⟩
  intro attrs h
  obtain ⟨remarks, hread, rfl⟩ := ofAttributes_eq_ok_iff.1 h
  exact ⟨remarks, hread, (tells_initial.foldl_take _).mergedFrom⟩

/-- Two `filter` attributes with a `serde` attribute between them and one that cannot be read. The
name taken over keeps its place, and loses to the alias. -/
theorem attributes_merge_remarks_of_both_kinds :
    let aliasing := Item.list ["filter"]
      (some [.list ["tag"] (some [.valued ["json"] (.text "n"), .valued ["serde"] (.text "m")])])
    let naming := Item.list ["serde"] (some [.valued ["rename"] (.text "k"), .bare ["default"]])
    let promoting := Item.list ["filter"]
      (some [.bare ["flatten"], .list ["tag"] (some [.valued ["json"] (.text "j")])])
    let mixed := [aliasing, .list ["serde"] none, naming, promoting]
    let merged : FieldAttributes := ⟨false, true, none, [("serde", "m"), ("json", "j")]⟩
    ofAttributes mixed = .ok merged
      ∧ ofAttributes [.list ["serde"] none, naming, .bare ["doc"], aliasing, promoting] = .ok merged
      ∧ (∃ remarks, List.Forall₂ FilterSays [aliasing, promoting] remarks
        ∧ merged.MergedFrom (mixed.flatMap serdeRemarks) remarks.flatten)
      ∧ ∃ e, ofAttributes (.bare ["filter"] :: mixed) = .error e := by
  intro aliasing naming promoting mixed merged
  obtain ⟨-, hsame, hmerged⟩ := attributes_merge_remarks mixed
  obtain ⟨hfails, -⟩ := attributes_merge_remarks (.bare ["filter"] :: mixed)
  have hmixed : ofAttributes mixed = .ok merged := rfl
  refine ⟨hmixed, (hsame _ rfl rfl).trans hmixed, hmerged merged hmixed,
    hfails.2 ⟨_, List.mem_cons_self, rfl, ?_⟩⟩
  rintro ⟨_, ⟨⟩⟩

end FieldAttributes

end RuleFilter.Schema
