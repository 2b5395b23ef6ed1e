import Mathlib
import RuleFilter.Proofs.Traversal
import RuleFilter.Schema.Basic

set_option autoImplicit false

/-! # Definitions, reads and bounds belong together

A schema says three things of each field that its declaration does not leave out: how the field is
defined, whether it is read, and, where the type has parameters, what bound its type needs. Three
lists are filled for it in one walk over the declaration, and they grow at different turns: a field
that is left out adds to none, and one that may not be read only to the definitions. `Collects` says
what the lists hold after some turns, in terms of the fields that were kept (`keptFields`).

The three are found at the same place (`Schema.AlignedWith`): the fields that are kept are numbered
in the order of their declaration, the definition with a number is that of the field with it, and a
read with a number is a read of the same field. -/

namespace RuleFilter.Schema

/-! ## Names -/

/-- The name stands behind the marks, if there are any, that make it a raw one. -/
def FieldDeclaration.HasPlainName (field : FieldDeclaration) (name : String) : Prop :=
  (∃ marks, field.ident.toList = (List.replicate marks ['r', '#']).flatten ++ name.toList)
    ∧ ¬ ['r', '#'] <+: name.toList

namespace FieldDeclaration

/-- What is left has no mark, and only marks have gone. -/
theorem dropRawMark_spec (cs : List Char) :
    (∃ marks, cs = (List.replicate marks ['r', '#']).flatten ++ dropRawMark cs)
      ∧ ¬ ['r', '#'] <+: dropRawMark cs := by
  fun_induction dropRawMark cs with
  | case1 rest ih =>
      obtain ⟨⟨marks, hmarks⟩, hplain⟩ := ih
      refine ⟨⟨marks + 1, ?_⟩, hplain⟩
      rw [List.replicate_succ, List.flatten_cons, List.append_assoc, ← hmarks]
      rfl
  | case2 cs hother =>
      refine ⟨⟨0, rfl⟩, ?_⟩
      rintro ⟨rest, rfl⟩
      exact hother rest rfl

theorem hasPlainName_plainName (field : FieldDeclaration) :
    field.HasPlainName field.plainName := by
  rw [HasPlainName, plainName, String.toList_ofList]
  exact dropRawMark_spec field.ident.toList

end FieldDeclaration

/-! ## The fields that are kept -/

/-- The fields that are not left out, in order, with what their attributes say. -/
def keptFields (fields : List FieldDeclaration) : List (FieldDeclaration × FieldAttributes) :=
  fields.filterMap fun field =>
    match FieldAttributes.ofAttributes field.attributes with
    | .ok attrs => if attrs.skip then none else some (field, attrs)
    | .error _ => none

/-- The field may be read: it is public without restriction, or its members are promoted. -/
def IsReadable (field : FieldDeclaration) (attrs : FieldAttributes) : Prop :=
  field.visibility = "pub" ∨ attrs.flatten = true

instance (field : FieldDeclaration) (attrs : FieldAttributes) :
    Decidable (IsReadable field attrs) :=
  inferInstanceAs (Decidable (_ ∨ _))

theorem isReadable_iff (field : FieldDeclaration) (attrs : FieldAttributes) :
    (field.isExported || attrs.flatten) = true ↔ IsReadable field attrs := by
  rw [Bool.or_eq_true, FieldDeclaration.isExported, decide_eq_true_iff, IsReadable]

theorem keptFields_cons {field : FieldDeclaration} {attrs : FieldAttributes}
    (h : FieldAttributes.ofAttributes field.attributes = .ok attrs)
    (fields : List FieldDeclaration) :
    keptFields (field :: fields)
      = if attrs.skip then keptFields fields else (field, attrs) :: keptFields fields := by
  cases hskip : attrs.skip <;> simp [keptFields, h, hskip]

theorem mem_keptFields_iff {fields : List FieldDeclaration} {field : FieldDeclaration}
    {attrs : FieldAttributes} :
    (field, attrs) ∈ keptFields fields
      ↔ field ∈ fields ∧ FieldAttributes.ofAttributes field.attributes = .ok attrs
        ∧ attrs.skip = false := by
  rw [keptFields, List.mem_filterMap]
  constructor
  · rintro ⟨f, hf, hkept⟩
    split at hkept
    · next a ha =>
        split at hkept
        · cases hkept
        · next hskip =>
            cases hkept
            exact ⟨hf, ha, by simpa using hskip⟩
    · cases hkept
  · rintro ⟨hfield, hattrs, hskip⟩
    exact ⟨field, hfield, by simp [hattrs, hskip]⟩

/-! ## One turn after the other -/

theorem FieldDeclaration.definition_eq (field : FieldDeclaration) (attrs : FieldAttributes) :
    field.definition attrs
      = ⟨attrs.rename.getD field.plainName, attrs.aliases, field.visibility = "pub",
          attrs.flatten⟩ := by
  obtain ⟨skip, flatten, rename, aliases⟩ := attrs
  by_cases hpublic : field.visibility = "pub" <;> cases flatten <;> cases aliases <;>
    simp [definition, isExported, hpublic, FieldDef.ofName, FieldDef.withAliases,
      FieldDef.unexported, FieldDef.flattened]

/-- The reads of the fields that are kept. -/
def readsOf (kept : List (FieldDeclaration × FieldAttributes)) : List (Nat × String) :=
  kept.zipIdx.filterMap fun (k, index) =>
    if IsReadable k.1 k.2 then some (index, k.1.ident) else none

/-- The bounds of the fields that are kept. -/
def boundsOf (kept : List (FieldDeclaration × FieldAttributes)) : List String :=
  (kept.filter fun k => IsReadable k.1 k.2).map
    fun k => compact k.1.type ++ ":::standout_filter::AsValue"

theorem readsOf_concat (kept : List (FieldDeclaration × FieldAttributes)) (field : FieldDeclaration)
    (attrs : FieldAttributes) :
    readsOf (kept ++ [(field, attrs)])
      = readsOf kept ++ if IsReadable field attrs then [(kept.length, field.ident)] else [] := by
  rw [readsOf, List.zipIdx_append, List.filterMap_append, ← readsOf]
  by_cases hreadable : IsReadable field attrs <;> simp [hreadable]

theorem boundsOf_concat (kept : List (FieldDeclaration × FieldAttributes))
    (field : FieldDeclaration) (attrs : FieldAttributes) :
    boundsOf (kept ++ [(field, attrs)])
      = boundsOf kept
        ++ if IsReadable field attrs then [compact field.type ++ ":::standout_filter::AsValue"]
          else [] := by
  rw [boundsOf, List.filter_append, List.map_append, ← boundsOf]
  by_cases hreadable : IsReadable field attrs <;> simp [hreadable]

section Add

variable (parts : Parts) (field : FieldDeclaration) (attrs : FieldAttributes)

theorem definitions_add :
    (parts.add field attrs).definitions = parts.definitions ++ [field.definition attrs] := by
  rw [Parts.add]
  split <;> rfl

/-- The place under which a field is read is the number of the definitions, not of the reads, that
were collected before. -/
theorem reads_add : (parts.add field attrs).reads
    = parts.reads
      ++ if IsReadable field attrs then [(parts.definitions.length, field.ident)] else [] := by
  simp only [Parts.add, isReadable_iff]
  split
  · rfl
  · exact (List.append_nil _).symm

theorem bounds_add : (parts.add field attrs).bounds
    = parts.bounds
      ++ if IsReadable field attrs then [compact field.type ++ ":::standout_filter::AsValue"]
        else [] := by
  simp only [Parts.add, isReadable_iff]
  split
  · exact congrArg (fun bound => parts.bounds ++ [bound]) (String.append_assoc ..)
  · exact (List.append_nil _).symm

end Add

/-- What is collected, list by list, of the fields that have been kept so far. -/
structure Collects (kept : List (FieldDeclaration × FieldAttributes)) (parts : Parts) : Prop where
  definitions : parts.definitions = kept.map fun k => k.1.definition k.2
  reads : parts.reads = readsOf kept
  bounds : parts.bounds = boundsOf kept

theorem collects_initial : Collects [] Parts.initial := ⟨rfl, rfl, rfl⟩

theorem Collects.length_eq {kept : List (FieldDeclaration × FieldAttributes)} {parts : Parts}
    (h : Collects kept parts) : parts.definitions.length = kept.length := by
  rw [h.definitions, List.length_map]

/-- A turn adds to each list what belongs there. -/
theorem Collects.add {kept : List (FieldDeclaration × FieldAttributes)} {parts : Parts}
    (h : Collects kept parts) (field : FieldDeclaration) (attrs : FieldAttributes) :
    Collects (kept ++ [(field, attrs)]) (parts.add field attrs) := by
  refine ⟨?_, ?_, ?_⟩
  · rw [definitions_add, h.definitions, List.map_append]
    rfl
  · rw [reads_add, readsOf_concat, h.reads, h.length_eq]
  · rw [bounds_add, boundsOf_concat, h.bounds]

theorem take_eq_ok_iff {parts next : Parts} {field : FieldDeclaration} :
    parts.take field = .ok next
      ↔ ∃ attrs, FieldAttributes.ofAttributes field.attributes = .ok attrs
        ∧ next = if attrs.skip then parts else parts.add field attrs := by
  rw [Parts.take]
  simp only [Except.bind_eq_ok_iff]
  exact exists_congr fun _ => and_congr_right fun _ => ⟨fun h => (Except.ok.inj h).symm,
    fun h => congrArg Except.ok h.symm⟩

/-- Every field has its turn when the attributes of each can be read, those left out included. -/
theorem exists_foldlM_take_iff {fields : List FieldDeclaration} (parts : Parts) :
    (∃ last, fields.foldlM Parts.take parts = .ok last)
      ↔ ∀ field ∈ fields, ∃ attrs, FieldAttributes.ofAttributes field.attributes = .ok attrs := by
  induction fields generalizing parts with
  | nil => exact ⟨fun _ => nofun, fun _ => ⟨parts, rfl⟩⟩
  | cons field fields ih =>
      rw [List.forall_mem_cons, List.foldlM_cons]
      simp only [Except.bind_eq_ok_iff, take_eq_ok_iff]
      constructor
      · rintro ⟨last, next, ⟨attrs, hattrs, -⟩, hlast⟩
        exact ⟨⟨attrs, hattrs⟩, (ih next).1 ⟨last, hlast⟩⟩
      · rintro ⟨⟨attrs, hattrs⟩, hfields⟩
        obtain ⟨last, hlast⟩ := (ih (if attrs.skip then parts else parts.add field attrs)).2 hfields
        exact ⟨last, _, ⟨attrs, hattrs, rfl⟩, hlast⟩

/-- When all have had their turn, what is collected is that of the fields that are kept. -/
theorem Collects.foldlM {fields : List FieldDeclaration}
    {kept : List (FieldDeclaration × FieldAttributes)} {parts last : Parts}
    (h : Collects kept parts)
    (hlast : fields.foldlM Parts.take parts = .ok last) :
    Collects (kept ++ keptFields fields) last := by
  induction fields generalizing kept parts with
  | nil =>
      rw [keptFields, List.filterMap_nil, List.append_nil, ← Except.ok.inj hlast]
      exact h
  | cons field fields ih =>
      rw [List.foldlM_cons, Except.bind_eq_ok_iff] at hlast
      obtain ⟨next, htake, hrest⟩ := hlast
      obtain ⟨attrs, hattrs, rfl⟩ := take_eq_ok_iff.1 htake
      rw [keptFields_cons hattrs]
      cases hskip : attrs.skip with
      | true =>
          rw [hskip] at hrest
          exact ih h hrest
      | false =>
          rw [hskip] at hrest
          have hnext := ih (h.add field attrs) hrest
          rwa [List.append_assoc, List.singleton_append] at hnext

/-! ## Reading by number -/

variable {s : Schema} {kept : List (FieldDeclaration × FieldAttributes)}

/-- Under a number stands the read of the field with it, if that field may be read. -/
theorem mem_readsOf_iff {index : Nat} {ident : String} :
    (index, ident) ∈ readsOf kept
      ↔ ∃ field attrs, kept[index]? = some (field, attrs) ∧ IsReadable field attrs
        ∧ field.ident = ident := by
  simp only [readsOf, List.mem_filterMap, Prod.exists, List.mem_zipIdx_iff_getElem?]
  constructor
  · rintro ⟨field, attrs, i, hkept, hread⟩
    split at hread
    · next hreadable =>
        cases hread
        exact ⟨field, attrs, hkept, hreadable, rfl⟩
    · cases hread
  · rintro ⟨field, attrs, hkept, hreadable, rfl⟩
    exact ⟨field, attrs, index, hkept, if_pos hreadable⟩

theorem fieldAt_of_kept (hreads : s.reads = readsOf kept) {index : Nat} {field : FieldDeclaration}
    {attrs : FieldAttributes} (hkept : kept[index]? = some (field, attrs)) (read : String → Value) :
    s.fieldAt read index = if IsReadable field attrs then read field.ident else .nil := by
  rw [fieldAt, hreads]
  cases hfound : (readsOf kept).find? (·.1 = index) with
  | none =>
      -- a field that may be read would be among the reads
      rw [if_neg]
      intro hreadable
      have hmem := mem_readsOf_iff.2 ⟨field, attrs, hkept, hreadable, rfl⟩
      exact absurd (decide_eq_true rfl) (List.find?_eq_none.1 hfound _ hmem)
  | some r =>
      obtain ⟨i, ident⟩ := r
      have hindex : i = index := by simpa using List.find?_some hfound
      subst hindex
      obtain ⟨field', attrs', hkept', hreadable, rfl⟩ :=
        mem_readsOf_iff.1 (List.mem_of_find?_eq_some hfound)
      rw [hkept, Option.some.injEq, Prod.mk.injEq] at hkept'
      obtain ⟨rfl, rfl⟩ := hkept'
      rw [if_pos hreadable]

theorem fieldAt_of_length_le (hreads : s.reads = readsOf kept) {index : Nat}
    (h : kept.length ≤ index) (read : String → Value) : s.fieldAt read index = .nil := by
  have hfound : (readsOf kept).find? (·.1 = index) = none := by
    refine List.find?_eq_none.2 fun (i, ident) hr => ?_
    obtain ⟨field, attrs, hkept, -⟩ := mem_readsOf_iff.1 hr
    have hlt := (List.getElem?_eq_some_iff.1 hkept).1
    rw [decide_eq_true_iff]
    omega
  rw [fieldAt, hreads, hfound]

/-! ## Alignment -/

/-- The definition is that of the field: its name is the new one or else the plain one, its aliases
are the merged ones in their order, and only a field that is public without restriction is
exported. -/
def Defines (d : FieldDef) (field : FieldDeclaration) (attrs : FieldAttributes) : Prop :=
  ∃ name, field.HasPlainName name
    ∧ d = ⟨attrs.rename.getD name, attrs.aliases, field.visibility = "pub", attrs.flatten⟩

theorem defines_definition (field : FieldDeclaration) (attrs : FieldAttributes) :
    Defines (field.definition attrs) field attrs :=
  ⟨field.plainName, field.hasPlainName_plainName, field.definition_eq attrs⟩

/-- The schema says of the fields that are kept, under the same numbers, how they are defined and
what is read of them. -/
structure AlignedWith (s : Schema) (kept : List (FieldDeclaration × FieldAttributes)) : Prop where
  length_eq : s.fields.length = kept.length
  /-- The definition with a number is that of the field with it. -/
  definition : ∀ (index : Nat) (field : FieldDeclaration) (attrs : FieldAttributes),
    kept[index]? = some (field, attrs) → ∃ d, s.fields[index]? = some d ∧ Defines d field attrs
  /-- What is answered for a number is what the field with it holds, if that may be read. -/
  answer : ∀ (read : String → Value) (index : Nat) (field : FieldDeclaration)
    (attrs : FieldAttributes), kept[index]? = some (field, attrs) →
      s.fieldAt read index = if IsReadable field attrs then read field.ident else .nil
  /-- Behind the last field there is nothing. -/
  beyond : ∀ read index, kept.length ≤ index → s.fieldAt read index = .nil
  /-- Whatever is read is read of a field that may be read. -/
  read_readable : ∀ index ident, (index, ident) ∈ s.reads →
    ∃ field attrs, kept[index]? = some (field, attrs) ∧ IsReadable field attrs ∧ field.ident = ident
  /-- A record holds the kept fields in their order, each under its own definition and with what it
  holds, if that may be read. -/
  record : ∀ identity read, ∃ entries, s.record identity read = .record identity entries
    ∧ List.Forall₂ (fun k entry => Defines entry.1 k.1 k.2
      ∧ entry.2 = if IsReadable k.1 k.2 then read k.1.ident else .nil) kept entries

theorem alignedWith_of_collects {d : Declaration} {parts : Parts} (h : Collects kept parts) :
    (ofParts d parts).AlignedWith kept := by
  have hdefinition : ∀ {index : Nat} {field attrs}, kept[index]? = some (field, attrs) →
      parts.definitions[index]? = some (field.definition attrs) := by
    intro index field attrs hkept
    rw [h.definitions, List.getElem?_map, hkept]
    rfl
  have hreads : (ofParts d parts).reads = readsOf kept := h.reads
  refine ⟨h.length_eq, ?_, ?_, ?_, ?_, ?_⟩
  · intro index field attrs hkept
    exact ⟨_, hdefinition hkept, defines_definition field attrs⟩
  · intro read index field attrs hkept
    exact fieldAt_of_kept hreads hkept read
  · intro read index hindex
    exact fieldAt_of_length_le hreads hindex read
  · intro index ident hread
    exact mem_readsOf_iff.1 (hreads ▸ hread)
  · intro identity read
    refine ⟨_, rfl, List.forall₂_iff_get.2 ⟨?_, ?_⟩⟩
    · rw [List.length_map, List.length_zipIdx]
      exact h.length_eq.symm
    · intro index hindex _
      have hkept : kept[index]? = some (kept[index].1, kept[index].2) :=
        List.getElem?_eq_getElem hindex
      obtain ⟨_, hentry⟩ := List.getElem?_eq_some_iff.1 (hdefinition hkept)
      simp only [List.get_eq_getElem, List.getElem_map, List.getElem_zipIdx, Nat.zero_add]
      exact ⟨hentry ▸ defines_definition _ _, fieldAt_of_kept hreads hkept read⟩

/-- Where no two fields have one name, nothing is read of a field that is left out or may not be
read. -/
theorem AlignedWith.not_mem_reads {fields : List FieldDeclaration}
    (h : s.AlignedWith (keptFields fields)) (hnames : (fields.map (·.ident)).Nodup)
    {field : FieldDeclaration} (hfield : field ∈ fields) {attrs : FieldAttributes}
    (hattrs : FieldAttributes.ofAttributes field.attributes = .ok attrs)
    (hhidden : attrs.skip = true ∨ ¬ IsReadable field attrs) (index : Nat) :
    (index, field.ident) ∉ s.reads := by
  intro hread
  obtain ⟨field', attrs', hkept, hreadable, hident⟩ := h.read_readable index field.ident hread
  obtain ⟨hfield', hattrs', hskip⟩ := mem_keptFields_iff.1 (List.mem_of_getElem? hkept)
  -- the field that is read has the same name, so it is the same field
  have hsame : field' = field := List.inj_on_of_nodup_map hnames hfield' hfield hident
  subst hsame
  rw [hattrs, Except.ok.injEq] at hattrs'
  subst hattrs'
  rcases hhidden with hskipped | hunreadable
  · rw [hskip] at hskipped
    cases hskipped
  · exact hunreadable hreadable

theorem ofDeclaration_eq_ok_iff {d : Declaration} {fields : List FieldDeclaration}
    (hshape : d.shape = .named fields) :
    ofDeclaration d = .ok s
      ↔ ∃ parts, fields.foldlM Parts.take Parts.initial = .ok parts ∧ ofParts d parts = s := by
  rw [ofDeclaration, hshape]
  simp only [Except.bind_eq_ok_iff]
  exact exists_congr fun _ => and_congr_right fun _ => ⟨Except.ok.inj, congrArg Except.ok⟩

theorem predicates_ofParts (d : Declaration) {parts : Parts} (h : Collects kept parts) :
    (ofParts d parts).predicates
      = d.predicates.map compact ++ if d.parameters = [] then [] else boundsOf kept := by
  simp only [ofParts, h.bounds, List.isEmpty_iff]

/-- **Definitions, reads and bounds belong together.** A structure with named fields has a schema
when the attributes of all its fields can be read. Its definitions and reads are those of the fields
that are kept, number by number; nothing is read of any other field; and the conditions are the
given ones, followed, where the type has parameters, by one bound for each field that is read. -/
theorem definitions_aligned_with_reads {d : Declaration} {fields : List FieldDeclaration}
    (hshape : d.shape = .named fields) :
    ((∃ s, ofDeclaration d = .ok s)
      ↔ ∀ field ∈ fields, ∃ attrs, FieldAttributes.ofAttributes field.attributes = .ok attrs)
    ∧ ∀ s, ofDeclaration d = .ok s →
        s.AlignedWith (keptFields fields)
        ∧ ((fields.map (·.ident)).Nodup → ∀ field ∈ fields, ∀ attrs,
            FieldAttributes.ofAttributes field.attributes = .ok attrs →
            attrs.skip = true ∨ ¬ IsReadable field attrs →
            ∀ index, (index, field.ident) ∉ s.reads)
        ∧ s.predicates = d.predicates.map compact
            ++ if d.parameters = [] then []
              else ((keptFields fields).filter fun k => IsReadable k.1 k.2).map
                fun k => compact k.1.type ++ ":::standout_filter::AsValue" := by
  simp only [ofDeclaration_eq_ok_iff hshape]
  constructor
  · rw [← exists_foldlM_take_iff Parts.initial]
    exact ⟨fun ⟨_, parts, hparts, _⟩ => ⟨parts, hparts⟩,
      fun ⟨parts, hparts⟩ => ⟨_, parts, hparts, rfl⟩⟩
  · rintro s ⟨parts, hparts, rfl⟩
    have hcollects : Collects (keptFields fields) parts := collects_initial.foldlM hparts
    have haligned := alignedWith_of_collects (d := d) hcollects
    exact ⟨haligned, fun hnames field hfield attrs hattrs hhidden =>
      haligned.not_mem_reads hnames hfield hattrs hhidden, predicates_ofParts d hcollects⟩

/-- A field that is left out stands before one with a new name, a private one and a private one that
is promoted. -/
theorem definitions_aligned_with_reads_of_account :
    let filter (items : List Item) : Item := .list ["filter"] (some items)
    let internal : FieldDeclaration := ⟨"internal", "u64", "pub", [filter [.bare ["skip"]]]⟩
    let kind : FieldDeclaration :=
      ⟨"r#type", "T", "pub", [filter [.list ["tag"] (some [.valued ["json"] (.text "kind")])]]⟩
    let secret : FieldDeclaration :=
      ⟨"secret", "U", "pub(crate)", [filter [.valued ["rename"] (.text "Secret")]]⟩
    let rest : FieldDeclaration :=
      ⟨"rest", "Vec < T >", "", [.list ["serde"] (some [.bare ["flatten"]])]⟩
    let fields := [internal, kind, secret, rest]
    let d : Declaration := ⟨"Account", [.type "T", .type "U"], ["T: Clone"], .named fields⟩
    let s : Schema := ⟨[⟨"type", [("json", "kind")], true, false⟩, ⟨"Secret", [], false, false⟩,
      ⟨"rest", [], false, true⟩], [(0, "r#type"), (2, "rest")], "Account<T,U>",
      ["T:Clone", "T:::standout_filter::AsValue", "Vec<T>:::standout_filter::AsValue"]⟩
    ofDeclaration d = .ok s
      ∧ s.fieldAt .string 2 = .string "rest" ∧ s.fieldAt .string 3 = .nil
      ∧ (0, "internal") ∉ s.reads ∧ (1, "secret") ∉ s.reads
      ∧ s.predicates
        = ["T:Clone", "T:::standout_filter::AsValue", "Vec<T>:::standout_filter::AsValue"] := by
  intro filter internal kind secret rest fields d s
  have hs : ofDeclaration d = .ok s := by cbv
  have hshape : d.shape = .named fields := rfl
  obtain ⟨-, haligned⟩ := definitions_aligned_with_reads hshape
  obtain ⟨hkept, hhidden, hpredicates⟩ := haligned s hs
  have hnames : (fields.map (·.ident)).Nodup := by decide
  refine ⟨hs, hkept.answer .string 2 rest _ rfl, hkept.beyond .string 3 (by decide),
    hhidden hnames internal (by simp [fields]) _ rfl (.inl rfl) 0,
    hhidden hnames secret (by simp [fields]) _ rfl (.inr (by decide)) 1, ?_⟩
  exact hpredicates.trans (by cbv)

end RuleFilter.Schema
