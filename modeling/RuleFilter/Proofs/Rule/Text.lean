import RuleFilter.Proofs.Reference.Numerals
import RuleFilter.Proofs.Rule.Document

set_option autoImplicit false

/-! # The texts of rule sets

A rule set is decoded from every text that the grammar has for a document of its form, whatever
blanks, escapes and other members the text has. What the values of the rules are is decided by the
numbers that are read for the numerals in them. These are not always the nearest doubles, since the
digits of a numeral are rounded to a double before they are multiplied or divided by a power of ten
(`RuleSet.ofText_of_document`, `RuleSet.ofText_ne_ofDocument_nearest`). -/

namespace RuleFilter

open Json (Written WrittenNumber)

variable {f g : WrittenNumber → Number}

/-! ## Rules -/

def Json.Written.items : Written → List Written
  | .array items => items
  | _ => []

theorem Json.items_json (d : Written) : (d.json f).items = d.items.map (Written.json f) := by
  cases d with
  | array items => exact Json.jsonItems_eq_map f items
  | _ => rfl

theorem Json.json_mem_items {d i : Written} (h : i ∈ d.items) : i.json f ∈ (d.json f).items := by
  rw [items_json]
  exact List.mem_map_of_mem h

theorem Json.isArrayOf_json_iff {p : Json → Prop} (hp : ∀ d : Written, p (d.json f) ↔ p (d.json g))
    (d : Written) : (d.json f).IsArrayOf p ↔ (d.json g).IsArrayOf p := by
  cases d with
  | array items =>
      simp only [Written.json, IsArrayOf, jsonItems_eq_map, List.forall_mem_map]
      exact forall₂_congr fun d _ => hp d
  | _ => rfl

theorem Json.isString_json_iff (d : Written) : (d.json f).IsString ↔ (d.json g).IsString := by
  cases d <;> simp [Written.json, IsString]

namespace Rule

/-- The part of a rule as it is written. -/
def writtenPart (key : String) (place : Nat) : Written → Option Written
  | .object members => members.lookup key
  | .array parts => parts[place]?
  | _ => none

theorem part_json (key : String) (place : Nat) (d : Written) :
    part key place (d.json f) = (writtenPart key place d).map (Written.json f) := by
  cases d with
  | object members => exact Json.lookup_jsonMembers members key
  | array parts =>
      rw [Written.json, part, Json.jsonItems_eq_map, List.getElem?_map]
      rfl
  | _ => rfl

theorem forall_mem_part_iff {key : String} {place : Nat} {d : Written} {p : Json → Prop} :
    (∀ j ∈ part key place (d.json f), p j) ↔ ∀ d' ∈ writtenPart key place d, p (d'.json f) := by
  rw [part_json]
  cases writtenPart key place d <;> simp

/-- The form of a document of a rule has nothing to do with its numbers. -/
theorem isDocument_json_iff (d : Written) : IsDocument (d.json f) ↔ IsDocument (d.json g) := by
  have hpart : ∀ key place, (∀ j ∈ part key place (d.json f), j.IsString)
      ↔ ∀ j ∈ part key place (d.json g), j.IsString := by
    intro key place
    rw [forall_mem_part_iff, forall_mem_part_iff]
    exact forall₂_congr fun d' _ => Json.isString_json_iff d'
  cases d with
  | object members => exact and_congr (hpart "field" 0) (hpart "type" 1)
  | array parts =>
      refine and_congr ?_ (and_congr (hpart "field" 0) (hpart "type" 1))
      simp [Json.jsonItems_eq_map]
  | _ => rfl

/-- The numerals in the value of a rule. -/
def valueNumerals (d : Written) : List WrittenNumber :=
  ((writtenPart "value" 2 d).map Written.numerals).getD []

theorem givenText_map_json (part : Option Written) :
    Json.givenText (part.map (Written.json f)) = Json.givenText (part.map (Written.json g)) := by
  rcases part with _ | d
  · rfl
  · cases d <;> rfl

theorem distinctKeys_of_mem_part {key : String} {place : Nat} {j v : Json} (h : j.DistinctKeys)
    (hv : v ∈ part key place j) : v.DistinctKeys := by
  cases j with
  | object members => exact Json.distinctKeysMembers_iff.1 h.2 _ (mem_of_lookup_eq_some hv)
  | array parts => exact Json.distinctKeysItems_iff.1 h v (List.mem_of_getElem? hv)
  | _ => cases hv

theorem ofDocument_json_eq_iff {d : Written} (hkeys : (d.json f).DistinctKeys) :
    ofDocument (d.json f) = ofDocument (d.json g)
      ↔ ∀ n ∈ valueNumerals d, (f n).toDouble = (g n).toDouble := by
  have htext : ∀ key place, Json.givenText (part key place (d.json f))
      = Json.givenText (part key place (d.json g)) := by
    intro key place
    rw [part_json, part_json]
    exact givenText_map_json _
  have hvalue : ∀ v ∈ part "value" 2 (d.json f), v.DistinctKeys :=
    fun v hv => distinctKeys_of_mem_part hkeys hv
  simp only [ofDocument, ofGiven, mk.injEq, htext, true_and, valuePart, valueNumerals]
  rw [part_json] at hvalue
  rw [part_json, part_json]
  generalize writtenPart "value" 2 d = value at hvalue
  cases value with
  | none => exact iff_of_true rfl (List.forall_mem_nil _)
  | some v =>
      have hmeaning := Reference.ofJson_json_eq_iff (g := g) (hvalue _ rfl)
      exact OrderedReference.ext_iff.trans hmeaning

/-- Numbers are read for the value of a rule when they are read for its numerals. -/
theorem isFinite_valuePart_iff (d : Written) :
    (∀ v ∈ valuePart d.read, v.IsFinite) ↔ ∀ n ∈ valueNumerals d, n.number?.isSome = true := by
  refine forall_mem_part_iff.trans ?_
  rw [valueNumerals]
  cases writtenPart "value" 2 d with
  | none => exact iff_of_true (fun _ h => nomatch h) (List.forall_mem_nil _)
  | some v =>
      have hfinite := Json.isFinite_read_iff v
      exact ⟨fun h => hfinite.1 (h v rfl), fun h v' hv' => Option.some.inj hv' ▸ hfinite.2 h⟩

end Rule

/-! ## Rule sets -/

namespace RuleSet

/-- The numerals in the values of the rules. -/
def valueNumerals (d : Written) : List WrittenNumber :=
  d.items.flatMap fun group => group.items.flatMap Rule.valueNumerals

theorem forall_mem_valueNumerals_iff {d : Written} {p : WrittenNumber → Prop} :
    (∀ n ∈ valueNumerals d, p n)
      ↔ ∀ group ∈ d.items, ∀ rule ∈ group.items, ∀ n ∈ Rule.valueNumerals rule, p n := by
  simp only [valueNumerals, List.forall_mem_flatMap]

theorem isDocument_json_iff (d : Written) : IsDocument (d.json f) ↔ IsDocument (d.json g) :=
  Json.isArrayOf_json_iff (Json.isArrayOf_json_iff Rule.isDocument_json_iff) d

theorem isFinite_valueParts_iff (d : Written) :
    (∀ v ∈ valueParts d.read, v.IsFinite) ↔ ∀ n ∈ valueNumerals d, n.number?.isSome = true := by
  rw [forall_mem_valueParts_iff, forall_mem_valueNumerals_iff]
  simp only [Written.read, Json.items_json, List.forall_mem_map]
  exact forall₂_congr fun group _ => forall₂_congr fun rule _ => Rule.isFinite_valuePart_iff rule

theorem ofDocument_json_eq_iff {d : Written} (hkeys : (d.json f).DistinctKeys) :
    ofDocument (d.json f) = ofDocument (d.json g)
      ↔ ∀ n ∈ valueNumerals d, (f n).toDouble = (g n).toDouble := by
  simp only [ofDocument, Json.items_json, List.map_map, List.map_inj_left, Function.comp_apply,
    forall_mem_valueNumerals_iff]
  refine forall₂_congr fun group hgroup => forall₂_congr fun rule hrule => ?_
  have hgroupKeys := hkeys.of_mem_items (Json.json_mem_items hgroup)
  exact Rule.ofDocument_json_eq_iff (hgroupKeys.of_mem_items (Json.json_mem_items hrule))

/-- The doubles that are read for the numerals of the values are the nearest ones just where the
rules that are read are those of the nearest doubles. -/
theorem ofDocument_read_eq_iff {d : Written} (hkeys : d.nearest.DistinctKeys)
    (hread : ∀ n ∈ valueNumerals d, n.number?.isSome = true) :
    ofDocument d.read = ofDocument d.nearest
      ↔ ∀ n ∈ valueNumerals d, n.number?.map Number.toDouble = some n.nearest := by
  refine (ofDocument_json_eq_iff ((Json.distinctKeys_json_iff d).1 hkeys)).trans ?_
  refine forall₂_congr fun n hn => ?_
  obtain ⟨x, hx⟩ := Option.isSome_iff_exists.1 (hread n hn)
  simp [WrittenNumber.read, hx, Number.toDouble]

/-- What stands for the values is taken for what it means. -/
theorem means_of_mem_valueParts {d : Json} (hkeys : d.DistinctKeys) :
    ∀ v ∈ valueParts d, v.Means (OrderedReference.ofJson v).reference := by
  rw [forall_mem_valueParts_iff]
  intro group hgroup rule hrule v hv
  have hruleKeys := (hkeys.of_mem_items hgroup).of_mem_items hrule
  exact Reference.means_ofJson (Rule.distinctKeys_of_mem_part hruleKeys hv)

theorem isSome_of_map_eq_nearest {numerals : List WrittenNumber}
    (h : ∀ n ∈ numerals, n.number?.map Number.toDouble = some n.nearest) :
    ∀ n ∈ numerals, n.number?.isSome = true := by
  intro n hn
  rw [← Option.isSome_map (f := Number.toDouble), h n hn]
  rfl

section

variable {d : Written} (hdepth : d.nearest.depth ≤ 127) (hkeys : d.nearest.DistinctKeys)
include hdepth hkeys

/-- The rules of a text are those of its document, with what is read for the numerals. -/
theorem decodesWhen_of_isText {text : String} (h : d.IsText text) :
    DecodesWhen text (IsDocument d.nearest ∧ ∀ n ∈ valueNumerals d, n.number?.isSome = true)
      (ofDocument d.read) := by
  have hreadDepth : d.read.depth < Json.nestingBudget := by
    rw [Written.read, Json.depth_json _ (fun n => .double n.nearest)]
    exact Nat.lt_succ_of_le hdepth
  exact (decodesWhen_of_spells h.spells hreadDepth ((Json.distinctKeys_json_iff d).1 hkeys)).congr
    (and_congr (isDocument_json_iff d) (isFinite_valueParts_iff d))

/-- They are the rules of the nearest doubles where these are what is read. -/
theorem ofText_eq_ofDocument_nearest_iff {text : String} (h : d.IsText text) :
    ofText text = .ok (ofDocument d.nearest) ↔ IsDocument d.nearest
      ∧ ∀ n ∈ valueNumerals d, n.number?.map Number.toDouble = some n.nearest := by
  have hread := decodesWhen_of_isText hdepth hkeys h
  constructor
  · intro h
    obtain ⟨hdocument, hsome⟩ := hread.accepted_iff.1 ⟨_, h⟩
    have hrules := (hread.eq_ok ⟨hdocument, hsome⟩).symm.trans h
    exact ⟨hdocument, (ofDocument_read_eq_iff hkeys hsome).1 (Except.ok.inj hrules)⟩
  · rintro ⟨hdocument, hnumbers⟩
    have hsome := isSome_of_map_eq_nearest hnumbers
    rw [hread.eq_ok ⟨hdocument, hsome⟩, (ofDocument_read_eq_iff hkeys hsome).2 hnumbers]

/-- **What is decoded from the texts of a document.** The document has texts. Each of them is
accepted where the document is an array of arrays of documents of rules and a number is read for
every numeral in their values, and refused with an error of decoding elsewhere; the rules are those
of the document, in its order, with what is read for the numerals. They are the rules of the nearest
doubles, whose values are what the document means, where each numeral in a value is read as the
double nearest to it, and only there; so they are on documents in whose values every numeral is an
integer of 64 bits, or has few digits and a small power of ten. -/
theorem ofText_of_document :
    (∃ text, d.IsText text)
      ∧ (∀ v ∈ valueParts d.nearest, v.Means (OrderedReference.ofJson v).reference)
      ∧ ∀ text, d.IsText text →
        DecodesWhen text
            (IsDocument d.nearest ∧ ∀ n ∈ valueNumerals d, n.number?.isSome = true)
            (ofDocument d.read)
          ∧ (ofText text = .ok (ofDocument d.nearest) ↔ IsDocument d.nearest
            ∧ ∀ n ∈ valueNumerals d, n.number?.map Number.toDouble = some n.nearest)
          ∧ ((∀ n ∈ valueNumerals d, n.IsPlain ∨ n.decimal.IsShort) →
            DecodesWhen text (IsDocument d.nearest) (ofDocument d.nearest)) := by
  refine ⟨d.exists_isText, means_of_mem_valueParts hkeys, fun text htext => ?_⟩
  have hread := decodesWhen_of_isText hdepth hkeys htext
  refine ⟨hread, ofText_eq_ofDocument_nearest_iff hdepth hkeys htext, fun hshort => ?_⟩
  have hnumbers : ∀ n ∈ valueNumerals d, n.number?.map Number.toDouble = some n.nearest :=
    fun n hn =>
      (hshort n hn).elim WrittenNumber.toDouble_of_isPlain WrittenNumber.toDouble_of_isShort
  have hsome := isSome_of_map_eq_nearest hnumbers
  have hrules := (ofDocument_read_eq_iff hkeys hsome).2 hnumbers
  exact (hrules ▸ hread).congr (and_iff_left hsome)

end

/-- Blanks, an escape, a list of parts, and an unknown member with a numeral that is not read. -/
theorem ofText_of_document_mixed :
    let text := "[[ \x7b\"x\":9E+999,\n\"type\" :\"\\u003d=\",\"value\":[0.5]\x7d,[\"a\"]],[]]"
    ofText text = .ok
      [[⟨"", "==", .list [.number (.ofRatio false 1 2)]⟩, ⟨"a", "", .null⟩], []] := by
  intro text
  let half : WrittenNumber := ⟨false, [0], [5], none, by decide, by decide⟩
  let large : WrittenNumber := ⟨false, [9], [], some ⟨'E', some '+', [9, 9, 9], by decide,
    by simp, by decide⟩, by decide, by decide⟩
  let d : Written := .array [.array [.object [("x", .number large), ("type", .string "=="),
    ("value", .array [.number half])], .array [.string "a"]], .array []]
  have hchars : text.toList
      = ['[', '[', ' ', '\x7b', '"', 'x', '"', ':', '9', 'E', '+', '9', '9', '9', ',', '\n',
        '"', 't', 'y', 'p', 'e', '"', ' ', ':', '"', '\\', 'u', '0', '0', '3', 'd', '=', '"', ',',
        '"', 'v', 'a', 'l', 'u', 'e', '"', ':', '[', '0', '.', '5', ']', '\x7d', ',',
        '[', '"', 'a', '"', ']', ']', ',', '[', ']', ']'] := by decide
  have hunit (rest : List Char) : Json.WritesUnit (0x1000 * 0 + 0x100 * 0 + 0x10 * 3 + 13)
      ('0' :: '0' :: '3' :: 'd' :: rest) rest :=
    .digits (.inl rfl) (.inl rfl) (.inl rfl) (.inl rfl)
  have hequals (rest : List Char) : Json.Writes (.string "==")
      ('"' :: '\\' :: 'u' :: '0' :: '0' :: '3' :: 'd' :: '=' :: '"' :: rest) rest :=
    .string (.more (.unit (hunit _)) (Json.writesChars_self (s := ['=']) (by decide) rest))
  have hrule (rest : List Char) : Json.Writes (.array [.string "a"])
      ('[' :: '"' :: 'a' :: '"' :: ']' :: rest) rest :=
    .array .none (.string (Json.writesChars_self (s := ['a']) (by decide) _)) (.close .none)
  have hlarge (rest : List Char) : Json.WritesMember "x" (.number large)
      ('"' :: 'x' :: '"' :: ':' :: '9' :: 'E' :: '+' :: '9' :: '9' :: '9' :: rest) rest :=
    .colon (Json.writesChars_self (s := ['x']) (by decide) _) .none .none .number
  have htype (rest : List Char) : Json.WritesMember "type" (.string "==")
      ('"' :: 't' :: 'y' :: 'p' :: 'e' :: '"' :: ' ' :: ':' :: '"' :: '\\' :: 'u' :: '0' :: '0'
        :: '3' :: 'd' :: '=' :: '"' :: rest) rest :=
    .colon (Json.writesChars_self (s := ['t', 'y', 'p', 'e']) (by decide) _)
      (.blank (by decide) .none) .none (hequals rest)
  have hvalue (rest : List Char) : Json.WritesMember "value" (.array [.number half])
      ('"' :: 'v' :: 'a' :: 'l' :: 'u' :: 'e' :: '"' :: ':' :: '[' :: '0' :: '.' :: '5' :: ']'
        :: rest) rest :=
    .colon (Json.writesChars_self (s := ['v', 'a', 'l', 'u', 'e']) (by decide) _) .none .none
      (.array .none .number (.close .none))
  have htext : d.IsText text := by
    rw [Written.IsText, hchars]
    refine ⟨_, [], .none, .array .none (.array (.blank (by decide) .none) ?_
      (.comma .none .none (hrule _) (.close .none))) (.comma .none .none (.emptyArray .none)
        (.close .none)), .none⟩
    exact .object .none (hlarge _) (.comma .none (.blank (by decide) .none) (htype _)
      (.comma .none .none (hvalue _) (.close .none)))
  have hhalf : half.nearest = .ofRatio false 1 2 := by decide +kernel
  have hkeys : d.nearest.DistinctKeys := by
    simp [d, Written.nearest, Written.json, Written.jsonItems, Written.jsonMembers,
      Json.DistinctKeys, Json.DistinctKeysItems, Json.DistinctKeysMembers, KeysDistinct]
  have hdocument : IsDocument d.nearest := by
    simp [d, Written.nearest, Written.json, Written.jsonItems, Written.jsonMembers, IsDocument,
      Json.IsArrayOf, Rule.IsDocument, Json.IsString, lookup_cons_eq_ite]
  have hshort : ∀ n ∈ valueNumerals d, n.IsPlain ∨ n.decimal.IsShort :=
    List.forall_mem_singleton.2 (.inr (by decide))
  obtain ⟨-, -, hread⟩ := ofText_of_document (d := d) (by decide) hkeys
  obtain ⟨-, -, hnearest⟩ := hread text htext
  rw [(hnearest hshort).eq_ok hdocument, ← hhalf]
  rfl

/-- `3e23` is read as a double that is not the nearest one: it is the double nearest to three times
the double nearest to `10²³`. -/
theorem ofText_ne_ofDocument_nearest :
    let numeral : WrittenNumber := ⟨false, [3], [],
      some ⟨'e', none, [2, 3], by decide, by simp, by decide⟩, by decide, by decide⟩
    let d : Written := .array [.array [.object [("value", .number numeral)]]]
    let text := "[[\x7b\"value\":3e23\x7d]]"
    d.IsText text ∧ d.nearest.depth ≤ 127 ∧ d.nearest.DistinctKeys
      ∧ (∀ n ∈ d.numerals, n.nearest.isFinite = true) ∧ IsDocument d.nearest
      ∧ ofText text ≠ .ok (ofDocument d.nearest) := by
  intro numeral d text
  have hchars : text.toList = ['[', '[', '\x7b', '"', 'v', 'a', 'l', 'u', 'e', '"', ':',
      '3', 'e', '2', '3', '\x7d', ']', ']'] := by decide
  have htext : d.IsText text := by
    rw [Written.IsText, hchars]
    exact ⟨_, [], .none, .array .none (.array .none (.object .none
      (.colon (Json.writesChars_self (s := ['v', 'a', 'l', 'u', 'e']) (by decide) _) .none .none
        .number)
      (.close .none)) (.close .none)) (.close .none), .none⟩
  have hdepth : d.nearest.depth ≤ 127 := by decide
  have hkeys : d.nearest.DistinctKeys := by
    simp [d, Written.nearest, Written.json, Written.jsonItems, Written.jsonMembers,
      Json.DistinctKeys, Json.DistinctKeysItems, Json.DistinctKeysMembers, KeysDistinct]
  have hdocument : IsDocument d.nearest := by
    simp [d, Written.nearest, Written.json, Written.jsonItems, Written.jsonMembers, IsDocument,
      Json.IsArrayOf, Rule.IsDocument, lookup_cons_eq_ite]
  have hnumeral : numeral.nearest.isFinite = true
      ∧ numeral.number?.map Number.toDouble ≠ some numeral.nearest := by decide +kernel
  refine ⟨htext, hdepth, hkeys, List.forall_mem_singleton.2 hnumeral.1, hdocument, fun hread => ?_⟩
  obtain ⟨-, hnumbers⟩ := (ofText_eq_ofDocument_nearest_iff hdepth hkeys htext).1 hread
  exact hnumeral.2 (hnumbers numeral List.mem_cons_self)

end RuleSet

end RuleFilter
