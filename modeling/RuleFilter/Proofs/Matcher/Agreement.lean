import RuleFilter.Processor.Matcher
import RuleFilter.Proofs.Path.Search

set_option autoImplicit false

/-! # Matchers that agree

A matcher sees of an element only where paths lead and what predicates say of the values there. So
two elements, each with an alias source, have the same answer, errors included, when every path
leads to values that no predicate tells apart. -/

namespace RuleFilter

open FieldPath (Search)

variable {rel : Value → Value → Prop} {s s' : Option String} {v v' : Value}

/-- No predicate tells related values apart, also not by failing. -/
def Predicate.Respects (rel : Value → Value → Prop) : Prop :=
  ∀ u u' : Value, rel u u' → ∀ p : Predicate, p.test u = p.test u'

theorem Condition.holds_eq_of_agree {c : Condition}
    (hpath : Search.Agree rel (c.path.resolve s v) (c.path.resolve s' v'))
    (htest : Predicate.Respects rel) : c.holds s v = c.holds s' v' := by
  rw [holds, holds]
  generalize c.path.resolve s v = x, c.path.resolve s' v' = x' at hpath
  cases hpath with
  | error e => rfl
  | nothing => rfl
  | found h => exact htest _ _ h c.predicate

namespace Matcher

theorem anyHolds_congr {group : List Condition}
    (h : ∀ c : Condition, c.holds s v = c.holds s' v') :
    anyHolds s v group = anyHolds s' v' group := by
  induction group with
  | nil => rfl
  | cons c cs ih => rw [anyHolds, anyHolds, h c, ih]

theorem allHold_congr {groups : List (List Condition)}
    (h : ∀ c : Condition, c.holds s v = c.holds s' v') :
    allHold s v groups = allHold s' v' groups := by
  induction groups with
  | nil => rfl
  | cons group groups ih => rw [allHold, allHold, anyHolds_congr h, ih]

/-- Elements from which paths lead to values that no predicate tells apart have the same answer. -/
theorem accepts_eq_of_agree
    (hpath : ∀ p : FieldPath, Search.Agree rel (p.resolve s v) (p.resolve s' v'))
    (htest : Predicate.Respects rel) (groups : List (List Condition)) :
    accepts ⟨groups, s⟩ v = accepts ⟨groups, s'⟩ v' :=
  allHold_congr fun c => c.holds_eq_of_agree (hpath c.path) htest

end Matcher

end RuleFilter
