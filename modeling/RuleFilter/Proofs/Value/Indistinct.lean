import RuleFilter.Predicate

set_option autoImplicit false

/-! # What predicates ask of a value

A predicate does not look at a value as a whole. It asks for the kind, for the text of a text, for
the place in the order of a double, and for equality with a reference. Values that answer these
questions alike (`Value.Indistinct`) are the same to every predicate
(`Predicate.test_eq_of_indistinct`). -/

namespace RuleFilter

/-- All that predicates ask has the same answer for both values. -/
structure Value.Indistinct (v v' : Value) : Prop where
  kind : v.kind = v'.kind
  string? : v.string? = v'.string?
  order : ∀ x, v.operand?.bind (·.compare x) = v'.operand?.bind (·.compare x)
  equals : ∀ r, v.equals r = v'.equals r

theorem Value.Indistinct.refl (v : Value) : v.Indistinct v :=
  ⟨rfl, rfl, fun _ => rfl, fun _ => rfl⟩

/-- A test of texts looks at the kind, and at the text if there is one. -/
theorem Predicate.text_test_eq (t : TextTest) (reference : String) (v : Value) :
    (text t reference).test v
      = match v.string? with
        | some s => .ok (t.holds s reference)
        | none => if v.kind = .nil then .ok false else .error (.notText t.operator v.kind) := by
  cases v <;> rfl

/-- No predicate tells indistinct values apart. -/
theorem Predicate.test_eq_of_indistinct {v v' : Value} (h : v.Indistinct v') (p : Predicate) :
    p.test v = p.test v' := by
  induction p with
  | equal r => rw [test, test, h.equals]
  | order t x => rw [test, test, h.order]
  | pattern p => rw [test, test, h.string?]
  | text t reference => rw [text_test_eq, text_test_eq, h.string?, h.kind]
  | not inner ih => rw [test, test, ih]

end RuleFilter
