import Mathlib.Data.List.Forall2

set_option autoImplicit false

/-! # Going through a list

Rules, groups and elements are gone through in order, and where the walk stops decides the answer.
`Reaches` names the place where it stops: everything before it was passed. A traversal that may fail
(`List.mapM` in `Except`) answers with the error of the first element that fails, also when it runs
over lists of lists. Two lists that are gone through side by side are related place by place
(`List.Forall₂`), so what is in the one has a partner in the other (`exists_mem_of_forall₂`). -/

namespace RuleFilter

variable {α β γ ε : Type}

/-! ## Where a walk stops -/

/-- Going through a list past everything that is `passed` arrives at `x`. -/
def Reaches (passed : α → Prop) (xs : List α) (x : α) : Prop :=
  ∃ before after, xs = before ++ x :: after ∧ ∀ y ∈ before, passed y

@[simp] theorem reaches_nil (passed : α → Prop) (x : α) : ¬ Reaches passed [] x := by
  rintro ⟨before, after, h, _⟩
  simp at h

@[simp] theorem reaches_cons (passed : α → Prop) (x y : α) (ys : List α) :
    Reaches passed (y :: ys) x ↔ x = y ∨ passed y ∧ Reaches passed ys x := by
  constructor
  · rintro ⟨before, after, h, hpassed⟩
    cases before with
    | nil =>
        simp only [List.nil_append, List.cons.injEq] at h
        exact Or.inl h.1.symm
    | cons z before =>
        simp only [List.cons_append, List.cons.injEq] at h
        obtain ⟨rfl, rfl⟩ := h
        exact Or.inr ⟨hpassed y (List.mem_cons_self ..), before, after, rfl,
          fun z hz => hpassed z (List.mem_cons_of_mem _ hz)⟩
  · rintro (rfl | ⟨hy, before, after, rfl, hpassed⟩)
    · exact ⟨[], ys, rfl, by simp⟩
    · refine ⟨y :: before, after, rfl, fun z hz => ?_⟩
      rcases List.mem_cons.1 hz with rfl | hz
      · exact hy
      · exact hpassed z hz

theorem Reaches.mem {passed : α → Prop} {xs : List α} {x : α} (h : Reaches passed xs x) :
    x ∈ xs := by
  obtain ⟨before, after, rfl, _⟩ := h
  simp

/-- A walk stops at the first element where it may, or passes it and stops further on. -/
theorem exists_reaches_cons {passed stop : α → Prop} {y : α} {ys : List α} :
    (∃ x, Reaches passed (y :: ys) x ∧ stop x)
      ↔ stop y ∨ passed y ∧ ∃ x, Reaches passed ys x ∧ stop x := by
  simp only [reaches_cons]
  constructor
  · rintro ⟨x, rfl | ⟨hy, hx⟩, hstop⟩
    · exact Or.inl hstop
    · exact Or.inr ⟨hy, x, hx, hstop⟩
  · rintro (hstop | ⟨hy, x, hx, hstop⟩)
    · exact ⟨y, Or.inl rfl, hstop⟩
    · exact ⟨x, Or.inr ⟨hy, hx⟩, hstop⟩

/-! ## Two lists side by side -/

/-- What is in the first list is related to something in the second. -/
theorem exists_mem_of_forall₂ {R : α → β → Prop} {xs : List α} {ys : List β}
    (h : List.Forall₂ R xs ys) {x : α} (hx : x ∈ xs) : ∃ y ∈ ys, R x y := by
  induction h with
  | nil => exact absurd hx List.not_mem_nil
  | @cons x' y' xs' ys' hhead _ ih =>
      rcases List.mem_cons.1 hx with rfl | hx
      · exact ⟨y', List.mem_cons_self, hhead⟩
      · obtain ⟨y, hy, hrel⟩ := ih hx
        exact ⟨y, List.mem_cons_of_mem _ hy, hrel⟩

/-- A list has a related one when everything in it is related to something. -/
theorem exists_forall₂_iff {R : α → β → Prop} {xs : List α} :
    (∃ ys, List.Forall₂ R xs ys) ↔ ∀ x ∈ xs, ∃ y, R x y := by
  constructor
  · rintro ⟨ys, h⟩ x hx
    obtain ⟨y, -, hy⟩ := exists_mem_of_forall₂ h hx
    exact ⟨y, hy⟩
  · intro h
    induction xs with
    | nil => exact ⟨[], .nil⟩
    | cons x xs ih =>
        rw [List.forall_mem_cons] at h
        obtain ⟨y, hy⟩ := h.1
        obtain ⟨ys, hys⟩ := ih h.2
        exact ⟨y :: ys, .cons hy hys⟩

/-- Lists stay related when what is in the first one is also related otherwise. -/
theorem forall₂_imp_of_mem {R S : α → β → Prop} {xs : List α} {ys : List β}
    (h : List.Forall₂ R xs ys) (himp : ∀ x ∈ xs, ∀ y, R x y → S x y) : List.Forall₂ S xs ys := by
  refine ((List.forall₂_and_left xs ys).2 ⟨himp, h⟩).imp ?_
  rintro x y ⟨himp, hxy⟩
  exact himp y hxy

/-- Relations between lists are composed place by place. -/
theorem forall₂_comp_of_mem {R : α → β → Prop} {S : β → γ → Prop} {T : α → γ → Prop} {xs : List α}
    {ys : List β} {zs : List γ} (hR : List.Forall₂ R xs ys) (hS : List.Forall₂ S ys zs)
    (hcomp : ∀ x ∈ xs, ∀ y z, R x y → S y z → T x z) : List.Forall₂ T xs zs := by
  induction hR generalizing zs with
  | nil =>
      cases hS
      exact .nil
  | @cons x y xs ys hxy _ ih =>
      cases hS with
      | cons hyz hS =>
          rw [List.forall_mem_cons] at hcomp
          exact .cons (hcomp.1 _ _ hxy hyz) (ih hS hcomp.2)

/-! ## Traversals that may fail -/

theorem Except.map_eq_ok_iff {f : α → β} {x : Except ε α} {b : β} :
    x.map f = .ok b ↔ ∃ a, x = .ok a ∧ f a = b := by
  cases x <;> simp [Except.map]

theorem Except.map_eq_error_iff {f : α → β} {x : Except ε α} {e : ε} :
    x.map f = .error e ↔ x = .error e := by
  cases x <;> simp [Except.map]

theorem Except.bind_eq_ok_iff {x : Except ε α} {f : α → Except ε β} {b : β} :
    x >>= f = .ok b ↔ ∃ a, x = .ok a ∧ f a = .ok b := by
  cases x <;> simp [bind, Except.bind]

theorem Except.bind_eq_error_iff {x : Except ε α} {f : α → Except ε β} {e : ε} :
    x >>= f = .error e ↔ x = .error e ∨ ∃ a, x = .ok a ∧ f a = .error e := by
  cases x <;> simp [bind, Except.bind]

/-- A traversal succeeds when every element does. -/
theorem mapM_eq_ok_iff (f : α → Except ε β) (xs : List α) (ys : List β) :
    xs.mapM f = .ok ys ↔ List.Forall₂ (fun x y => f x = .ok y) xs ys := by
  induction xs generalizing ys with
  | nil => cases ys <;> simp [pure, Except.pure]
  | cons x xs ih =>
      rw [List.mapM_cons]
      simp only [Except.bind_eq_ok_iff, ih]
      constructor
      · rintro ⟨y, hy, ys, hys, h⟩
        cases h
        exact .cons hy hys
      · rintro (_ | ⟨hy, hys⟩)
        exact ⟨_, hy, _, hys, rfl⟩

/-- A traversal fails as its first element that fails. -/
theorem mapM_eq_error_iff (f : α → Except ε β) (xs : List α) (e : ε) :
    xs.mapM f = .error e ↔ ∃ x, Reaches (fun y => ∃ b, f y = .ok b) xs x ∧ f x = .error e := by
  induction xs with
  | nil => simp [pure, Except.pure]
  | cons x xs ih =>
      rw [List.mapM_cons]
      simp only [Except.bind_eq_error_iff, ih, exists_reaches_cons]
      constructor
      · rintro (hx | ⟨y, hy, hz | ⟨_, _, h⟩⟩)
        · exact Or.inl hx
        · exact Or.inr ⟨⟨y, hy⟩, hz⟩
        · cases h
      · rintro (hx | ⟨⟨y, hy⟩, hz⟩)
        · exact Or.inl hx
        · exact Or.inr ⟨y, hy, Or.inl hz⟩

/-- A traversal of lists of lists is that of their concatenation. -/
theorem mapM_flatten (f : α → Except ε β) (xss : List (List α)) :
    xss.flatten.mapM f = (xss.mapM (List.mapM f)).map List.flatten := by
  induction xss with
  | nil => rfl
  | cons xs xss ih =>
      rw [List.flatten_cons, List.mapM_append, ih, List.mapM_cons]
      cases xs.mapM f with
      | error e => rfl
      | ok ys =>
          cases xss.mapM (List.mapM f) with
          | error e => rfl
          | ok yss => rfl

/-! ## Values under a condition -/

/-- The value is there where the condition holds, and there is none elsewhere. -/
structure GivesWhen {α : Type} (x : Option α) (p : Prop) (a : α) : Prop where
  eq_some : p → x = some a
  eq_none : ¬ p → x = none

namespace GivesWhen

theorem always (a : α) : GivesWhen (some a) True a :=
  ⟨fun _ => rfl, fun h => absurd trivial h⟩

theorem never {p : Prop} (h : ¬ p) (a : α) : GivesWhen none p a :=
  ⟨fun hp => absurd hp h, fun _ => rfl⟩

theorem congr {x : Option α} {p q : Prop} {a : α} (h : GivesWhen x p a) (hpq : p ↔ q) :
    GivesWhen x q a :=
  ⟨fun hq => h.eq_some (hpq.2 hq), fun hq => h.eq_none fun hp => hq (hpq.1 hp)⟩

theorem bind {x : Option α} {p q : Prop} {a : α} {f : α → Option β} {b : β} (h : GivesWhen x p a)
    (hf : p → GivesWhen (f a) q b) : GivesWhen (x.bind f) (p ∧ q) b := by
  constructor
  · rintro ⟨hp, hq⟩
    rw [h.eq_some hp]
    exact (hf hp).eq_some hq
  · intro hpq
    by_cases hp : p
    · rw [h.eq_some hp]
      exact (hf hp).eq_none fun hq => hpq ⟨hp, hq⟩
    · rw [h.eq_none hp]
      rfl

theorem map {x : Option α} {p : Prop} {a : α} (h : GivesWhen x p a) (f : α → β) :
    GivesWhen (x.map f) p (f a) :=
  ⟨fun hp => by rw [h.eq_some hp, Option.map_some], fun hp => by rw [h.eq_none hp, Option.map_none]⟩

/-- The condition and the value decide what there is. -/
theorem unique {x y : Option α} {p : Prop} {a : α} (hx : GivesWhen x p a) (hy : GivesWhen y p a) :
    x = y := by
  by_cases hp : p
  · rw [hx.eq_some hp, hy.eq_some hp]
  · rw [hx.eq_none hp, hy.eq_none hp]

theorem mapM {f : α → Option β} {p : α → Prop} {g : α → β} {xs : List α}
    (h : ∀ x ∈ xs, GivesWhen (f x) (p x) (g x)) :
    GivesWhen (xs.mapM f) (∀ x ∈ xs, p x) (xs.map g) := by
  induction xs with
  | nil => exact ⟨fun _ => rfl, fun hnil => absurd nofun hnil⟩
  | cons x xs ih =>
      have hx := h x List.mem_cons_self
      have hxs := ih fun y hy => h y (List.mem_cons_of_mem _ hy)
      rw [List.mapM_cons]
      refine (hx.bind fun _ => hxs.bind fun _ => always (g x :: xs.map g)).congr ?_
      rw [List.forall_mem_cons, and_true]

theorem foldlM {f : β → α → Option β} {p : α → Prop} {g : β → α → β} {xs : List α}
    (h : ∀ x ∈ xs, ∀ b, GivesWhen (f b x) (p x) (g b x)) (b : β) :
    GivesWhen (xs.foldlM f b) (∀ x ∈ xs, p x) (xs.foldl g b) := by
  induction xs generalizing b with
  | nil => exact ⟨fun _ => rfl, fun hnil => absurd nofun hnil⟩
  | cons x xs ih =>
      have hx := h x List.mem_cons_self b
      have hxs := ih (fun y hy => h y (List.mem_cons_of_mem _ hy)) (g b x)
      rw [List.foldlM_cons, List.foldl_cons]
      exact (hx.bind fun _ => hxs).congr List.forall_mem_cons.symm

end GivesWhen

end RuleFilter
