import Mathlib.Data.List.Forall2

/-!
# The First Error Decides

A sequence of steps that can fail ends at its first error. Loading a
configuration is such a sequence, and so are the checks of all arguments, of
all properties and of the parts of one property. The lemmas here say of a
sequence when it succeeds, and which error it ends in.

## Theorems

* `bind_eq_ok`, `bind_eq_error`: Two steps in turn.
* `ok_or_error`: A step has a result or an error.
* `bind_congr_of_error`: Two steps in turn depend on the errors of the first.
* `mapM_eq_ok`, `mapM_eq_some_iff`: The same step at every item of a list
  succeeds.
* `mapM_eq_error`: It fails at the first item where it does.
-/

namespace PullTriage

section

variable {ε α β : Type}

theorem bind_eq_ok (x : Except ε α) (f : α → Except ε β) (b : β) :
    (x >>= f) = .ok b ↔ ∃ a, x = .ok a ∧ f a = .ok b := by
  cases x with
  | error e =>
      simp only [bind, Except.bind, reduceCtorEq, false_and, exists_false]
  | ok a =>
      simp only [bind, Except.bind, Except.ok.injEq, exists_eq_left']

theorem bind_eq_error (x : Except ε α) (f : α → Except ε β) (e : ε) :
    (x >>= f) = .error e ↔ x = .error e ∨ ∃ a, x = .ok a ∧ f a = .error e := by
  cases x with
  | error e' =>
      simp only [bind, Except.bind, Except.error.injEq, reduceCtorEq, false_and, exists_false,
        or_false]
  | ok a =>
      simp only [bind, Except.bind, reduceCtorEq, Except.ok.injEq, exists_eq_left', false_or]

theorem ok_or_error (x : Except ε α) : (∃ a, x = .ok a) ∨ ∃ e, x = .error e := by
  cases x with
  | error e => exact Or.inr ⟨e, rfl⟩
  | ok a => exact Or.inl ⟨a, rfl⟩

/-- If two first steps have the same errors, and what follows their results is
    the same, then it is the same as a whole. -/
theorem bind_congr_of_error {γ : Type} {x : Except ε α} {y : Except ε β}
    (f : α → Except ε γ) (g : β → Except ε γ) (herror : ∀ e, x = .error e ↔ y = .error e)
    (hok : ∀ a b, x = .ok a → y = .ok b → f a = g b) : (x >>= f) = (y >>= g) := by
  cases x with
  | error e =>
      rw [(herror e).mp rfl]
      rfl
  | ok a =>
      cases y with
      | error e =>
          have hx := (herror e).mpr rfl
          exact absurd hx (by simp only [reduceCtorEq, not_false_eq_true])
      | ok b => exact hok a b rfl rfl

/-- A step succeeds at a list if it does at every item, with the results in
    the order of the items. -/
theorem mapM_eq_ok (f : α → Except ε β) (l : List α) (r : List β) :
    l.mapM f = .ok r ↔ List.Forall₂ (fun a b => f a = .ok b) l r := by
  induction l generalizing r with
  | nil =>
      rw [List.mapM_nil, List.forall₂_nil_left_iff]
      exact ⟨fun h => (Except.ok.inj h).symm, fun h => h ▸ rfl⟩
  | cons a rest ih =>
      rw [List.mapM_cons, bind_eq_ok, List.forall₂_cons_left_iff]
      constructor
      · rintro ⟨b, hb, h⟩
        rcases (bind_eq_ok _ _ _).mp h with ⟨bs, hbs, h⟩
        exact ⟨b, bs, hb, (ih bs).mp hbs, (Except.ok.inj h).symm⟩
      · rintro ⟨b, bs, hb, hbs, rfl⟩
        exact ⟨b, hb, (bind_eq_ok _ _ _).mpr ⟨bs, (ih bs).mpr hbs, rfl⟩⟩

/-- The same without an error to tell. -/
theorem mapM_eq_some_iff (f : α → Option β) (l : List α) (r : List β) :
    l.mapM f = some r ↔ List.Forall₂ (fun a b => f a = some b) l r := by
  induction l generalizing r with
  | nil =>
      rw [List.mapM_nil, List.forall₂_nil_left_iff, Option.pure_def, Option.some.injEq, eq_comm]
  | cons a rest ih =>
      simp only [List.mapM_cons, Option.bind_eq_bind, Option.bind_eq_some_iff, Option.pure_def,
        Option.some.injEq, List.forall₂_cons_left_iff, ih]
      constructor
      · intro h
        rcases h with ⟨b, hb, bs, hbs, rfl⟩
        exact ⟨b, bs, hb, hbs, rfl⟩
      · intro h
        rcases h with ⟨b, bs, hb, hbs, rfl⟩
        exact ⟨b, hb, bs, hbs, rfl⟩

/-- A step that undoes another one, and finds nothing else, does so at a
    list. -/
theorem mapM_eq_some_iff_eq_map (f : α → Option β) (g : β → α)
    (h : ∀ a b, f a = some b ↔ a = g b) (l : List α) (r : List β) :
    l.mapM f = some r ↔ l = r.map g := by
  rw [mapM_eq_some_iff]
  simp only [h]
  rw [← List.forall₂_map_right_iff (R := fun a b => a = b), List.forall₂_eq_eq_eq]

/-- A step fails at a list with the error of the first item where it fails. -/
theorem mapM_eq_error (f : α → Except ε β) (l : List α) (e : ε) :
    l.mapM f = .error e ↔ ∃ before a after, l = before ++ a :: after ∧
      (∀ b ∈ before, ∃ c, f b = .ok c) ∧ f a = .error e := by
  induction l with
  | nil =>
      rw [List.mapM_nil]
      constructor
      · exact fun h => absurd h (by simp only [pure, Except.pure, reduceCtorEq, not_false_eq_true])
      · rintro ⟨before, a, after, h, -⟩
        exact absurd h.symm (List.append_ne_nil_of_right_ne_nil _ (List.cons_ne_nil _ _))
  | cons a rest ih =>
      rw [List.mapM_cons, bind_eq_error]
      -- The item that fails is the first one, or it is among the rest.
      constructor
      · rintro (ha | ⟨c, hc, h⟩)
        · exact ⟨[], a, rest, rfl, fun b hb => absurd hb List.not_mem_nil, ha⟩
        · rcases (bind_eq_error _ _ _).mp h with h | ⟨cs, -, h⟩
          · rcases ih.mp h with ⟨before, b, after, rfl, hbefore, hb⟩
            exact ⟨a :: before, b, after, rfl, List.forall_mem_cons.mpr ⟨⟨c, hc⟩, hbefore⟩, hb⟩
          · exact absurd h (by simp only [pure, Except.pure, reduceCtorEq, not_false_eq_true])
      · rintro ⟨before, b, after, hl, hbefore, hb⟩
        cases before with
        | nil =>
            rw [List.nil_append, List.cons.injEq] at hl
            exact Or.inl (hl.1 ▸ hb)
        | cons a' before =>
            rw [List.cons_append, List.cons.injEq] at hl
            rcases hbefore a' List.mem_cons_self with ⟨c, hc⟩
            refine Or.inr ⟨c, hl.1 ▸ hc, (bind_eq_error _ _ _).mpr (Or.inl ?_)⟩
            exact ih.mpr ⟨before, b, after, hl.2,
              fun x hx => hbefore x (List.mem_cons_of_mem _ hx), hb⟩

end

end PullTriage
