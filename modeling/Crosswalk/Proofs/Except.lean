import Mathlib.Data.List.Forall2
import Mathlib.Tactic.Common

/-!
# Steps that may fail

What is known of the steps of a computation that may fail, when it has a result and when it fails.
-/

namespace Crosswalk

variable {ε α β : Type}

theorem bind_eq_ok {x : Except ε α} {f : α → Except ε β} {b : β} :
    (x >>= f) = .ok b ↔ ∃ a, x = .ok a ∧ f a = .ok b := by
  cases x <;> simp [bind, Except.bind]

theorem map_eq_ok {x : Except ε α} {f : α → β} {b : β} :
    x.map f = .ok b ↔ ∃ a, x = .ok a ∧ f a = b := by
  cases x <;> simp [Except.map]

theorem mapError_eq_ok {ε' : Type} {x : Except ε α} {f : ε → ε'} {a : α} :
    x.mapError f = .ok a ↔ x = .ok a := by
  cases x <;> simp [Except.mapError]

theorem bind_eq_error {x : Except ε α} {f : α → Except ε β} {e : ε} :
    (x >>= f) = .error e ↔ x = .error e ∨ ∃ a, x = .ok a ∧ f a = .error e := by
  cases x <;> simp [bind, Except.bind]

theorem map_eq_error {x : Except ε α} {f : α → β} {e : ε} : x.map f = .error e ↔ x = .error e := by
  cases x <;> simp [Except.map]

theorem mapError_eq_error {ε' : Type} {x : Except ε α} {f : ε → ε'} {e' : ε'} :
    x.mapError f = .error e' ↔ ∃ e, x = .error e ∧ f e = e' := by
  cases x <;> simp [Except.mapError]

/-! ## A step for each item of a list -/

/-- Steps for the items of a list have results if each of them has one. -/
theorem mapM_eq_ok_iff {f : α → Except ε β} {as : List α} {bs : List β} :
    as.mapM f = .ok bs ↔ List.Forall₂ (fun a b => f a = .ok b) as bs := by
  induction as generalizing bs with
  | nil => simp [pure, Except.pure, eq_comm]
  | cons a as ih =>
    simp only [List.mapM_cons, bind_eq_ok, ih, pure, Except.pure, Except.ok.injEq,
      List.forall₂_cons_left_iff]
    constructor
    · rintro ⟨b, hb, bs, hbs, rfl⟩
      exact ⟨b, bs, hb, hbs, rfl⟩
    · rintro ⟨b, bs, hb, hbs, rfl⟩
      exact ⟨b, hb, bs, hbs, rfl⟩

/-- Steps for the items of a list fail at the first one that does. -/
theorem mapM_eq_error_iff {f : α → Except ε β} {as : List α} {e : ε} :
    as.mapM f = .error e ↔
      ∃ before a after bs, as = before ++ a :: after ∧ before.mapM f = .ok bs ∧ f a = .error e := by
  induction as with
  | nil => simp [pure, Except.pure]
  | cons a as ih =>
    have hdone (b : β) (bs : List β) : (pure (b :: bs) : Except ε (List β)) ≠ .error e := by
      simp [pure, Except.pure]
    rw [List.mapM_cons, bind_eq_error]
    simp only [bind_eq_error, hdone, and_false, exists_false, or_false, ih]
    constructor
    · rintro (h | ⟨b, hb, before, a', after, bs, rfl, hbs, h⟩)
      · exact ⟨[], a, as, [], rfl, rfl, h⟩
      · refine ⟨a :: before, a', after, b :: bs, rfl, ?_, h⟩
        rw [mapM_eq_ok_iff] at hbs ⊢
        exact .cons hb hbs
    · rintro ⟨before, a', after, bs, heq, hbs, h⟩
      cases before with
      | nil =>
        cases heq
        exact .inl h
      | cons a before =>
        cases heq
        rw [mapM_eq_ok_iff] at hbs
        cases hbs with
        | cons hb hbs => exact .inr ⟨_, hb, before, a', after, _, rfl, mapM_eq_ok_iff.2 hbs, h⟩

end Crosswalk
