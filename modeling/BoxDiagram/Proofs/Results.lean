import Mathlib.Tactic.Use

/-!
# Results that are no errors

A step after another succeeds if both do, a function succeeds throughout a list if it does so for
every element, and what succeeds has taken the results of its steps.
-/

namespace BoxDiagram

variable {ε α β : Type} {p : Prop}

/-- A result is no error. -/
def Succeeds (e : Except ε α) : Prop := ∃ a, e = .ok a

theorem succeeds_ok (a : α) :
  Succeeds (.ok a : Except ε α)
  := ⟨a, rfl⟩

theorem not_succeeds_error (error : ε) :
  ¬ Succeeds (.error error : Except ε α)
  := by
  rintro ⟨a, ha⟩
  contradiction

theorem isOk_iff {e : Except ε α} :
  e.isOk = true ↔ ∃ a, e = .ok a
  := by
  cases e <;> simp [Except.isOk, Except.toBool]

/-- One step after another succeeds if both do, where the second does so for any result of the
first. -/
theorem succeeds_bind_iff {e : Except ε α} {f : α → Except ε β} (h : ∀ a, Succeeds (f a) ↔ p) :
  Succeeds (e >>= f) ↔ Succeeds e ∧ p
  := by
  cases e with
  | error error =>
      have herror : (Except.error error >>= f) = .error error := rfl
      simp [herror, not_succeeds_error]
  | ok a =>
      have hok : (Except.ok a >>= f) = f a := rfl
      simp [hok, succeeds_ok, h]

/-- A step that only uses the result of the one before it does not fail. -/
theorem succeeds_bind_ok_iff {e : Except ε α} {f : α → Except ε β} (h : ∀ a, Succeeds (f a)) :
  Succeeds (e >>= f) ↔ Succeeds e
  := by
  rw [succeeds_bind_iff fun a => iff_of_true (h a) trivial, and_true]

theorem succeeds_map_iff {e : Except ε α} {f : α → β} :
  Succeeds (f <$> e) ↔ Succeeds e
  := by
  cases e with
  | error error =>
      have herror : (f <$> Except.error error : Except ε β) = .error error := rfl
      simp [herror, not_succeeds_error]
  | ok a =>
      have hok : (f <$> Except.ok a : Except ε β) = .ok (f a) := rfl
      simp [hok, succeeds_ok]

/-- A function succeeds throughout a list if it does so for every element. -/
theorem succeeds_mapM_iff {f : α → Except ε β} (xs : List α) :
  Succeeds (xs.mapM f) ↔ ∀ x ∈ xs, Succeeds (f x)
  := by
  induction xs with
  | nil => simp [succeeds_ok, pure, Except.pure]
  | cons x xs ih =>
      rw [List.mapM_cons, List.forall_mem_cons, ← ih]
      apply succeeds_bind_iff
      intro y
      apply succeeds_bind_ok_iff
      intro ys
      apply succeeds_ok

theorem bind_eq_ok {e : Except ε α} {f : α → Except ε β} {b : β}
    (h : e >>= f = .ok b) :
  ∃ a, e = .ok a ∧ f a = .ok b
  := by
  cases e with
  | error error => contradiction
  | ok a => use a, rfl, h

theorem map_eq_ok {e : Except ε α} {f : α → β} {b : β} (h : f <$> e = .ok b) :
  ∃ a, e = .ok a ∧ f a = b
  := by
  cases e with
  | error error => contradiction
  | ok a => use a, rfl, Except.ok.inj h

end BoxDiagram
