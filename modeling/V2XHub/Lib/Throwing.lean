import Mathlib.Logic.Basic

/-!
# Computations that throw and keep their state

A computation over a state that may throw, with no rollback, is a function `σ → Except σ σ`: the
error is the state at the time of the throw. What such a computation does to its state is a relation
between the state before and the state it ends with, returned or thrown. The rules below find it
from the parts.
-/

namespace V2XHub.Lib

variable {σ α : Type}

/-- The state that a computation ends with. -/
def final : Except σ σ → σ
  | .ok s => s
  | .error s => s

theorem bind_eq_ok {ε β : Type} {x : Except ε α} {f : α → Except ε β} {b : β} :
    x >>= f = .ok b ↔ ∃ a, x = .ok a ∧ f a = .ok b := by
  cases x with
  | error e =>
      constructor
      · intro h
        cases h
      · rintro ⟨a, h, -⟩
        cases h
  | ok a =>
      constructor
      · intro h
        exact ⟨a, rfl, h⟩
      · rintro ⟨a', ha, h⟩
        cases ha
        exact h

theorem final_bind {R : σ → σ → Prop} (htrans : ∀ s t u, R s t → R t u → R s u) {s : σ}
    {x : Except σ σ} {f : σ → Except σ σ} (hx : R s (final x))
    (hf : ∀ t, x = .ok t → R t (final (f t))) : R s (final (x >>= f)) := by
  cases x with
  | ok t => exact htrans s t _ hx (hf t rfl)
  | error t => exact hx

theorem final_foldlM {R : σ → σ → Prop} (hrefl : ∀ s, R s s)
    (htrans : ∀ s t u, R s t → R t u → R s u) {f : σ → α → Except σ σ}
    (hstep : ∀ s a, R s (final (f s a))) (l : List α) (s : σ) : R s (final (l.foldlM f s)) := by
  induction l generalizing s with
  | nil => exact hrefl s
  | cons a l ih =>
      rw [List.foldlM_cons]
      exact final_bind htrans (hstep s a) fun t _ => ih t

/-- Where no part throws, the whole does not. -/
theorem exists_foldlM_eq_ok {P : σ → Prop} {f : σ → α → Except σ σ}
    (hstep : ∀ s a, P s → ∃ t, f s a = .ok t ∧ P t) (l : List α) {s : σ} (hs : P s) :
    ∃ t, l.foldlM f s = .ok t ∧ P t := by
  induction l generalizing s with
  | nil => exact ⟨s, rfl, hs⟩
  | cons a l ih =>
      obtain ⟨t, ht, hPt⟩ := hstep s a hs
      rw [List.foldlM_cons, ht]
      exact ih hPt

end V2XHub.Lib
