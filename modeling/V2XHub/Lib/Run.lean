import Mathlib.Logic.Basic

/-!
# Runs of labelled transition systems

A component with a state of its own is presented as a step relation `σ → ε → σ → Prop`: the label
says which atomic action is taken and with which outcome of the outside world. This module has the
two things all such components need: the runs of the relation, and the rule that turns "one step
preserves it" into "every state reached satisfies it".

`Guarded C step` is the same relation with the steps that violate `C` removed. A law that fails in
general and holds for well-behaved callers is a law about the runs of `Guarded C step`.
-/

namespace V2XHub.Lib

variable {σ ε : Type}

/-- `Run step s es t`: taking the labels `es` in order leads from `s` to `t`. -/
inductive Run (step : σ → ε → σ → Prop) : σ → List ε → σ → Prop
  | nil {s : σ} : Run step s [] s
  | cons {s t u : σ} {e : ε} {es : List ε} :
      step s e t → Run step t es u → Run step s (e :: es) u

/-- The steps of `step` taken in a state and with a label that satisfy `C`. -/
def Guarded (C : σ → ε → Prop) (step : σ → ε → σ → Prop) : σ → ε → σ → Prop :=
  fun s e t => C s e ∧ step s e t

namespace Run

variable {step : σ → ε → σ → Prop}

/-- **The invariant rule**: what holds at the start and is preserved by every step holds in every
state a run reaches. -/
theorem invariant {I : σ → Prop} (hstep : ∀ s e t, I s → step s e t → I t)
    {s t : σ} {es : List ε} (h : Run step s es t) (hs : I s) : I t := by
  induction h with
  | nil => exact hs
  | cons hst _ ih => exact ih (hstep _ _ _ hs hst)

/-- Runs compose. -/
theorem append {s t u : σ} {es es' : List ε} (h : Run step s es t) (h' : Run step t es' u) :
    Run step s (es ++ es') u := by
  induction h with
  | nil => exact h'
  | cons hst _ ih => exact .cons hst (ih h')

/-- A system whose steps are the steps of a larger one has only runs of the larger one. -/
theorem mono {step' : σ → ε → σ → Prop} (hle : ∀ s e t, step s e t → step' s e t)
    {s t : σ} {es : List ε} (h : Run step s es t) : Run step' s es t := by
  induction h with
  | nil => exact .nil
  | cons hst _ ih => exact .cons (hle _ _ _ hst) ih

/-- Every label of a guarded run was allowed somewhere. -/
theorem exists_guard {C : σ → ε → Prop} {s t : σ} {es : List ε}
    (h : Run (Guarded C step) s es t) {e : ε} (he : e ∈ es) : ∃ u, C u e := by
  induction h with
  | nil => cases he
  | @cons s _ _ _ _ hst _ ih =>
      rcases List.mem_cons.mp he with rfl | he
      · exact ⟨s, hst.1⟩
      · exact ih he

end Run

/-! ## Systems given by a partial function

An executable model is a function `σ → ε → Option σ`, with `none` where the label is not enabled.
Folding it over a list of labels computes the run, so concrete runs are found by evaluation. -/

/-- The step relation of a partial step function. -/
def Steps (f : σ → ε → Option σ) : σ → ε → σ → Prop :=
  fun s e t => f s e = some t

/-- A successful fold of the step function is a run. -/
theorem Run.of_foldlM {f : σ → ε → Option σ} {s t : σ} {es : List ε}
    (h : es.foldlM f s = some t) : Run (Steps f) s es t := by
  -- on the labels; a fold that succeeds has succeeded on its first label
  induction es generalizing s with
  | nil =>
      simp only [List.foldlM_nil, Option.pure_def, Option.some.injEq] at h
      subst h
      exact .nil
  | cons e es ih =>
      rw [List.foldlM_cons] at h
      obtain ⟨u, hu, hrest⟩ := Option.bind_eq_some_iff.mp h
      exact .cons hu (ih hrest)

/-- The step function that also refuses the labels `C` rules out. -/
def guardedStep (C : σ → ε → Bool) (f : σ → ε → Option σ) (s : σ) (e : ε) : Option σ :=
  if C s e then f s e else none

/-- A successful fold of the refusing step function is a guarded run. -/
theorem Run.guarded_of_foldlM {C : σ → ε → Bool} {f : σ → ε → Option σ} {s t : σ} {es : List ε}
    (h : es.foldlM (guardedStep C f) s = some t) :
    Run (Guarded (fun s e => C s e = true) (Steps f)) s es t := by
  apply (Run.of_foldlM h).mono
  intro s e t hst
  unfold Steps guardedStep at hst
  split at hst
  · exact ⟨‹_›, hst⟩
  · cases hst

end V2XHub.Lib
