import V2XHub.Lib.Run

/-!
# Systems that may halt

A component that has halted takes no more steps, so whether it is alive at the end of a run is
decided step by step.
-/

namespace V2XHub.Lib

namespace Run

variable {σ ε : Type} {step : σ → ε → σ → Prop} {Alive : σ → Prop} {s t : σ} {es : List ε}

/-- What is alive at the end was alive at the start. -/
theorem alive_of_alive (hlast : ∀ s e t, step s e t → Alive s) (h : Run step s es t)
    (ht : Alive t) : Alive s := by
  cases h with
  | nil => exact ht
  | cons hst _ => exact hlast _ _ _ hst

/-- **The survival rule**: where a step leaves the component alive exactly if `C` holds before it, a
run does so exactly if `C` holds before each of its steps. -/
theorem alive_iff_guarded {C : σ → ε → Prop} (hlast : ∀ s e t, step s e t → Alive s)
    (hstep : ∀ e ∈ es, ∀ s t, Alive s → step s e t → (Alive t ↔ C s e)) (hs : Alive s)
    (h : Run step s es t) : Alive t ↔ Run (Guarded C step) s es t := by
  constructor
  · -- on the run; it has not ended after the first step, for it has not at the end
    intro ht
    induction h with
    | nil => exact .nil
    | @cons s u t e es hst hrest ih =>
        have hu : Alive u := hrest.alive_of_alive hlast ht
        have hfirst : C s e := (hstep e List.mem_cons_self s u hs hst).mp hu
        exact .cons ⟨hfirst, hst⟩ (ih (fun e he => hstep e (List.mem_cons_of_mem _ he)) hu ht)
  · intro hguarded
    clear h
    induction hguarded with
    | nil => exact hs
    | @cons s u t e es hst _ ih =>
        have hu : Alive u := (hstep e List.mem_cons_self s u hs hst.2).mpr hst.1
        exact ih (fun e he => hstep e (List.mem_cons_of_mem _ he)) hu

end Run

end V2XHub.Lib
