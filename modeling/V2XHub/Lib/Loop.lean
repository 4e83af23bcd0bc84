import Mathlib.Logic.Basic

/-!
# Loops with fuel

A loop of the source whose end is not obvious is a body `σ → LoopStep σ ρ`: run once, it either goes
round again with a new state or is done with a result. `loop` runs it on a number of rounds, and
answers `none` when they do not suffice. Returning is then a statement, that some number of rounds
gives a result, and so is running for ever: every number of rounds answers `none`.
-/

namespace V2XHub.Lib

inductive LoopStep (σ ρ : Type) where
  | again (s : σ)
  | done (r : ρ)
  deriving DecidableEq, Repr

variable {σ ρ : Type} {body : σ → LoopStep σ ρ}

/-- At most `fuel` rounds of the loop. -/
def loop (body : σ → LoopStep σ ρ) : Nat → σ → Option ρ
  | 0, _ => none
  | fuel + 1, s =>
      match body s with
      | .again s' => loop body fuel s'
      | .done r => some r

attribute [local simp] loop

/-- `Heads body s t`: a loop that starts in `s` comes to the head of a round in `t`. -/
inductive Heads (body : σ → LoopStep σ ρ) : σ → σ → Prop
  | start {s : σ} : Heads body s s
  | again {s s' t : σ} : body s = .again s' → Heads body s' t → Heads body s t

theorem loop_done {s : σ} {r : ρ} (h : body s = .done r) (fuel : Nat) :
    loop body (fuel + 1) s = some r := by
  simp [h]

theorem loop_again {s s' : σ} (h : body s = .again s') (fuel : Nat) :
    loop body (fuel + 1) s = loop body fuel s' := by
  simp [h]

/-- A loop whose first round is its last has one head. -/
theorem Heads.eq_of_done {s t : σ} {r : ρ} (h : body s = .done r) (hst : Heads body s t) :
    t = s := by
  cases hst with
  | start => rfl
  | again hagain _ =>
      rw [h] at hagain
      cases hagain

/-- A loop comes to its end at one head only. -/
theorem Heads.unique {s t t' : σ} {r r' : ρ} (ht : Heads body s t) (ht' : Heads body s t')
    (hr : body t = .done r) (hr' : body t' = .done r') : t = t' := by
  induction ht with
  | start => exact (ht'.eq_of_done hr).symm
  | @again s u t hagain hheads ih =>
      cases ht' with
      | start =>
          rw [hagain] at hr'
          cases hr'
      | again hagain' hheads' =>
          rw [hagain] at hagain'
          cases hagain'
          exact ih hheads' hr

/-- **Returning** is coming to the head of a round that is the last. -/
theorem loop_eq_some_iff {s : σ} {r : ρ} :
    (∃ fuel, loop body fuel s = some r) ↔ ∃ t, Heads body s t ∧ body t = .done r := by
  constructor
  · rintro ⟨fuel, hloop⟩
    induction fuel generalizing s with
    | zero => cases hloop
    | succ fuel ih =>
        cases hbody : body s with
        | again s' =>
            rw [loop_again hbody] at hloop
            obtain ⟨t, hheads, ht⟩ := ih hloop
            exact ⟨t, .again hbody hheads, ht⟩
        | done r' =>
            rw [loop_done hbody] at hloop
            cases hloop
            exact ⟨s, .start, hbody⟩
  · rintro ⟨t, hheads, ht⟩
    induction hheads with
    | start => exact ⟨1, loop_done ht 0⟩
    | again hagain _ ih =>
        obtain ⟨fuel, hloop⟩ := ih ht
        exact ⟨fuel + 1, (loop_again hagain fuel).trans hloop⟩

/-- The result does not depend on the number of rounds. -/
theorem loop_unique {s : σ} {r r' : ρ} {fuel fuel' : Nat} (h : loop body fuel s = some r)
    (h' : loop body fuel' s = some r') : r = r' := by
  obtain ⟨t, hheads, hdone⟩ := loop_eq_some_iff.mp ⟨fuel, h⟩
  obtain ⟨t', hheads', hdone'⟩ := loop_eq_some_iff.mp ⟨fuel', h'⟩
  have hsame : t = t' := hheads.unique hheads' hdone hdone'
  rw [← hsame, hdone] at hdone'
  cases hdone'
  rfl

/-- **Running for ever**: from a state in a set that every round leads back to, no number of rounds
is enough. -/
theorem loop_eq_none {I : σ → Prop} (hI : ∀ s, I s → ∃ s', body s = .again s' ∧ I s') (fuel : Nat)
    {s : σ} (hs : I s) : loop body fuel s = none := by
  induction fuel generalizing s with
  | zero => rfl
  | succ fuel ih =>
      obtain ⟨s', hbody, hs'⟩ := hI s hs
      rw [loop_again hbody]
      exact ih hs'

/-- **Invariants**: what every round keeps holds when the loop is done. -/
theorem loop_invariant {I : σ → Prop} {Q : ρ → Prop}
    (hagain : ∀ s s', I s → body s = .again s' → I s')
    (hdone : ∀ s r, I s → body s = .done r → Q r) {fuel : Nat} {s : σ} {r : ρ} (hs : I s)
    (h : loop body fuel s = some r) : Q r := by
  induction fuel generalizing s with
  | zero => cases h
  | succ fuel ih =>
      cases hbody : body s with
      | again s' =>
          rw [loop_again hbody] at h
          exact ih (hagain s s' hs hbody) h
      | done r' =>
          rw [loop_done hbody] at h
          cases h
          exact hdone s r hs hbody

/-- **Returning**: as many rounds suffice as a measure allows that every round lowers. -/
theorem loop_returns {I : σ → Prop} (measure : σ → Nat)
    (hagain : ∀ s s', I s → body s = .again s' → I s' ∧ measure s' < measure s) {fuel : Nat} {s : σ}
    (hs : I s) (hfuel : measure s < fuel) : ∃ r, loop body fuel s = some r := by
  induction fuel generalizing s with
  | zero => exact absurd hfuel (Nat.not_lt_zero _)
  | succ fuel ih =>
      cases hbody : body s with
      | again s' =>
          obtain ⟨hs', hlt⟩ := hagain s s' hs hbody
          rw [loop_again hbody]
          exact ih hs' (by omega)
      | done r => exact ⟨r, loop_done hbody fuel⟩

end V2XHub.Lib
