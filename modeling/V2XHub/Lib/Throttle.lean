import Mathlib.Order.Basic
import Mathlib.Logic.Function.Basic

/-!
# Throttles

A throttle is asked about keys over and over, and admits a key if it never admitted it before or if
the last time is long enough ago. `Throttles due` says so of a list of answers, where `due t u` is
whether at `u` it is long enough since `t`. The throttle that remembers the last time of every key
answers so. One that forgets a time may still answer so: it has to keep the time until every later
time is due, and then nobody can tell.
-/

namespace V2XHub.Lib

structure Admission (κ τ : Type) where
  key : κ
  time : τ
  admitted : Bool
  deriving DecidableEq, Repr

variable {κ τ : Type} {due : τ → τ → Bool}

section

variable [DecidableEq κ]

/-- The last time the key was admitted. -/
def lastAdmitted (k : κ) : List (Admission κ τ) → Option τ
  | [] => none
  | a :: l => (lastAdmitted k l).or (if a.key = k ∧ a.admitted then some a.time else none)

/-- Exactly the keys are admitted that are new or due. -/
def Throttles (due : τ → τ → Bool) (l : List (Admission κ τ)) : Prop :=
  ∀ before a after, l = before ++ a :: after →
    a.admitted = (lastAdmitted a.key before).all (due · a.time)

/-- The last times, with this one if it is admitted. -/
def remember (due : τ → τ → Bool) (last : κ → Option τ) (k : κ) (t : τ) : κ → Option τ :=
  if (last k).all (due · t) then Function.update last k (some t) else last

/-- The throttle that forgets nothing. -/
def throttle (due : τ → τ → Bool) (last : κ → Option τ) : List (κ × τ) → List (Admission κ τ)
  | [] => []
  | (k, t) :: calls =>
      ⟨k, t, (last k).all (due · t)⟩ :: throttle due (remember due last k t) calls

theorem lastAdmitted_append (k : κ) (l l' : List (Admission κ τ)) :
    lastAdmitted k (l ++ l') = (lastAdmitted k l').or (lastAdmitted k l) := by
  induction l with
  | nil => simp [lastAdmitted]
  | cons a l ih => rw [List.cons_append, lastAdmitted, ih, lastAdmitted, Option.or_assoc]

/-- Without an admission of the key there is no last time. -/
theorem lastAdmitted_eq_none {k : κ} {l : List (Admission κ τ)}
    (h : ∀ a ∈ l, a.key = k → a.admitted = false) : lastAdmitted k l = none := by
  induction l with
  | nil => rfl
  | cons a l ih =>
      obtain ⟨ha, hl⟩ := List.forall_mem_cons.mp h
      rw [lastAdmitted, ih hl, Option.none_or, if_neg]
      rintro ⟨hkey, hadmitted⟩
      rw [ha hkey] at hadmitted
      cases hadmitted

/-- The last time is that of an admission after which there is none. -/
theorem lastAdmitted_append_cons {k : κ} {l l' : List (Admission κ τ)} {a : Admission κ τ}
    (hkey : a.key = k) (hadmitted : a.admitted = true)
    (hlater : ∀ b ∈ l', b.key = k → b.admitted = false) :
    lastAdmitted k (l ++ a :: l') = some a.time := by
  rw [lastAdmitted_append, lastAdmitted, lastAdmitted_eq_none hlater, if_pos ⟨hkey, hadmitted⟩]
  rfl

theorem throttles_append {last : κ → Option τ} (answered : List (Admission κ τ))
    (hlast : ∀ k, last k = lastAdmitted k answered) (calls : List (κ × τ))
    {before after : List (Admission κ τ)} {a : Admission κ τ}
    (h : throttle due last calls = before ++ a :: after) :
    a.admitted = (lastAdmitted a.key (answered ++ before)).all (due · a.time) := by
  induction calls generalizing last answered before with
  | nil => simp [throttle] at h
  | cons call calls ih =>
      obtain ⟨k, t⟩ := call
      rw [throttle] at h
      cases before with
      | nil =>
          obtain ⟨rfl, -⟩ := List.cons.inj h
          rw [List.append_nil, ← hlast]
      | cons b before =>
          obtain ⟨rfl, hrest⟩ := List.cons.inj h
          have hnext := ih (answered ++ [⟨k, t, (last k).all (due · t)⟩]) ?_ hrest
          · rw [List.append_assoc] at hnext
            exact hnext
          · intro k'
            rw [lastAdmitted_append, remember]
            simp only [lastAdmitted, Option.none_or]
            split_ifs with hdue hkey hkey
            · rw [hkey.1, Function.update_self]
              rfl
            · have hne : k' ≠ k := fun heq => hkey ⟨heq.symm, hdue⟩
              rw [Function.update_of_ne hne, hlast]
              rfl
            · exact absurd hkey.2 hdue
            · exact hlast k'

/-- **The throttle that forgets nothing throttles.** -/
theorem throttles_throttle (calls : List (κ × τ)) :
    Throttles due (throttle due (fun _ => none) calls) := by
  intro before a after h
  have := throttles_append [] (fun _ => rfl) calls h
  rwa [List.nil_append] at this

namespace Throttles

variable {l before between after : List (Admission κ τ)} {a b : Admission κ τ}

/-- **Apart**: the later of two successive admissions of a key is due. -/
theorem due_of_successive (h : Throttles due l) (hl : l = before ++ a :: (between ++ b :: after))
    (hkey : a.key = b.key) (ha : a.admitted = true) (hb : b.admitted = true)
    (hbetween : ∀ c ∈ between, c.key = b.key → c.admitted = false) : due a.time b.time = true := by
  have hsplit : l = (before ++ a :: between) ++ b :: after := by simp [hl]
  have hadmitted := h _ b after hsplit
  rw [lastAdmitted_append_cons hkey ha hbetween, hb] at hadmitted
  exact hadmitted.symm

/-- **Not later than due**: a key that is due since its last admission is admitted. -/
theorem admitted_of_due (h : Throttles due l) (hl : l = before ++ a :: (between ++ b :: after))
    (hkey : a.key = b.key) (ha : a.admitted = true)
    (hbetween : ∀ c ∈ between, c.key = b.key → c.admitted = false)
    (hdue : due a.time b.time = true) : b.admitted = true := by
  have hsplit : l = (before ++ a :: between) ++ b :: after := by simp [hl]
  rw [h _ b after hsplit, lastAdmitted_append_cons hkey ha hbetween]
  exact hdue

/-- A new key is admitted. -/
theorem admitted_of_new (h : Throttles due l) (hl : l = before ++ b :: after)
    (hnew : ∀ a ∈ before, a.key ≠ b.key) : b.admitted = true := by
  rw [h before b after hl, lastAdmitted_eq_none fun a ha heq => absurd heq (hnew a ha)]
  rfl

end Throttles

end

/-! ## Forgetting -/

variable {last kept : κ → Option τ} {now later : τ} {k : κ} {t : τ}

/-- What is kept of the last times at `now`: everything, but for times since which every later time
is due. -/
def Keeps [LE τ] (due : τ → τ → Bool) (last kept : κ → Option τ) (now : τ) : Prop :=
  ∀ k, kept k = last k ∨ kept k = none ∧ ∀ t, last k = some t → ∀ u, now ≤ u → due t u = true

variable [Preorder τ]

namespace Keeps

theorem refl (last : κ → Option τ) (now : τ) : Keeps due last last now := fun _ => .inl rfl

theorem mono (h : Keeps due last kept now) (hle : now ≤ later) : Keeps due last kept later := by
  intro k
  rcases h k with heq | ⟨hnone, hdue⟩
  · exact .inl heq
  · exact .inr ⟨hnone, fun t ht u hu => hdue t ht u (hle.trans hu)⟩

/-- **Nobody can tell**: the answers are the same. -/
theorem admits_eq (h : Keeps due last kept now) (hle : now ≤ later) (k : κ) :
    (kept k).all (due · later) = (last k).all (due · later) := by
  rcases h k with heq | ⟨hnone, hdue⟩
  · rw [heq]
  · rw [hnone]
    cases hlast : last k with
    | none => rfl
    | some t => exact (hdue t hlast later hle).symm

/-- The times of `now` are kept, what is admitted at it is not forgotten. -/
theorem remember [DecidableEq κ] (h : Keeps due last kept now) (hle : now ≤ later) (k : κ) :
    Keeps due (remember due last k later) (Lib.remember due kept k later) later := by
  intro k'
  unfold Lib.remember
  rw [h.admits_eq hle k]
  split_ifs with hdue
  · by_cases hkey : k' = k
    · rw [hkey, Function.update_self, Function.update_self]
      exact .inl rfl
    · rw [Function.update_of_ne hkey, Function.update_of_ne hkey]
      exact h.mono hle k'
  · exact h.mono hle k'

/-- A time may be forgotten when every later time is due. -/
theorem forget {kept' : κ → Option τ} (h : Keeps due last kept now)
    (hforget : ∀ k, kept' k = kept k ∨
      kept' k = none ∧ ∀ t, kept k = some t → ∀ u, now ≤ u → due t u = true) :
    Keeps due last kept' now := by
  intro k
  rcases hforget k with heq | ⟨hnone, hdue⟩
  · rw [heq]
    exact h k
  · rcases h k with heq' | ⟨hnone', hdue'⟩
    · rw [heq'] at hdue
      exact .inr ⟨hnone, hdue⟩
    · exact .inr ⟨hnone, hdue'⟩

end Keeps

end V2XHub.Lib
