import Mathlib.Tactic.SplitIfs

/-!
# Programs that ask and may throw

A program of this kind asks something outside, of which `σ` is the state, and may throw. What it has
asked for before it throws stays done. `outcome` is what it ends with and the state that it leaves.

Two properties of a program have rules for its parts: which exceptions it can end with at all, and
that it comes to its end whatever the state.
-/

namespace V2XHub.Lib

variable {σ κ ε α β : Type}

/-- A program that asks what has the state `σ` and may throw. -/
abbrev Outside (ε σ : Type) := ExceptT ε (StateM σ)

namespace Outside

def outcome (x : Outside ε σ α) (s : σ) : Except ε α × σ := x s

/-- An answer from outside. -/
def ask (f : σ → α × σ) : Outside ε σ α := fun s => (.ok (f s).1, (f s).2)

/-- A program over the second part of the state. -/
def onSecond (x : Outside ε σ α) : Outside ε (κ × σ) α :=
  fun s => ((outcome x s.2).1, s.1, (outcome x s.2).2)

/-- A change of the first part of the state. -/
def changeFirst (f : κ → κ) : Outside ε (κ × σ) Unit := fun s => (.ok (), f s.1, s.2)

/-- The value of an optional, or an exception. -/
def valueOr (e : ε) : Option α → Outside ε σ α
  | some a => pure a
  | none => throw e

/-- An exception, unless the condition holds. -/
def throwUnless (p : Prop) [Decidable p] (e : ε) : Outside ε σ Unit :=
  if p then pure () else throw e

/-! ## What a program ends with -/

@[simp] theorem outcome_pure (a : α) (s : σ) :
    outcome (pure a : Outside ε σ α) s = (.ok a, s) := rfl

@[simp] theorem outcome_throw (e : ε) (s : σ) :
    outcome (throw e : Outside ε σ α) s = (.error e, s) := rfl

@[simp] theorem outcome_ask (f : σ → α × σ) (s : σ) :
    outcome (ask f : Outside ε σ α) s = (.ok (f s).1, (f s).2) := rfl

@[simp] theorem outcome_onSecond (x : Outside ε σ α) (s : κ × σ) :
    outcome (onSecond x) s = ((outcome x s.2).1, s.1, (outcome x s.2).2) := rfl

@[simp] theorem outcome_changeFirst (f : κ → κ) (s : κ × σ) :
    outcome (changeFirst f : Outside ε (κ × σ) Unit) s = (.ok (), f s.1, s.2) := rfl

theorem outcome_throwUnless {p : Prop} [Decidable p] (e : ε) (s : σ) :
    outcome (throwUnless p e : Outside ε σ Unit) s = (if p then .ok () else .error e, s) := by
  unfold throwUnless
  split_ifs <;> rfl

theorem throwUnless_ok {p : Prop} [Decidable p] {e : ε} {s t : σ} {a : Unit} :
    outcome (throwUnless p e : Outside ε σ Unit) s = (.ok a, t) ↔ p ∧ t = s := by
  rw [outcome_throwUnless]
  by_cases hp : p
  · rw [if_pos hp]
    constructor
    · intro h
      cases h
      exact ⟨hp, rfl⟩
    · rintro ⟨-, rfl⟩
      rfl
  · rw [if_neg hp]
    constructor
    · intro h
      exact nomatch congrArg Prod.fst h
    · intro h
      exact absurd h.1 hp

theorem valueOr_ok {e : ε} {o : Option α} {a : α} {s t : σ} :
    outcome (valueOr e o : Outside ε σ α) s = (.ok a, t) ↔ o = some a ∧ t = s := by
  cases o with
  | none =>
      constructor
      · intro h
        exact nomatch congrArg Prod.fst h
      · intro h
        exact nomatch h.1
  | some b =>
      constructor
      · intro h
        cases h
        exact ⟨rfl, rfl⟩
      · rintro ⟨⟨⟩, rfl⟩
        rfl

theorem outcome_bind (x : Outside ε σ α) (f : α → Outside ε σ β) (s : σ) :
    outcome (x >>= f) s =
      match outcome x s with
      | (.ok a, t) => outcome (f a) t
      | (.error e, t) => (.error e, t) := by
  show (ExceptT.bind x f : Outside ε σ β) s = _
  unfold ExceptT.bind ExceptT.mk outcome
  show StateT.bind x (ExceptT.bindCont f) s = _
  unfold StateT.bind
  show ExceptT.bindCont f (x s).1 (x s).2 = _
  rcases x s with ⟨a | e, t⟩ <;> rfl

theorem outcome_bind_ok {x : Outside ε σ α} {f : α → Outside ε σ β} {s t : σ} {b : β} :
    outcome (x >>= f) s = (.ok b, t) ↔
      ∃ a u, outcome x s = (.ok a, u) ∧ outcome (f a) u = (.ok b, t) := by
  rw [outcome_bind]
  rcases hx : outcome x s with ⟨e | a, u⟩
  · constructor
    · intro h
      exact nomatch congrArg Prod.fst h
    · rintro ⟨a, u', heq, -⟩
      exact nomatch congrArg Prod.fst heq
  · constructor
    · intro h
      exact ⟨a, u, rfl, h⟩
    · rintro ⟨a', u', heq, h⟩
      cases heq
      exact h

theorem onSecond_ok {x : Outside ε σ α} {s t : κ × σ} {a : α} :
    outcome (onSecond x) s = (.ok a, t) ↔ ∃ u, outcome x s.2 = (.ok a, u) ∧ t = (s.1, u) := by
  rw [outcome_onSecond]
  constructor
  · intro h
    cases h' : outcome x s.2 with
    | mk r u =>
        rw [h'] at h
        cases h
        exact ⟨u, rfl, rfl⟩
  · rintro ⟨u, h, rfl⟩
    rw [h]

/-- A loop that ends has ended each of its turns. -/
theorem forall_of_foldlM_ok {Q : α → Prop} {f : β → α → Outside ε σ β}
    (hf : ∀ b a s b' t, outcome (f b a) s = (.ok b', t) → Q a) {l : List α} {b b' : β} {s t : σ}
    (h : outcome (l.foldlM f b) s = (.ok b', t)) : ∀ a ∈ l, Q a := by
  induction l generalizing b s with
  | nil => exact fun a ha => absurd ha List.not_mem_nil
  | cons a l ih =>
      rw [List.foldlM_cons] at h
      obtain ⟨c, u, hturn, hrest⟩ := outcome_bind_ok.mp h
      exact List.forall_mem_cons.mpr ⟨hf b a s c u hturn, ih hrest⟩

/-! ## Exceptions -/

/-- The exceptions that it can end with. -/
def OnlyThrows (P : ε → Prop) (x : Outside ε σ α) : Prop :=
  ∀ s e t, outcome x s = (.error e, t) → P e

section

variable {P : ε → Prop}

theorem onlyThrows_pure (a : α) : OnlyThrows P (pure a : Outside ε σ α) :=
  fun _ _ _ h => nomatch congrArg Prod.fst h

theorem onlyThrows_throw {e : ε} (h : P e) : OnlyThrows P (throw e : Outside ε σ α) := by
  intro s e' t heq
  cases heq
  exact h

theorem onlyThrows_ask (f : σ → α × σ) : OnlyThrows P (ask f : Outside ε σ α) :=
  fun _ _ _ h => nomatch congrArg Prod.fst h

theorem onlyThrows_changeFirst (f : κ → κ) :
    OnlyThrows P (changeFirst f : Outside ε (κ × σ) Unit) :=
  fun _ _ _ h => nomatch congrArg Prod.fst h

theorem onlyThrows_valueOr {e : ε} {o : Option α} (h : o = none → P e) :
    OnlyThrows P (valueOr e o : Outside ε σ α) := by
  cases o with
  | none => exact onlyThrows_throw (h rfl)
  | some a => exact onlyThrows_pure a

theorem onlyThrows_throwUnless {p : Prop} [Decidable p] {e : ε} (h : ¬ p → P e) :
    OnlyThrows P (throwUnless p e : Outside ε σ Unit) := by
  unfold throwUnless
  split_ifs with hp
  · exact onlyThrows_pure ()
  · exact onlyThrows_throw (h hp)

theorem OnlyThrows.bind {x : Outside ε σ α} {f : α → Outside ε σ β} (hx : OnlyThrows P x)
    (hf : ∀ a, OnlyThrows P (f a)) : OnlyThrows P (x >>= f) := by
  intro s e t h
  rw [outcome_bind] at h
  rcases hout : outcome x s with ⟨e' | a, u⟩
  · rw [hout] at h
    cases h
    exact hx s e t hout
  · rw [hout] at h
    exact hf a u e t h

theorem OnlyThrows.onSecond {x : Outside ε σ α} (hx : OnlyThrows P x) :
    OnlyThrows P (onSecond x : Outside ε (κ × σ) α) := by
  intro s e t h
  have hfst := congrArg Prod.fst h
  exact hx s.2 e _ (Prod.ext hfst rfl)

theorem OnlyThrows.foldlM {f : β → α → Outside ε σ β} {l : List α}
    (hf : ∀ b, ∀ a ∈ l, OnlyThrows P (f b a)) (b : β) : OnlyThrows P (l.foldlM f b) := by
  induction l generalizing b with
  | nil => exact onlyThrows_pure b
  | cons a l ih =>
      rw [List.foldlM_cons]
      apply OnlyThrows.bind (hf b a List.mem_cons_self)
      intro b'
      exact ih (fun b a' ha' => hf b a' (List.mem_cons_of_mem a ha')) b'

end

/-! ## Programs that come to their end -/

/-- It ends without an exception, from every state. -/
def Ends (x : Outside ε σ α) : Prop := ∀ s, ∃ a t, outcome x s = (.ok a, t)

theorem ends_pure (a : α) : Ends (pure a : Outside ε σ α) := fun s => ⟨a, s, rfl⟩

theorem ends_changeFirst (f : κ → κ) : Ends (changeFirst f : Outside ε (κ × σ) Unit) :=
  fun _ => ⟨_, _, rfl⟩

theorem ends_throwUnless {p : Prop} [Decidable p] {e : ε} (h : p) :
    Ends (throwUnless p e : Outside ε σ Unit) :=
  fun s => ⟨(), s, throwUnless_ok.mpr ⟨h, rfl⟩⟩

theorem ends_valueOr {e : ε} {o : Option α} {a : α} (h : o = some a) :
    Ends (valueOr e o : Outside ε σ α) := fun s => ⟨a, s, valueOr_ok.mpr ⟨h, rfl⟩⟩

theorem Ends.bind {x : Outside ε σ α} {f : α → Outside ε σ β} (hx : Ends x)
    (hf : ∀ a, Ends (f a)) : Ends (x >>= f) := by
  intro s
  obtain ⟨a, u, ha⟩ := hx s
  obtain ⟨b, t, hb⟩ := hf a u
  exact ⟨b, t, outcome_bind_ok.mpr ⟨a, u, ha, hb⟩⟩

theorem Ends.onSecond {x : Outside ε σ α} (hx : Ends x) :
    Ends (onSecond x : Outside ε (κ × σ) α) := by
  intro s
  obtain ⟨a, t, h⟩ := hx s.2
  exact ⟨a, (s.1, t), by rw [outcome_onSecond, h]⟩

theorem Ends.foldlM {f : β → α → Outside ε σ β} {l : List α} (hf : ∀ b, ∀ a ∈ l, Ends (f b a))
    (b : β) : Ends (l.foldlM f b) := by
  induction l generalizing b with
  | nil => exact ends_pure b
  | cons a l ih =>
      rw [List.foldlM_cons]
      apply Ends.bind (hf b a List.mem_cons_self)
      intro b'
      exact ih (fun b a' ha' => hf b a' (List.mem_cons_of_mem a ha')) b'

end Outside

end V2XHub.Lib
