import Mathlib.Logic.Basic
import Mathlib.Data.List.Basic

/-!
# Computations that note their accesses

Code that indexes arrays or shifts words is undefined where an index or an amount is out of range.
`Traced ε α` is a computation that notes each access it makes, of type `ε`, and has no result from
the first undefined one on. What it may access is a property of the notes alone, `Safe`; the rules
below find it, and the result, from the parts.
-/

namespace V2XHub.Lib

/-- The accesses made, oldest first, and the result unless one was undefined. -/
structure Traced (ε α : Type) where
  accesses : List ε
  result : Option α

namespace Traced

variable {ε α β : Type}

/-- One access, with what it gives. -/
def access (e : ε) (result : Option α) : Traced ε α := ⟨[e], result⟩

instance : Monad (Traced ε) where
  pure a := ⟨[], some a⟩
  bind x f :=
    match x.result with
    | none => ⟨x.accesses, none⟩
    | some a => ⟨x.accesses ++ (f a).accesses, (f a).result⟩

/-- The results of a loop, put together. -/
def collect (f : α → Traced ε (List β)) : List α → Traced ε (List β)
  | [] => pure []
  | a :: l => do
      let bs ← f a
      let rest ← collect f l
      pure (bs ++ rest)

/-! ## Results -/

@[simp] theorem result_access (e : ε) (r : Option α) : (access e r).result = r := rfl

@[simp] theorem result_pure (a : α) : (pure a : Traced ε α).result = some a := rfl

@[simp] theorem result_bind (x : Traced ε α) (f : α → Traced ε β) :
    (x >>= f).result = x.result.bind fun a => (f a).result := by
  show Traced.result (match x.result with
    | none => ⟨x.accesses, none⟩
    | some a => ⟨x.accesses ++ (f a).accesses, (f a).result⟩) = _
  cases x.result <;> rfl

theorem result_collect_append (f : α → Traced ε (List β)) (l l' : List α) :
    (collect f (l ++ l')).result =
      (collect f l).result.bind fun bs => (collect f l').result.map (bs ++ ·) := by
  induction l with
  | nil =>
      rw [List.nil_append]
      show _ = (collect f l').result.map ([] ++ ·)
      cases (collect f l').result <;> rfl
  | cons a l ih =>
      simp only [List.cons_append, collect, result_bind, result_pure, ih]
      cases (f a).result with
      | none => rfl
      | some bs =>
          cases (collect f l).result with
          | none => rfl
          | some cs =>
              cases (collect f l').result with
              | none => rfl
              | some ds => exact congrArg some (List.append_assoc bs cs ds).symm

theorem collect_map {γ : Type} (f : γ → Traced ε (List β)) (g : α → γ) (l : List α) :
    collect f (l.map g) = collect (fun a => f (g a)) l := by
  induction l with
  | nil => rfl
  | cons a l ih => rw [List.map_cons, collect, collect, ih]

/-- A loop whose every turn is a loop is one loop. -/
theorem result_collect_flatMap {γ : Type} {f : γ → Traced ε (List β)} {k : α → List γ}
    {g : α → Traced ε (List β)} {l : List α}
    (h : ∀ a ∈ l, (g a).result = (collect f (k a)).result) :
    (collect g l).result = (collect f (l.flatMap k)).result := by
  induction l with
  | nil => rfl
  | cons a l ih =>
      obtain ⟨ha, hl⟩ := List.forall_mem_cons.mp h
      rw [List.flatMap_cons, result_collect_append, collect, result_bind, ha]
      simp only [result_bind, result_pure, ih hl]
      cases (collect f (k a)).result with
      | none => rfl
      | some bs => cases (collect f (l.flatMap k)).result <;> rfl

/-- A loop that gives one thing in each turn gives the right things exactly when every turn does. -/
theorem result_collect_eq_map_iff {f : α → Traced ε (List β)} {m : α → Option β}
    (hm : ∀ a, (f a).result = (m a).map fun b => [b]) {g : α → β} {l : List α} :
    (collect f l).result = some (l.map g) ↔ ∀ a ∈ l, m a = some (g a) := by
  induction l with
  | nil => exact iff_of_true rfl (List.forall_mem_nil _)
  | cons a l ih =>
      rw [List.forall_mem_cons, ← ih, collect, result_bind, hm]
      simp only [result_bind, result_pure]
      cases m a with
      | none => exact iff_of_false (fun h => nomatch h) (fun h => nomatch h.1)
      | some b =>
          cases (collect f l).result with
          | none => exact iff_of_false (fun h => nomatch h) (fun h => nomatch h.2)
          | some bs => simp

/-! ## Safety -/

/-- Every access is in range. -/
def Safe (inRange : ε → Prop) (x : Traced ε α) : Prop := ∀ e ∈ x.accesses, inRange e

/-- Where every access is in range there is a result. -/
def Defined (inRange : ε → Prop) (x : Traced ε α) : Prop :=
  x.Safe inRange → ∃ a, x.result = some a

variable {inRange : ε → Prop}

@[simp] theorem safe_pure (a : α) : (pure a : Traced ε α).Safe inRange :=
  List.forall_mem_nil _

@[simp] theorem safe_access {e : ε} {r : Option α} : (access e r).Safe inRange ↔ inRange e :=
  List.forall_mem_singleton

theorem safe_bind {x : Traced ε α} {f : α → Traced ε β} :
    (x >>= f).Safe inRange ↔ x.Safe inRange ∧ ∀ a, x.result = some a → (f a).Safe inRange := by
  have haccesses : (x >>= f).accesses =
      x.accesses ++ (x.result.elim [] fun a => (f a).accesses) := by
    show Traced.accesses (match x.result with
      | none => ⟨x.accesses, none⟩
      | some a => ⟨x.accesses ++ (f a).accesses, (f a).result⟩) = _
    cases x.result with
    | none => exact (List.append_nil _).symm
    | some a => rfl
  unfold Safe
  rw [haccesses, List.forall_mem_append]
  refine and_congr_right fun _ => ?_
  cases x.result with
  | none => exact iff_of_true (List.forall_mem_nil _) (fun a ha => nomatch ha)
  | some a => exact ⟨fun h b hb => Option.some.inj hb ▸ h, fun h => h a rfl⟩

theorem safe_ite {p : Prop} [Decidable p] {x y : Traced ε α} (hx : x.Safe inRange)
    (hy : y.Safe inRange) : (if p then x else y).Safe inRange := by
  split_ifs
  · exact hx
  · exact hy

theorem defined_pure (a : α) : (pure a : Traced ε α).Defined inRange := fun _ => ⟨a, rfl⟩

theorem defined_bind {x : Traced ε α} {f : α → Traced ε β} (hx : x.Defined inRange)
    (hf : ∀ a, x.result = some a → (f a).Defined inRange) : (x >>= f).Defined inRange := by
  intro hsafe
  obtain ⟨hxsafe, hfsafe⟩ := safe_bind.mp hsafe
  obtain ⟨a, ha⟩ := hx hxsafe
  obtain ⟨b, hb⟩ := hf a ha (hfsafe a ha)
  exact ⟨b, by rw [result_bind, ha]; exact hb⟩

theorem defined_collect {f : α → Traced ε (List β)} {l : List α}
    (h : ∀ a ∈ l, (f a).Defined inRange) : (collect f l).Defined inRange := by
  induction l with
  | nil => exact defined_pure []
  | cons a l ih =>
      obtain ⟨ha, hl⟩ := List.forall_mem_cons.mp h
      exact defined_bind ha fun bs _ => defined_bind (ih hl) fun rest _ => defined_pure _

/-- A loop is safe exactly when every turn is. -/
theorem safe_collect {f : α → Traced ε (List β)} {l : List α}
    (h : ∀ a ∈ l, (f a).Defined inRange) :
    (collect f l).Safe inRange ↔ ∀ a ∈ l, (f a).Safe inRange := by
  induction l with
  | nil => exact iff_of_true (safe_pure []) (List.forall_mem_nil _)
  | cons a l ih =>
      obtain ⟨ha, hl⟩ := List.forall_mem_cons.mp h
      rw [List.forall_mem_cons, ← ih hl, collect, safe_bind]
      refine and_congr_right fun hsafe => ?_
      obtain ⟨bs, hbs⟩ := ha hsafe
      constructor
      · intro hrest
        exact (safe_bind.mp (hrest bs hbs)).1
      · intro hrest cs _
        exact safe_bind.mpr ⟨hrest, fun _ _ => safe_pure _⟩

end Traced

end V2XHub.Lib
