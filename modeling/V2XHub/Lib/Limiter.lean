import Mathlib.Data.List.Basic

/-!
# Limiters

A limiter lets through the first `n` of the calls that show it the same value in a row, and starts
anew with every change. It keeps the value it saw last and how often it let it through. What it does
is said without its state: `Limited n` of a list of calls, each with the value and whether it was
let through.
-/

namespace V2XHub.Lib

variable {σ : Type}

/-- In every maximal stretch of calls with one value, exactly the first `n` are let through. -/
def Limited (n : Nat) (calls : List (σ × Bool)) : Prop :=
  ∀ (value : σ) (before stretch after : List (σ × Bool)), calls = before ++ stretch ++ after →
    (∀ call ∈ stretch, call.1 = value) → (∀ call ∈ before.getLast?, call.1 ≠ value) →
      (∀ call ∈ after.head?, call.1 ≠ value) →
        stretch.map Prod.snd =
          List.replicate (min n stretch.length) true ++
            List.replicate (stretch.length - n) false

/-- The count and the value of the last call. -/
structure Limiter (σ : Type) where
  count : Nat
  last : σ

namespace Limiter

variable [DecidableEq σ]

/-- How often the value was let through since it came. -/
def used (l : Limiter σ) (value : σ) : Nat := if value = l.last then l.count else 0

/-- Whether the value is let through. -/
def admits (n : Nat) (l : Limiter σ) (value : σ) : Bool := l.used value < n

/-- The limiter after the call. -/
def step (n : Nat) (l : Limiter σ) (value : σ) : Limiter σ where
  count := if l.admits n value then l.used value + 1 else l.used value
  last := value

/-- The calls of a list of values. -/
def calls (n : Nat) : Limiter σ → List σ → List (σ × Bool)
  | _, [] => []
  | l, value :: values => (value, l.admits n value) :: calls n (l.step n value) values

variable {n : Nat}

@[simp] theorem used_step (l : Limiter σ) (value : σ) :
    (l.step n value).used value =
      if l.admits n value then l.used value + 1 else l.used value := if_pos rfl

theorem used_of_ne {l : Limiter σ} {value : σ} (h : l.last ≠ value) : l.used value = 0 :=
  if_neg (Ne.symm h)

@[simp] theorem map_fst_calls (l : Limiter σ) (values : List σ) :
    (l.calls n values).map Prod.fst = values := by
  induction values generalizing l with
  | nil => rfl
  | cons value values ih => rw [calls, List.map_cons, ih]

@[simp] theorem length_calls (l : Limiter σ) (values : List σ) :
    (l.calls n values).length = values.length := by
  rw [← List.length_map (f := Prod.fst), map_fst_calls]

/-- The calls after some others start with the limiter these leave. -/
theorem calls_append (l : Limiter σ) (values more : List σ) :
    l.calls n (values ++ more) =
      l.calls n values ++ (values.foldl (step n) l).calls n more := by
  induction values generalizing l with
  | nil => rfl
  | cons value values ih => rw [List.cons_append, calls, calls, ih, List.cons_append]; rfl

theorem last_foldl_step (l : Limiter σ) (values : List σ) :
    (values.foldl (step n) l).last = values.getLast?.getD l.last := by
  induction values generalizing l with
  | nil => rfl
  | cons value values ih =>
      rw [List.foldl_cons, ih, List.getLast?_cons]
      rfl

/-- One value over and over, with `used` of its `n` calls gone. -/
theorem admitted_replicate (l : Limiter σ) (value : σ) (k : Nat) (h : l.used value ≤ n) :
    (l.calls n (List.replicate k value)).map Prod.snd =
      List.replicate (min (n - l.used value) k) true ++
        List.replicate (k - (n - l.used value)) false := by
  induction k generalizing l with
  | zero => simp [calls]
  | succ k ih =>
      have hused := l.used_step (n := n) value
      rw [List.replicate_succ, calls, List.map_cons]
      by_cases hlt : l.used value < n
      · have hadmits : l.admits n value = true := decide_eq_true hlt
        rw [if_pos hadmits] at hused
        rw [ih _ (by omega), hused, hadmits]
        have hmin : min (n - l.used value) (k + 1) = min (n - (l.used value + 1)) k + 1 := by
          omega
        have hrest : k + 1 - (n - l.used value) = k - (n - (l.used value + 1)) := by omega
        rw [hmin, hrest, List.replicate_succ, List.cons_append]
      · have hadmits : l.admits n value = false := decide_eq_false hlt
        rw [hadmits, if_neg Bool.false_ne_true] at hused
        rw [ih _ (by omega), hused, hadmits]
        have hzero : n - l.used value = 0 := by omega
        rw [hzero, Nat.zero_min, Nat.zero_min, Nat.sub_zero, Nat.sub_zero]
        rfl

/-- **A fresh limiter limits.** -/
theorem limited_calls {l : Limiter σ} (hfresh : l.count = 0) (values : List σ) :
    Limited n (l.calls n values) := by
  intro value before stretch after hcalls hstretch hbefore _
  have hvalues : values =
      before.map Prod.fst ++ (stretch.map Prod.fst ++ after.map Prod.fst) := by
    rw [← l.map_fst_calls (n := n) values, hcalls, List.map_append, List.map_append,
      List.append_assoc]
  have hsame : stretch.map Prod.fst = List.replicate stretch.length value := by
    refine List.eq_replicate_iff.mpr ⟨List.length_map _, fun v hv => ?_⟩
    obtain ⟨call, hmem, rfl⟩ := List.mem_map.mp hv
    exact hstretch call hmem
  rw [hvalues, hsame, calls_append, calls_append, ← List.append_assoc] at hcalls
  have hlen : (l.calls n (before.map Prod.fst)).length = before.length := by
    rw [length_calls, List.length_map]
  obtain ⟨hhead, -⟩ := List.append_inj hcalls (by
    rw [List.length_append, List.length_append, hlen, length_calls, List.length_replicate])
  obtain ⟨-, hmid⟩ := List.append_inj hhead hlen
  -- what came before the stretch leaves nothing used of its value
  have hused : ((before.map Prod.fst).foldl (step n) l).used value = 0 := by
    cases hlast : before.getLast? with
    | none =>
        rw [List.getLast?_eq_none_iff.mp hlast]
        show l.used value = 0
        unfold used
        rw [hfresh, ite_self]
    | some call =>
        apply used_of_ne
        rw [last_foldl_step, List.getLast?_map, hlast]
        exact hbefore call (by rw [hlast]; rfl)
  have hadmitted := admitted_replicate (n := n) _ value stretch.length
    (by rw [hused]; exact Nat.zero_le n)
  rwa [hmid, hused, Nat.sub_zero] at hadmitted

end Limiter

end V2XHub.Lib
