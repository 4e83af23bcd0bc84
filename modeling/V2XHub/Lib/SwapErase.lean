import Mathlib.Data.List.Basic

/-!
# Erasing by moving the last element

An array can drop an element in constant time by moving its last element into the gap. The elements
that stay are those of the order-preserving `List.eraseP`, in another order. So two lists that agree
after the one need not agree after the other: it depends on where the gap was.

`swapPlace` is where it was, as far as that matters. Between lists with the same place, the two ways
of erasing tell the same lists apart.
-/

namespace V2XHub.Lib

variable {α : Type} {p : α → Bool} {l l' : List α} {i : Nat}

/-- The last element, moved to the front. -/
def lastFirst (l : List α) : List α :=
  match l.getLast? with
  | none => []
  | some x => x :: l.dropLast

@[simp] theorem lastFirst_concat (l : List α) (x : α) : lastFirst (l ++ [x]) = x :: l := by
  simp [lastFirst]

theorem lastFirst_perm (l : List α) : (lastFirst l).Perm l := by
  rcases List.eq_nil_or_concat l with rfl | ⟨l, x, rfl⟩
  · exact .nil
  · rw [List.concat_eq_append, lastFirst_concat]
    exact (List.perm_append_singleton x l).symm

theorem lastFirst_inj : lastFirst l = lastFirst l' ↔ l = l' := by
  refine ⟨fun h => ?_, fun h => by rw [h]⟩
  have hlen := (lastFirst_perm l).length_eq.symm.trans ((congrArg List.length h).trans
    (lastFirst_perm l').length_eq)
  rcases List.eq_nil_or_concat l with rfl | ⟨l, x, rfl⟩
  · exact (List.length_eq_zero_iff.mp hlen.symm).symm
  rcases List.eq_nil_or_concat l' with rfl | ⟨l', y, rfl⟩
  · exact List.length_eq_zero_iff.mp hlen
  · simp only [List.concat_eq_append, lastFirst_concat, List.cons.injEq] at h
    rw [h.1, h.2]

/-- Erase the first element that satisfies `p`, the last element taking its place. -/
def swapErase (p : α → Bool) : List α → List α
  | [] => []
  | x :: xs => if p x then lastFirst xs else x :: swapErase p xs

/-- The index of the erased element, when at least two elements follow it: otherwise nothing is
erased, or the last element stays the last. -/
def swapPlace (p : α → Bool) : List α → Option Nat
  | [] => none
  | x :: xs =>
      if p x then if 2 ≤ xs.length then some 0 else none
      else (swapPlace p xs).map (· + 1)

theorem swapErase_perm (p : α → Bool) (l : List α) : (swapErase p l).Perm (l.eraseP p) := by
  induction l with
  | nil => exact .nil
  | cons x xs ih =>
      unfold swapErase
      by_cases hx : p x = true
      · rw [if_pos hx, List.eraseP_cons_of_pos hx]
        exact lastFirst_perm xs
      · rw [if_neg hx, List.eraseP_cons_of_neg hx]
        exact ih.cons x

theorem swapErase_of_swapPlace_eq_none (h : swapPlace p l = none) :
    swapErase p l = l.eraseP p := by
  induction l with
  | nil => rfl
  | cons x xs ih =>
      unfold swapPlace at h
      unfold swapErase
      by_cases hx : p x = true
      · rw [if_pos hx] at h ⊢
        rw [List.eraseP_cons_of_pos hx]
        -- with one element left, first and last are the same place
        match xs, h with
        | [], _ => rfl
        | [_], _ => rfl
      · rw [if_neg hx] at h ⊢
        rw [List.eraseP_cons_of_neg hx, ih (Option.map_eq_none_iff.mp h)]

theorem swapErase_of_swapPlace_eq_some (h : swapPlace p l = some i) :
    i ≤ (l.eraseP p).length ∧
      swapErase p l = (l.eraseP p).take i ++ lastFirst ((l.eraseP p).drop i) := by
  induction l generalizing i with
  | nil => cases h
  | cons x xs ih =>
      unfold swapPlace at h
      unfold swapErase
      by_cases hx : p x = true
      · rw [if_pos hx] at h ⊢
        rw [List.eraseP_cons_of_pos hx]
        split at h
        · cases h
          exact ⟨Nat.zero_le _, rfl⟩
        · cases h
      · rw [if_neg hx] at h ⊢
        rw [List.eraseP_cons_of_neg hx]
        obtain ⟨j, hj, rfl⟩ := Option.map_eq_some_iff.mp h
        obtain ⟨hle, heq⟩ := ih hj
        exact ⟨Nat.succ_le_succ hle, by rw [heq]; rfl⟩

/-- **Telling lists apart**: if lists that differ at most in their order have the same place, both
ways of erasing agree on which lists are equal. -/
theorem swapErase_eq_iff
    (h : (l.eraseP p).Perm (l'.eraseP p) → swapPlace p l = swapPlace p l') :
    swapErase p l = swapErase p l' ↔ l.eraseP p = l'.eraseP p := by
  by_cases hperm : (l.eraseP p).Perm (l'.eraseP p)
  · cases hplace : swapPlace p l with
    | none =>
        rw [swapErase_of_swapPlace_eq_none hplace,
          swapErase_of_swapPlace_eq_none ((h hperm).symm.trans hplace)]
    | some i =>
        obtain ⟨hle, heq⟩ := swapErase_of_swapPlace_eq_some hplace
        obtain ⟨hle', heq'⟩ := swapErase_of_swapPlace_eq_some ((h hperm).symm.trans hplace)
        refine ⟨fun hswap => ?_, fun herase => by rw [heq, heq', herase]⟩
        rw [heq, heq'] at hswap
        have hlen : ((l.eraseP p).take i).length = ((l'.eraseP p).take i).length := by
          rw [List.length_take_of_le hle, List.length_take_of_le hle']
        obtain ⟨htake, hdrop⟩ := List.append_inj hswap hlen
        rw [← List.take_append_drop i (l.eraseP p), htake, lastFirst_inj.mp hdrop,
          List.take_append_drop]
  · -- either equality would make the one list a rearrangement of the other
    refine ⟨fun heq => absurd ?_ hperm, fun heq => absurd (heq ▸ .refl _) hperm⟩
    exact (swapErase_perm p l).symm.trans (heq ▸ swapErase_perm p l')

/-! ## The last element at a place -/

/-- The last element, moved to the index. -/
def lastTo : Option Nat → List α → List α
  | none, l => l
  | some i, l => l.take i ++ lastFirst (l.drop i)

theorem swapErase_eq_lastTo (p : α → Bool) (l : List α) :
    swapErase p l = lastTo (swapPlace p l) (l.eraseP p) := by
  cases hplace : swapPlace p l with
  | none => exact swapErase_of_swapPlace_eq_none hplace
  | some i => exact (swapErase_of_swapPlace_eq_some hplace).2

theorem swapPlace_lt (h : swapPlace p l = some i) : i + 2 ≤ (l.eraseP p).length := by
  induction l generalizing i with
  | nil => cases h
  | cons x xs ih =>
      unfold swapPlace at h
      by_cases hx : p x = true
      · rw [if_pos hx] at h
        rw [List.eraseP_cons_of_pos hx]
        split_ifs at h with hlength
        cases h
        omega
      · rw [if_neg hx] at h
        rw [List.eraseP_cons_of_neg hx, List.length_cons]
        obtain ⟨j, hj, rfl⟩ := Option.map_eq_some_iff.mp h
        have := ih hj
        omega

theorem getElem?_lastTo (h : i + 2 ≤ l.length) : (lastTo (some i) l)[i]? = l.getLast? := by
  have hdrop : l.drop i ≠ [] := fun hnil => by
    have := congrArg List.length hnil
    rw [List.length_drop, List.length_nil] at this
    omega
  have hfirst : lastFirst (l.drop i) = (l.drop i).getLast hdrop :: (l.drop i).dropLast := by
    unfold lastFirst
    rw [List.getLast?_eq_some_getLast hdrop]
  show (l.take i ++ lastFirst (l.drop i))[i]? = l.getLast?
  rw [hfirst, List.getElem?_append_right (List.length_take_le i l),
    List.length_take_of_le (by omega), Nat.sub_self, List.getElem?_cons_zero,
    ← List.getLast?_eq_some_getLast hdrop, List.getLast?_drop, if_neg (by omega)]

theorem getElem?_lastTo_of_lt {j : Nat} (h : j < i) (hi : i ≤ l.length) :
    (lastTo (some i) l)[j]? = l[j]? := by
  show (l.take i ++ lastFirst (l.drop i))[j]? = l[j]?
  rw [List.getElem?_append_left (by rw [List.length_take_of_le hi]; exact h),
    List.getElem?_take_of_lt h]

/-- In a list without duplicates each place gives another order. -/
theorem lastTo_ne_of_lt (hnodup : l.Nodup) (hi : i + 2 ≤ l.length) {j : Option Nat}
    (hlater : ∀ k ∈ j, i < k ∧ k + 2 ≤ l.length) : lastTo (some i) l ≠ lastTo j l := by
  intro heq
  have hthere : (lastTo j l)[i]? = l[i]? := by
    cases j with
    | none => rfl
    | some k => exact getElem?_lastTo_of_lt (hlater k rfl).1 (by have := (hlater k rfl).2; omega)
  have hlast : l[i]? = l[l.length - 1]? := by
    rw [← hthere, ← heq, getElem?_lastTo hi, List.getLast?_eq_getElem?]
  have hsame := (List.getElem?_inj (by omega) hnodup).mp hlast
  omega

theorem lastTo_inj_place (hnodup : l.Nodup) {i j : Option Nat} (hi : ∀ k ∈ i, k + 2 ≤ l.length)
    (hj : ∀ k ∈ j, k + 2 ≤ l.length) : lastTo i l = lastTo j l ↔ i = j := by
  refine ⟨fun heq => ?_, fun h => by rw [h]⟩
  cases i with
  | none =>
      cases j with
      | none => rfl
      | some j => exact absurd heq.symm (lastTo_ne_of_lt hnodup (hj j rfl) fun k hk => nomatch hk)
  | some i =>
      cases j with
      | none => exact absurd heq (lastTo_ne_of_lt hnodup (hi i rfl) fun k hk => nomatch hk)
      | some j =>
          rcases Nat.lt_trichotomy i j with hlt | rfl | hgt
          · refine absurd heq (lastTo_ne_of_lt hnodup (hi i rfl) fun k hk => ?_)
            cases hk
            exact ⟨hlt, hj j rfl⟩
          · rfl
          · refine absurd heq.symm (lastTo_ne_of_lt hnodup (hj j rfl) fun k hk => ?_)
            cases hk
            exact ⟨hgt, hi i rfl⟩

end V2XHub.Lib
