import Mathlib.Data.List.Forall2
import Mathlib.Data.List.Basic

/-!
# Lists rewritten row by row

A table in memory is a list that loops rewrite in place: every row by a function of its index
(`List.mapIdx`), or one row (`List.modify`). What such a loop can do is `List.Forall₂ R before
after` with `R` saying what it can do to one row; this module derives that relation for both kinds
of loop and carries properties of a table — of each row, or of each pair of rows — across it.
-/

namespace V2XHub.Lib

variable {α β : Type} {R : α → β → Prop}

/-- The row after the loop comes from the row at the same index before it. -/
theorem exists_before {l : List α} {l' : List β} (h : List.Forall₂ R l l') {i : Nat} {b : β}
    (hb : l'[i]? = some b) : ∃ a, l[i]? = some a ∧ R a b := by
  obtain ⟨hlen, hget⟩ := List.forall₂_iff_get.mp h
  obtain ⟨hi, rfl⟩ := List.getElem?_eq_some_iff.mp hb
  exact ⟨l[i], List.getElem?_eq_getElem _, hget i (hlen ▸ hi) hi⟩

/-- A property of rows that one row's rewriting preserves holds of all rows afterwards. -/
theorem forall_mem_after {P : α → Prop} {Q : β → Prop} {l : List α} {l' : List β}
    (h : List.Forall₂ R l l') (hPQ : ∀ a b, R a b → P a → Q b) (hP : ∀ a ∈ l, P a) :
    ∀ b ∈ l', Q b := by
  intro b hb
  obtain ⟨i, hi⟩ := List.mem_iff_getElem?.mp hb
  obtain ⟨a, ha, hab⟩ := exists_before h hi
  exact hPQ a b hab (hP a (List.mem_of_getElem? ha))

/-- The same for a property of pairs of rows. -/
theorem pairwise_after {P : α → α → Prop} {Q : β → β → Prop} {l : List α} {l' : List β}
    (h : List.Forall₂ R l l') (hPQ : ∀ a b a' b', R a a' → R b b' → P a b → Q a' b')
    (hP : l.Pairwise P) : l'.Pairwise Q := by
  induction h with
  | nil => exact .nil
  | @cons a a' l l' haa' hll' ih =>
      rw [List.pairwise_cons] at hP ⊢
      refine ⟨?_, ih hP.2⟩
      exact forall_mem_after hll' (fun b b' hbb' => hPQ a b a' b' haa' hbb') hP.1

/-- Two loops, one after the other. -/
theorem forall₂_trans {γ : Type} {S : β → γ → Prop} {T : α → γ → Prop}
    (hRST : ∀ a b c, R a b → S b c → T a c) {l₁ : List α} {l₂ : List β} {l₃ : List γ}
    (h₁ : List.Forall₂ R l₁ l₂) (h₂ : List.Forall₂ S l₂ l₃) : List.Forall₂ T l₁ l₃ := by
  induction h₁ generalizing l₃ with
  | nil =>
      cases h₂
      exact .nil
  | cons hab _ ih =>
      cases h₂ with
      | cons hbc htail => exact .cons (hRST _ _ _ hab hbc) (ih htail)

/-- A loop over all rows that does not need the index. -/
theorem forall₂_map {l : List α} {f : α → β} (h : ∀ a ∈ l, R a (f a)) :
    List.Forall₂ R l (l.map f) :=
  List.forall₂_map_right_iff.mpr (List.forall₂_same.mpr h)

/-- A loop over all rows. -/
theorem forall₂_mapIdx {l : List α} {f : Nat → α → β}
    (h : ∀ i a, l[i]? = some a → R a (f i a)) : List.Forall₂ R l (l.mapIdx f) := by
  refine List.forall₂_iff_get.mpr ⟨List.length_mapIdx.symm, fun i h₁ h₂ => ?_⟩
  simpa using h i l[i] (List.getElem?_eq_getElem _)

/-- An assignment to one row. -/
theorem forall₂_modify {R : α → α → Prop} (hrefl : ∀ a, R a a) {l : List α} {i : Nat} {f : α → α}
    (h : ∀ a, l[i]? = some a → R a (f a)) : List.Forall₂ R l (l.modify i f) := by
  refine List.forall₂_iff_get.mpr ⟨(by rw [List.length_modify]), fun j h₁ h₂ => ?_⟩
  simp only [List.get_eq_getElem, List.getElem_modify]
  split_ifs with hij
  · subst hij
    exact h _ (List.getElem?_eq_getElem _)
  · exact hrefl _

/-- An assignment that does not affect `P`. -/
theorem forall_mem_modify {P : α → Prop} {f : α → α} (hf : ∀ a, P (f a) ↔ P a) {l : List α}
    {i : Nat} : (∀ a ∈ l.modify i f, P a) ↔ ∀ a ∈ l, P a := by
  induction l generalizing i with
  | nil => simp
  | cons a l ih => cases i <;> simp [hf, ih]

/-- A row is replaced by one that is compatible with all the others. -/
theorem pairwise_modify {P : α → α → Prop} {l : List α} {i : Nat} {f : α → α} {a : α}
    (hP : l.Pairwise P) (ha : l[i]? = some a)
    (hother : ∀ b ∈ l, P (f a) b ∧ P b (f a)) : (l.modify i f).Pairwise P := by
  rw [List.pairwise_iff_getElem] at hP ⊢
  intro j k hj hk hjk
  rw [List.length_modify] at hj hk
  simp only [List.getElem_modify]
  have hi : i < l.length := (List.getElem?_eq_some_iff.mp ha).1
  have hai : l[i] = a := (List.getElem?_eq_some_iff.mp ha).2
  split_ifs with h₁ h₂ h₂
  · omega
  · subst h₁
    rw [hai]
    exact (hother _ (List.getElem_mem hk)).1
  · subst h₂
    rw [hai]
    exact (hother _ (List.getElem_mem hj)).2
  · exact hP j k hj hk hjk

/-! ## Rows of fixed width -/

/-- Byte `k` of row `i` of a table written out row after row, each row taking `n` bytes. -/
theorem getElem?_flatMap {f : α → List β} {n : Nat} (hf : ∀ a, (f a).length = n) {l : List α}
    {i k : Nat} (hk : k < n) : (l.flatMap f)[i * n + k]? = l[i]?.bind fun a => (f a)[k]? := by
  induction l generalizing i with
  | nil => simp
  | cons a l ih =>
      rw [List.flatMap_cons]
      cases i with
      | zero =>
          rw [List.getElem?_append_left (by rw [hf]; omega)]
          simp
      | succ i =>
          have hidx : (i + 1) * n + k - (f a).length = i * n + k := by
            rw [hf, Nat.add_mul]
            omega
          rw [List.getElem?_append_right (by rw [hf, Nat.add_mul]; omega), hidx, ih]
          simp

end V2XHub.Lib
