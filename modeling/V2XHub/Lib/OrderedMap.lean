import Mathlib.Order.Lattice
import V2XHub.Lib.AssocList

/-!
# Ordered maps

A map that is iterated in the order of its keys is a list of keys and values with rising keys.
`assign` is the assignment through `operator[]` of such a map, and the first key is the least.
-/

namespace V2XHub.Lib

variable {κ α : Type} [LinearOrder κ]

/-- The value of a key, replaced or put in its place. -/
def assign (k : κ) (a : α) : List (κ × α) → List (κ × α)
  | [] => [(k, a)]
  | (k', a') :: rest =>
      if k < k' then (k, a) :: (k', a') :: rest
      else if k = k' then (k, a) :: rest
      else (k', a') :: assign k a rest

theorem lookup_assign_self (k : κ) (a : α) (m : List (κ × α)) :
    (assign k a m).lookup k = some a := by
  induction m with
  | nil => exact List.lookup_cons_self
  | cons entry rest ih =>
      rw [assign]
      split
      · exact List.lookup_cons_self
      · split
        · exact List.lookup_cons_self
        · rename_i hne
          rw [List.lookup_cons, beq_eq_false_iff_ne.mpr hne]
          exact ih

theorem lookup_assign_of_ne {k k' : κ} (h : k' ≠ k) (a : α) (m : List (κ × α)) :
    (assign k a m).lookup k' = m.lookup k' := by
  induction m with
  | nil =>
      rw [assign, List.lookup_cons, beq_eq_false_iff_ne.mpr h]
  | cons entry rest ih =>
      rw [assign]
      split
      · rw [List.lookup_cons, beq_eq_false_iff_ne.mpr h]
      · split
        · rename_i heq
          rw [List.lookup_cons, List.lookup_cons, beq_eq_false_iff_ne.mpr h,
            beq_eq_false_iff_ne.mpr (heq ▸ h)]
        · rw [List.lookup_cons, List.lookup_cons, ih]

/-- The keys of a map rise. -/
def Rising (m : List (κ × α)) : Prop := (m.map Prod.fst).Pairwise (· < ·)

theorem mem_keys_assign {k k' : κ} {a : α} {m : List (κ × α)}
    (h : k' ∈ (assign k a m).map Prod.fst) : k' = k ∨ k' ∈ m.map Prod.fst := by
  by_cases heq : k' = k
  · exact .inl heq
  · right
    by_contra hnot
    rw [← lookup_eq_none_iff_not_mem, ← lookup_assign_of_ne heq a m,
      lookup_eq_none_iff_not_mem] at hnot
    exact hnot h

theorem Rising.assign {m : List (κ × α)} (h : Rising m) (k : κ) (a : α) :
    Rising (assign k a m) := by
  induction m with
  | nil => exact List.pairwise_singleton _ _
  | cons entry rest ih =>
      obtain ⟨k', a'⟩ := entry
      obtain ⟨hfirst, hrest⟩ := List.pairwise_cons.mp h
      rw [V2XHub.Lib.assign]
      split
      · rename_i hlt
        refine List.pairwise_cons.mpr ⟨?_, h⟩
        intro b hb
        rcases List.mem_cons.mp hb with rfl | hb
        · exact hlt
        · exact lt_trans hlt (hfirst b hb)
      · split
        · rename_i heq
          subst heq
          exact List.pairwise_cons.mpr ⟨hfirst, hrest⟩
        · rename_i hnot hne
          refine List.pairwise_cons.mpr ⟨?_, ih hrest⟩
          intro b hb
          rcases mem_keys_assign hb with rfl | hb
          · exact lt_of_le_of_ne (not_lt.mp hnot) (Ne.symm hne)
          · exact hfirst b hb

/-- The first key is the least. -/
theorem Rising.head_le {m : List (κ × α)} (h : Rising m) {k k' : κ} {a : α}
    (hhead : m.head?.map Prod.fst = some k) (hk : m.lookup k' = some a) : k ≤ k' := by
  cases m with
  | nil => cases hhead
  | cons entry rest =>
      cases hhead
      have hmem := List.mem_map_of_mem (f := Prod.fst) (mem_of_lookup hk)
      rcases List.mem_cons.mp hmem with heq | hmem
      · exact le_of_eq heq.symm
      · exact le_of_lt ((List.pairwise_cons.mp h).1 k' hmem)

/-! ## One assignment after the other -/

/-- The last value of a key stays. -/
theorem lookup_foldl_assign (k : κ) (entries m : List (κ × α)) :
    (entries.foldl (fun m e => assign e.1 e.2 m) m).lookup k =
      (entries.reverse.lookup k).or (m.lookup k) := by
  induction entries generalizing m with
  | nil => rfl
  | cons e entries ih =>
      rw [List.foldl_cons, ih, List.reverse_cons, List.lookup_append, Option.or_assoc]
      congr 1
      by_cases heq : k = e.1
      · subst heq
        rw [lookup_assign_self, List.lookup_cons_self, Option.some_or]
      · rw [lookup_assign_of_ne heq, List.lookup_cons, beq_eq_false_iff_ne.mpr heq]
        rfl

theorem Rising.foldl_assign {m : List (κ × α)} (h : Rising m) (entries : List (κ × α)) :
    Rising (entries.foldl (fun m e => V2XHub.Lib.assign e.1 e.2 m) m) := by
  induction entries generalizing m with
  | nil => exact h
  | cons e entries ih => exact ih (h.assign e.1 e.2)

end V2XHub.Lib
