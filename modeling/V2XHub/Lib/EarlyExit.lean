import Mathlib.Data.List.Nodup
import V2XHub.Lib.Throwing

/-!
# Loops that are left early

A loop over a list does something for each element and is left at the first one for which it cannot.
What it has done then is what it should do for the elements before that one. It has done what it
should do for all elements that it can, if none of them stands behind one that it cannot.
-/

namespace V2XHub.Lib

variable {σ α β κ : Type}

/-! ## What a loop does -/

theorem foldlM_flatMap {f : σ → β → Except σ σ} {g : α → List β} (l : List α) (s : σ) :
    l.foldlM (fun s a => (g a).foldlM f s) s = (l.flatMap g).foldlM f s := by
  induction l generalizing s with
  | nil => rfl
  | cons a l ih =>
      rw [List.foldlM_cons, List.flatMap_cons, List.foldlM_append]
      simp only [ih]

/-- `done` is what a state tells of what the loop has done, `I` an invariant of the loop. -/
theorem done_foldlM {I : σ → Prop} {done : σ → List β} {f : σ → α → Except σ σ} {p : α → Bool}
    {act : α → β} {l : List α} {s : σ}
    (hgoes : ∀ s, I s → ∀ a ∈ l, p a = true →
      ∃ t, f s a = .ok t ∧ I t ∧ done t = done s ++ [act a])
    (hleaves : ∀ s, I s → ∀ a ∈ l, p a = false → ∃ t, f s a = .error t ∧ done t = done s)
    (hs : I s) : done (final (l.foldlM f s)) = done s ++ (l.takeWhile p).map act := by
  induction l generalizing s with
  | nil => exact (List.append_nil _).symm
  | cons a l ih =>
      rw [List.foldlM_cons]
      cases ha : p a with
      | true =>
          obtain ⟨t, ht, hIt, hdone⟩ := hgoes s hs a List.mem_cons_self ha
          rw [ht, List.takeWhile_cons_of_pos ha, List.map_cons]
          show done (final (l.foldlM f t)) = _
          have hrest := ih (fun s hs b hb => hgoes s hs b (List.mem_cons_of_mem a hb))
            (fun s hs b hb => hleaves s hs b (List.mem_cons_of_mem a hb)) hIt
          rw [hrest, hdone, List.append_assoc]
          rfl
      | false =>
          obtain ⟨t, ht, hdone⟩ := hleaves s hs a List.mem_cons_self ha
          rw [ht, List.takeWhile_cons_of_neg (by simp [ha])]
          show done t = _
          rw [hdone, List.map_nil, List.append_nil]

/-! ## What it should do -/

variable {p : α → Bool} {l : List α}

theorem takeWhile_sublist_filter : (l.takeWhile p).Sublist (l.filter p) := by
  have hall : (l.takeWhile p).filter p = l.takeWhile p :=
    List.filter_eq_self.mpr (List.all_eq_true.mp List.all_takeWhile)
  rw [← hall]
  exact (List.takeWhile_sublist p).filter p

/-- No element is lost if none stands behind one at which the loop is left. -/
theorem takeWhile_eq_filter_iff :
    l.takeWhile p = l.filter p ↔ l.Pairwise fun a b => p b = true → p a = true := by
  induction l with
  | nil => simp
  | cons a l ih =>
      rw [List.pairwise_cons]
      cases ha : p a with
      | true =>
          rw [List.takeWhile_cons_of_pos ha, List.filter_cons_of_pos ha, List.cons_inj_right, ih]
          exact ⟨fun h => ⟨fun _ _ _ => rfl, h⟩, And.right⟩
      | false =>
          rw [List.takeWhile_cons_of_neg (by simp [ha]), List.filter_cons_of_neg (by simp [ha])]
          constructor
          · intro hnil
            have hnone := List.filter_eq_nil_iff.mp hnil.symm
            refine ⟨fun b hb hpb => absurd hpb (hnone b hb), ?_⟩
            apply List.pairwise_of_forall_mem_list
            intro b _ c hc hpc
            exact absurd hpc (hnone c hc)
          · rintro ⟨hnone, -⟩
            exact (List.filter_eq_nil_iff.mpr fun b hb hpb => nomatch hnone b hb hpb).symm

/-- What is done carries a key, so that each element can be told from the others. -/
theorem map_perm_map_iff (key : β → κ) (label : α → κ) {act act' : α → β}
    (hact : ∀ a, key (act a) = label a) (hact' : ∀ a, key (act' a) = label a)
    (hnodup : (l.map label).Nodup) :
    (l.map act).Perm (l.map act') ↔ ∀ a ∈ l, act a = act' a := by
  constructor
  · intro hperm a ha
    obtain ⟨b, hb, heq⟩ := List.mem_map.mp (hperm.mem_iff.mp (List.mem_map_of_mem ha))
    have hlabel : label b = label a := by rw [← hact', heq, hact]
    rw [← heq, List.inj_on_of_nodup_map hnodup hb ha hlabel]
  · intro h
    rw [List.map_congr_left h]

/-- The loop goes on where `q` holds, and should do something where `p` does. -/
theorem takeWhile_eq_filter_iff_of_imp {q : α → Bool} (hqp : ∀ a, q a = true → p a = true) :
    l.takeWhile q = l.filter p ↔
      (∀ a ∈ l, p a = true → q a = true) ∧ l.Pairwise fun a b => p b = true → p a = true := by
  have hsame : (∀ a ∈ l, p a = true → q a = true) →
      l.filter q = l.filter p ∧ l.takeWhile q = l.takeWhile p := by
    intro h
    have heq : ∀ a ∈ l, q a = p a := fun a ha => Bool.eq_iff_iff.mpr ⟨hqp a, h a ha⟩
    refine ⟨List.filter_congr heq, ?_⟩
    induction l with
    | nil => rfl
    | cons a l ih =>
        obtain ⟨ha, hl⟩ := List.forall_mem_cons.mp heq
        rw [List.takeWhile_cons, List.takeWhile_cons, ha,
          ih (fun b hb => h b (List.mem_cons_of_mem a hb)) hl]
  constructor
  · intro htakes
    have hall : ∀ a ∈ l, p a = true → q a = true := by
      intro a ha hpa
      have hmem : a ∈ l.takeWhile q := htakes ▸ List.mem_filter.mpr ⟨ha, hpa⟩
      exact List.all_eq_true.mp List.all_takeWhile a hmem
    rw [(hsame hall).2] at htakes
    exact ⟨hall, takeWhile_eq_filter_iff.mp htakes⟩
  · rintro ⟨hall, hpairwise⟩
    rw [(hsame hall).2]
    exact takeWhile_eq_filter_iff.mpr hpairwise

/-- **What a loop does that is left early**, up to order: it is what it should do exactly if it goes
on where it should do something, nothing is lost and everything is done right. -/
theorem takeWhile_map_perm_iff (key : β → κ) (label : α → κ) {act act' : α → β} {q : α → Bool}
    (hqp : ∀ a, q a = true → p a = true)
    (hact : ∀ a, key (act a) = label a) (hact' : ∀ a, key (act' a) = label a)
    (hnodup : (l.map label).Nodup) :
    ((l.takeWhile q).map act).Perm ((l.filter p).map act') ↔
      (∀ a ∈ l, p a = true → q a = true) ∧ (l.Pairwise fun a b => p b = true → p a = true) ∧
        ∀ a ∈ l, p a = true → act a = act' a := by
  have hfilter : ((l.filter p).map label).Nodup := hnodup.sublist (List.filter_sublist.map label)
  have hsame : (∀ a ∈ l, p a = true → act a = act' a) ↔ ∀ a ∈ l.filter p, act a = act' a := by
    simp only [List.mem_filter, and_imp]
  have hsublist : (l.takeWhile q).Sublist (l.filter p) :=
    takeWhile_sublist_filter.trans (List.monotone_filter_right l hqp)
  rw [← and_assoc, ← takeWhile_eq_filter_iff_of_imp hqp, hsame,
    ← map_perm_map_iff key label hact hact' hfilter]
  constructor
  · intro hperm
    have hlength := hperm.length_eq
    rw [List.length_map, List.length_map] at hlength
    have heq := hsublist.eq_of_length hlength
    exact ⟨heq, heq ▸ hperm⟩
  · rintro ⟨heq, hperm⟩
    rwa [heq]

end V2XHub.Lib
