import Mathlib.Data.List.Nodup

/-!
# Lists of names and values

`List.lookup` finds the first value of a name. Where no name stands twice, the lookup says the same
as membership, and everything about filtering and mapping such a list follows from that.
-/

namespace V2XHub.Lib

variable {α β γ : Type} [BEq α] [LawfulBEq α] {l : List (α × β)} {a : α} {b : β}

theorem mem_of_lookup (h : l.lookup a = some b) : (a, b) ∈ l := by
  obtain ⟨l₁, l₂, rfl, _⟩ := List.lookup_eq_some_iff.mp h
  exact List.mem_append_right _ List.mem_cons_self

theorem lookup_eq_none_iff_not_mem : l.lookup a = none ↔ a ∉ l.map Prod.fst := by
  rw [List.lookup_eq_none_iff]
  constructor
  · intro h hmem
    obtain ⟨p, hp, rfl⟩ := List.mem_map.mp hmem
    have hne := h p hp
    rw [bne_self_eq_false] at hne
    cases hne
  · intro h p hp
    refine bne_iff_ne.mpr fun heq => h ?_
    rw [heq]
    exact List.mem_map_of_mem hp

theorem lookup_eq_some_iff_mem (h : (l.map Prod.fst).Nodup) :
    l.lookup a = some b ↔ (a, b) ∈ l := by
  refine ⟨mem_of_lookup, ?_⟩
  intro hmem
  cases hl : l.lookup a with
  | none => exact absurd (List.mem_map_of_mem hmem) (lookup_eq_none_iff_not_mem.mp hl)
  | some b' =>
      have hmem' := mem_of_lookup hl
      have heq : (a, b') = (a, b) := List.inj_on_of_nodup_map h hmem' hmem rfl
      rw [(Prod.mk.inj heq).2]

theorem lookup_map (f : α → β → γ) (l : List (α × β)) (a : α) :
    (l.map fun p => (p.1, f p.1 p.2)).lookup a = (l.lookup a).map (f a) := by
  induction l with
  | nil => rfl
  | cons p l ih =>
      rw [List.map_cons, List.lookup_cons, List.lookup_cons, ih]
      by_cases heq : a = p.1
      · rw [← heq, beq_self_eq_true]
        rfl
      · rw [beq_eq_false_iff_ne.mpr heq]

theorem lookup_filter (h : (l.map Prod.fst).Nodup) (p : α × β → Bool) (a : α) :
    (l.filter p).lookup a = (l.lookup a).filter fun b => p (a, b) := by
  apply Option.ext
  intro b
  rw [lookup_eq_some_iff_mem (h.sublist (List.filter_sublist.map _)), List.mem_filter,
    Option.filter_eq_some_iff, lookup_eq_some_iff_mem h]

theorem lookup_filterMap (h : (l.map Prod.fst).Nodup) (f : α × β → Option γ) (a : α) :
    (l.filterMap fun p => (f p).map fun c => (p.1, c)).lookup a =
      (l.lookup a).bind fun b => f (a, b) := by
  induction l with
  | nil => rfl
  | cons p l ih =>
      obtain ⟨a', b⟩ := p
      rw [List.map_cons, List.nodup_cons] at h
      rw [List.filterMap_cons, List.lookup_cons]
      by_cases heq : a = a'
      · subst heq
        -- no later entry has that name
        have hlater : l.lookup a = none := lookup_eq_none_iff_not_mem.mpr h.1
        cases hf : f (a, b) with
        | none =>
            show (l.filterMap _).lookup a = _
            rw [ih h.2, hlater, beq_self_eq_true]
            exact hf.symm
        | some c =>
            show ((a, c) :: l.filterMap _).lookup a = _
            rw [List.lookup_cons_self, beq_self_eq_true]
            exact hf.symm
      · have hbeq : (a == a') = false := beq_eq_false_iff_ne.mpr heq
        rw [hbeq]
        cases hf : f (a', b) with
        | none => exact ih h.2
        | some c =>
            show ((a', c) :: l.filterMap _).lookup a = _
            rw [List.lookup_cons, hbeq]
            exact ih h.2

theorem lookup_filter_ne [DecidableEq α] {a' : α} (h : a ≠ a') (l : List (α × β)) :
    (l.filter fun p => p.1 ≠ a').lookup a = l.lookup a := by
  induction l with
  | nil => rfl
  | cons p l ih =>
      by_cases heq : p.1 = a'
      · rw [List.filter_cons_of_neg (by simpa using heq), ih, List.lookup_cons,
          beq_eq_false_iff_ne.mpr fun ha => h (ha.trans heq)]
      · rw [List.filter_cons_of_pos (by simpa using heq), List.lookup_cons, List.lookup_cons, ih]

end V2XHub.Lib
