import Mathlib.Data.List.Basic

/-!
# Tables addressed by index

A heap or a table is a list, and an address is an index into it. New cells come at the end, so what
was allocated before is a prefix of what there is afterwards, and a cell is written in place with
`List.modify`. The rules below say what can be read from a cell after one of these.
-/

namespace V2XHub.Lib

variable {α β : Type} {l l' : List α} {i j : Nat} {a b : α}

/-- A cell of a table with one more cell is a cell of the old table, or the new one. -/
theorem getElem?_concat_cases (h : (l ++ [a])[i]? = some b) : l[i]? = some b ∨ b = a := by
  rw [List.getElem?_append] at h
  split at h
  · exact .inl h
  · exact .inr (List.mem_singleton.mp (List.mem_of_getElem? h))

/-- A cell of a table after a write is the cell written, or is as it was. -/
theorem getElem?_modify_cases {f : α → α} (h : (l.modify i f)[j]? = some b) :
    (i = j ∧ ∃ a, l[j]? = some a ∧ f a = b) ∨ (i ≠ j ∧ l[j]? = some b) := by
  by_cases hij : i = j
  · subst hij
    rw [List.getElem?_modify_eq] at h
    exact .inl ⟨rfl, Option.map_eq_some_iff.mp h⟩
  · rw [List.getElem?_modify_ne _ _ hij] at h
    exact .inr ⟨hij, h⟩

/-- Writing a cell of a kind with a value of the same kind keeps how many cells of it there are. -/
theorem countP_modify_of_eq {p : α → Bool} {f : α → α} (ha : l[i]? = some a) (hp : p (f a) = p a) :
    (l.modify i f).countP p = l.countP p := by
  induction l generalizing i with
  | nil => cases ha
  | cons b l ih =>
      cases i with
      | zero =>
          obtain rfl := Option.some.inj ha
          rw [List.modify_zero_cons, List.countP_cons, List.countP_cons, hp]
      | succ i => rw [List.modify_succ_cons, List.countP_cons, List.countP_cons, ih ha]

/-- Writing a cell of a kind with a value of another kind takes one away. -/
theorem countP_modify_add_one {p : α → Bool} {f : α → α} (ha : l[i]? = some a) (hpa : p a = true)
    (hp : p (f a) = false) : (l.modify i f).countP p + 1 = l.countP p := by
  induction l generalizing i with
  | nil => cases ha
  | cons b l ih =>
      cases i with
      | zero =>
          obtain rfl := Option.some.inj ha
          simp [hpa, hp]
      | succ i =>
          have htail := ih ha
          rw [List.modify_succ_cons, List.countP_cons, List.countP_cons]
          omega

/-- A search finds the cell that passes when none before it does. -/
theorem findIdx?_eq_some_iff_of_getElem? {p : α → Bool} (ha : l[i]? = some a) :
    l.findIdx? p = some i ↔ p a = true ∧ ∀ j b, j < i → l[j]? = some b → p b = false := by
  obtain ⟨hi, rfl⟩ := List.getElem?_eq_some_iff.mp ha
  rw [List.findIdx?_eq_some_iff_getElem]
  constructor
  · rintro ⟨_, hpa, hbefore⟩
    refine ⟨hpa, fun j b hj hb => ?_⟩
    obtain ⟨hlt, rfl⟩ := List.getElem?_eq_some_iff.mp hb
    exact Bool.eq_false_iff.mpr (hbefore j hj)
  · rintro ⟨hpa, hbefore⟩
    refine ⟨hi, hpa, fun j hj => ?_⟩
    have hlt : j < l.length := Nat.lt_trans hj hi
    rw [hbefore j l[j] hj (List.getElem?_eq_getElem hlt)]
    exact Bool.false_ne_true

/-- What was allocated before can be read afterwards. -/
theorem getElem?_of_isPrefix (h : l <+: l') (ha : l[i]? = some a) : l'[i]? = some a := by
  obtain ⟨t, rfl⟩ := h
  rw [List.getElem?_append_left (List.getElem?_eq_some_iff.mp ha).1]
  exact ha

/-- A write to a new cell leaves the old ones as they are. -/
theorem prefix_modify (f : α → α) (h : l <+: l') (hi : l.length ≤ i) : l <+: l'.modify i f := by
  rw [List.prefix_iff_eq_take] at h ⊢
  rw [List.take_modify, ← h]
  exact (List.modify_eq_self hi).symm

/-- Where no two entries have the same key, the others have other keys than the one taken out. -/
theorem key_ne_of_mem_eraseIdx {key : α → β} (h : (l.map key).Nodup) (ha : l[i]? = some a)
    (hb : b ∈ l.eraseIdx i) : key a ≠ key b := by
  obtain ⟨j, hne, hj⟩ := List.mem_eraseIdx_iff_getElem?.mp hb
  intro heq
  apply hne
  have hlt : j < (l.map key).length := by
    rw [List.length_map]
    exact (List.getElem?_eq_some_iff.mp hj).1
  apply (List.getElem?_inj hlt h).mp
  rw [List.getElem?_map, List.getElem?_map, ha, hj, Option.map_some, Option.map_some, heq]

end V2XHub.Lib
