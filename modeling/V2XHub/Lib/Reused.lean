import Mathlib.Data.List.Chain

/-!
# Loops that reuse one record

A loop makes a record of each element of a list and collects them. The record is the same variable
in all turns, so a turn that does not write all of it leaves something of the elements before. It
makes of each element what that element alone says exactly if nothing is left of any element that
the next one does not write.
-/

namespace V2XHub.Lib

variable {ε α β : Type}

/-- A loop whose turns write to one record, which is appended after each; `step` may throw. -/
def collect (step : Nat → β → α → Except ε β) : Nat → β → List β → List α → Except ε (List β)
  | _, _, out, [] => .ok out
  | i, record, out, a :: as => do
      let record ← step i record a
      collect step (i + 1) record (out ++ [record]) as

/-- The records one after the other, when no turn throws. -/
def records (fill : β → α → β) : β → List α → List β
  | _, [] => []
  | record, a :: as => fill record a :: records fill (fill record a) as

variable {step : Nat → β → α → Except ε β} {fill : β → α → β} {as : List α}

theorem collect_ok (hstep : ∀ a ∈ as, ∀ i record, step i record a = .ok (fill record a)) (i : Nat)
    (record : β) (out : List β) :
    collect step i record out as = .ok (out ++ records fill record as) := by
  induction as generalizing i record out with
  | nil => rw [collect, records, List.append_nil]
  | cons a as ih =>
      obtain ⟨ha, has⟩ := List.forall_mem_cons.mp hstep
      rw [collect, ha]
      show collect step (i + 1) (fill record a) (out ++ [fill record a]) as = _
      rw [ih has, List.append_assoc]
      rfl

/-- An element at which every turn throws. -/
theorem collect_error {a : α} (ha : a ∈ as)
    (hthrows : ∀ i record, ∃ e, step i record a = .error e) (i : Nat) (record : β)
    (out : List β) : ∃ e, collect step i record out as = .error e := by
  induction as generalizing i record out with
  | nil => exact absurd ha List.not_mem_nil
  | cons b as ih =>
      rw [collect]
      cases hb : step i record b with
      | error e => exact ⟨e, rfl⟩
      | ok record' =>
          rcases List.mem_cons.mp ha with rfl | ha
          · obtain ⟨e, he⟩ := hthrows i record
            rw [hb] at he
            cases he
          · exact ih ha (i + 1) record' _

/-- **The records are those of the elements alone** exactly if the first one is and each is when it
is written over the one before. -/
theorem records_eq_map_iff {entry : α → β} {record : β} :
    records fill record as = as.map entry ↔
      (∀ a ∈ as.head?, fill record a = entry a) ∧
        as.IsChain fun a a' => fill (entry a) a' = entry a' := by
  induction as generalizing record with
  | nil => simp [records]
  | cons a as ih =>
      rw [records, List.map_cons, List.cons.injEq, List.isChain_cons]
      constructor
      · rintro ⟨ha, hrest⟩
        obtain ⟨hhead, hchain⟩ := ih.mp hrest
        rw [ha] at hhead
        exact ⟨fun b hb => by cases hb; exact ha, hhead, hchain⟩
      · rintro ⟨ha, hhead, hchain⟩
        have hentry : fill record a = entry a := ha a rfl
        rw [hentry]
        exact ⟨rfl, ih.mpr ⟨hhead, hchain⟩⟩

end V2XHub.Lib
