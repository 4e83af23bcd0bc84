import Mathlib.Data.List.Basic

/-!
# Laws of logs

A log has what a system has done, the newest entry first. A law says which entries may come after
which others: `Lawful P log` holds if every entry satisfies `P` together with the entries before it.
A step that adds an entry has to show `P` for this one entry only.
-/

namespace V2XHub.Lib

variable {α : Type} {P : List α → α → Prop}

/-- Every entry is allowed by those before it. -/
def Lawful (P : List α → α → Prop) : List α → Prop
  | [] => True
  | e :: earlier => P earlier e ∧ Lawful P earlier

theorem Lawful.cons {e : α} {earlier : List α} (h : Lawful P earlier) (he : P earlier e) :
    Lawful P (e :: earlier) := ⟨he, h⟩

/-- An entry that is allowed only the first time is there at most once. -/
theorem Lawful.count_le_one [DecidableEq α] {e : α} (hfirst : ∀ earlier, P earlier e → e ∉ earlier)
    {log : List α} (h : Lawful P log) : log.count e ≤ 1 := by
  induction log with
  | nil => exact Nat.zero_le 1
  | cons d log ih =>
      rw [List.count_cons]
      split
      · rename_i heq
        have hd : d = e := eq_of_beq heq
        subst hd
        have hnone : log.count d = 0 := List.count_eq_zero_of_not_mem (hfirst log h.1)
        omega
      · exact ih h.2

end V2XHub.Lib
