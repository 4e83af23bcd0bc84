import Mathlib.Logic.Function.Basic

/-!
# Holders remembered by a reference count

Something is held by one of many while a count is positive. Every use raises the count and is given
to the holder, or to a new one if there is none; every use that is over lowers it, and at zero the
holder is forgotten. A use may also get lost on its way, and then nothing lowers the count for it.

`Accounted count holder uses lost` relates the two variables of such a scheme to what they stand
for: `uses i` uses that are with `i`, and `lost` that are with nobody.
-/

namespace V2XHub.Lib

variable {ι : Type} {count : Int} {holder : Option ι} {uses : ι → Nat} {lost : Nat}

/-- The count and the holder fit the uses: all of them are with the holder, and there is one exactly
while there are any, the lost ones included. -/
structure Accounted (count : Int) (holder : Option ι) (uses : ι → Nat) (lost : Nat) : Prop where
  free : holder = none → count = 0 ∧ lost = 0
  held : ∀ i, holder = some i → 0 < count ∧ count = uses i + lost
  alone : ∀ i, holder ≠ some i → uses i = 0

/-- The holder after a use is over. -/
def holderAfter (count : Int) (holder : Option ι) : Option ι :=
  if count - 1 = 0 then none else holder

namespace Accounted

theorem initial : Accounted 0 (none : Option ι) (fun _ => 0) 0 where
  free := fun _ => ⟨rfl, rfl⟩
  held := fun _ h => by cases h
  alone := fun _ _ => rfl

theorem holder_of_uses (h : Accounted count holder uses lost) {i : ι} (hi : 0 < uses i) :
    holder = some i := by
  by_contra hne
  rw [h.alone i hne] at hi
  exact Nat.lt_irrefl 0 hi

/-- With no use under way, nobody is remembered exactly if none got lost. -/
theorem free_iff (h : Accounted count holder uses lost) (hidle : ∀ i, uses i = 0) :
    count = 0 ∧ holder = none ↔ lost = 0 := by
  cases hholder : holder with
  | none =>
      obtain ⟨hcount, hlost⟩ := h.free hholder
      simp [hcount, hlost]
  | some i =>
      obtain ⟨hpos, hcount⟩ := h.held i hholder
      rw [hidle i] at hcount
      constructor
      · rintro ⟨hzero, _⟩
        omega
      · intro hlost
        omega

variable [DecidableEq ι]

/-- A use is given to `i`: the holder, or anyone if there is none. -/
theorem acquire (h : Accounted count holder uses lost) {i : ι}
    (hi : holder = none ∨ holder = some i) :
    Accounted (count + 1) (some i) (Function.update uses i (uses i + 1)) lost where
  free := fun hnone => by cases hnone
  held := by
    rintro _ ⟨⟩
    rw [Function.update_self]
    rcases hi with hnone | hsome
    · have huses : uses i = 0 := h.alone i (by rw [hnone]; exact (Option.some_ne_none i).symm)
      obtain ⟨hcount, hlost⟩ := h.free hnone
      omega
    · obtain ⟨hpos, hcount⟩ := h.held i hsome
      omega
  alone := by
    intro j hj
    have hne : j ≠ i := by
      rintro rfl
      exact hj rfl
    rw [Function.update_of_ne hne]
    apply h.alone j
    intro hholder
    rcases hi with hnone | hsome
    · rw [hnone] at hholder
      cases hholder
    · rw [hsome] at hholder
      exact hne (Option.some.inj hholder).symm

/-- A use of the holder gets lost. -/
theorem lose (h : Accounted count holder uses lost) {i : ι} {left : Nat}
    (hi : uses i = left + 1) :
    Accounted count holder (Function.update uses i left) (lost + 1) where
  free := by
    intro hnone
    rw [h.holder_of_uses (i := i) (by omega)] at hnone
    cases hnone
  held := by
    intro j hj
    have hholder := h.holder_of_uses (i := i) (by omega)
    obtain rfl : i = j := Option.some.inj (hholder.symm.trans hj)
    obtain ⟨hpos, hcount⟩ := h.held i hj
    rw [Function.update_self]
    omega
  alone := by
    intro j hj
    have hne : j ≠ i := by
      rintro rfl
      exact hj (h.holder_of_uses (by omega))
    rw [Function.update_of_ne hne]
    exact h.alone j hj

/-- A use is over. -/
theorem release (h : Accounted count holder uses lost) {i : ι} {left : Nat}
    (hi : uses i = left + 1) :
    Accounted (count - 1) (holderAfter count holder) (Function.update uses i left) lost := by
  have hholder := h.holder_of_uses (i := i) (by omega)
  obtain ⟨hpos, hcount⟩ := h.held i hholder
  have hothers : ∀ j, j ≠ i → Function.update uses i left j = 0 := by
    intro j hne
    rw [Function.update_of_ne hne]
    refine h.alone j fun hj => hne ?_
    exact (Option.some.inj (hholder.symm.trans hj)).symm
  unfold holderAfter
  by_cases hzero : count - 1 = 0
  · rw [if_pos hzero]
    constructor
    · intro _
      exact ⟨hzero, by omega⟩
    · intro j hj
      cases hj
    · intro j _
      by_cases hne : j = i
      · rw [hne, Function.update_self]
        omega
      · exact hothers j hne
  · rw [if_neg hzero, hholder]
    constructor
    · intro hnone
      cases hnone
    · rintro _ ⟨⟩
      rw [Function.update_self]
      omega
    · intro j hj
      apply hothers
      rintro rfl
      exact hj rfl

end Accounted

end V2XHub.Lib
