import Mathlib.Data.Rat.Floor
import Mathlib.Tactic.Linarith

/-!
# Numbers cut to integers

A conversion from a number to an integer type drops the fraction, and is undefined where what is
left does not fit the type. Over the rationals it is `convert`, and where it ends up can be read off
the number.
-/

namespace V2XHub.Lib

/-- Rounded towards zero. -/
def trunc (q : ℚ) : Int := if 0 ≤ q then ⌊q⌋ else ⌈q⌉

/-- The conversion to the integer type with these bounds. -/
def convert (lo hi : Int) (q : ℚ) : Option Int :=
  if lo ≤ trunc q ∧ trunc q ≤ hi then some (trunc q) else none

variable {lo hi : Int} {q : ℚ}

@[simp] theorem trunc_intCast (z : Int) : trunc (z : ℚ) = z := by
  unfold trunc
  split_ifs
  · exact Int.floor_intCast z
  · exact Int.ceil_intCast z

theorem trunc_le_iff (h : 0 ≤ hi) : trunc q ≤ hi ↔ q < hi + 1 := by
  have hhi : (0 : ℚ) ≤ hi := by exact_mod_cast h
  unfold trunc
  split_ifs with hq
  · rw [← Int.lt_add_one_iff, Int.floor_lt]
    push_cast
    exact Iff.rfl
  · have hceil : ⌈q⌉ ≤ 0 := Int.ceil_le.mpr (by push_cast; linarith)
    exact iff_of_true (hceil.trans h) (by linarith)

theorem le_trunc_iff (h : lo ≤ 0) : lo ≤ trunc q ↔ (lo : ℚ) - 1 < q := by
  have hlo : (lo : ℚ) ≤ 0 := by exact_mod_cast h
  unfold trunc
  split_ifs with hq
  · have hfloor : 0 ≤ ⌊q⌋ := Int.floor_nonneg.mpr hq
    exact iff_of_true (h.trans hfloor) (by linarith)
  · rw [← Int.sub_one_lt_iff, Int.lt_ceil]
    push_cast
    exact Iff.rfl

/-- An integer is converted to itself if it fits. -/
theorem convert_intCast {z : Int} (hlo : lo ≤ z) (hhi : z ≤ hi) :
    convert lo hi (z : ℚ) = some z := by
  unfold convert
  rw [trunc_intCast, if_pos ⟨hlo, hhi⟩]

theorem convert_intCast_eq_some_iff {z w : Int} :
    convert lo hi (z : ℚ) = some w ↔ (lo ≤ z ∧ z ≤ hi) ∧ z = w := by
  unfold convert
  rw [trunc_intCast]
  split_ifs with h
  · exact ⟨fun heq => ⟨h, Option.some.inj heq⟩, fun heq => congrArg some heq.2⟩
  · exact iff_of_false (fun heq => nomatch heq) (fun heq => h heq.1)

/-- **Where a conversion ends up**, for bounds within those of the type. -/
theorem convert_mem_iff {lo' hi' : Int} (hlo : lo ≤ lo') (hlo' : lo' ≤ 0) (hhi' : 0 ≤ hi')
    (hhi : hi' ≤ hi) :
    (∃ z, convert lo hi q = some z ∧ lo' ≤ z ∧ z ≤ hi') ↔
      (lo' : ℚ) - 1 < q ∧ q < (hi' : ℚ) + 1 := by
  rw [← le_trunc_iff hlo', ← trunc_le_iff hhi']
  unfold convert
  constructor
  · rintro ⟨z, hz, hlower, hupper⟩
    split_ifs at hz
    cases hz
    exact ⟨hlower, hupper⟩
  · rintro ⟨hlower, hupper⟩
    exact ⟨trunc q, if_pos ⟨hlo.trans hlower, hupper.trans hhi⟩, hlower, hupper⟩

end V2XHub.Lib
