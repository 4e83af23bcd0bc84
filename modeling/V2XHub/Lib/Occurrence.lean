import Mathlib.Data.List.Basic
import Mathlib.Data.List.Infix

/-!
# Where a word occurs in a text

`find` is the search for the first place of a word, the way strings do it: the place itself, or
nothing.
-/

namespace V2XHub.Lib

variable {α : Type} {word s : List α}

/-- The word stands in the text from place `i` on. -/
def OccursAt (word s : List α) (i : Nat) : Prop := word <+: s.drop i

instance [DecidableEq α] (word s : List α) (i : Nat) : Decidable (OccursAt word s i) :=
  inferInstanceAs (Decidable (word <+: s.drop i))

theorem OccursAt.le {i : Nat} (h : OccursAt word s i) (hi : i ≤ s.length) :
    i + word.length ≤ s.length := by
  have hlength := h.length_le
  rw [List.length_drop] at hlength
  omega

variable [DecidableEq α]

/-- The first place of the word. -/
def find (word : List α) : List α → Option Nat
  | [] => if word = [] then some 0 else none
  | c :: s => if word <+: c :: s then some 0 else (find word s).map (· + 1)

end V2XHub.Lib
