import Mathlib.Data.List.Basic
import Mathlib.Data.List.TakeDrop

/-!
# Resolving paths

A path is a text with components between slashes. An empty component and `.` stay where they are,
`..` goes up, and at the root stays there; any other component goes down. Without a root to start
from, a path comes to a number of steps up and some names below.
-/

namespace V2XHub.Lib.Paths

/-- What stands between two slashes. -/
abbrev Component := List Char

def components (path : List Char) : List Component := path.splitOn '/'

/-- A component after what is resolved so far. -/
def descend (place : List Component) (c : Component) : List Component :=
  if c = [] ∨ c = ['.'] then place
  else if c = ['.', '.'] then place.dropLast
  else place ++ [c]

/-- The place a list of components comes to. -/
def resolve (cs : List Component) : List Component := cs.foldl descend []

/-- Where a text leads to. -/
def resolveText (path : List Char) : List Component := resolve (components path)

/-- A place below another, and not that place itself. -/
def StrictlyBelow (root place : List Component) : Prop :=
  ∃ names, names ≠ [] ∧ place = root ++ names

/-! ## Paths without a root -/

/-- Some steps up, and names from there. -/
structure Relative where
  ups : Nat := 0
  names : List Component := []
  deriving DecidableEq, Repr

namespace Relative

def descend (r : Relative) (c : Component) : Relative :=
  if c = [] ∨ c = ['.'] then r
  else if c = ['.', '.'] then
    if r.names = [] then { r with ups := r.ups + 1 } else { r with names := r.names.dropLast }
  else { r with names := r.names ++ [c] }

/-- What a list of components comes to. -/
def of (cs : List Component) : Relative := cs.foldl descend {}

/-- The place that is meant, seen from some other place. -/
def seenFrom (r : Relative) (place : List Component) : List Component :=
  place.take (place.length - r.ups) ++ r.names

theorem seenFrom_descend (r : Relative) (place : List Component) (c : Component) :
    (r.descend c).seenFrom place = Paths.descend (r.seenFrom place) c := by
  rw [descend, Paths.descend]
  split
  · rfl
  · split
    · split
      · rename_i hnames
        rw [seenFrom, seenFrom, hnames, List.append_nil, List.append_nil, List.dropLast_eq_take,
          List.take_take, List.length_take]
        show place.take (place.length - (r.ups + 1)) = _
        congr 1
        omega
      · rename_i hnames
        rw [seenFrom, seenFrom, List.dropLast_append_of_ne_nil hnames]
    · rw [seenFrom, seenFrom, List.append_assoc]

theorem foldl_descend (r : Relative) (place : List Component) (cs : List Component) :
    cs.foldl Paths.descend (r.seenFrom place) = (cs.foldl descend r).seenFrom place := by
  induction cs generalizing r with
  | nil => rfl
  | cons c cs ih => rw [List.foldl_cons, List.foldl_cons, ← seenFrom_descend, ih]

/-- **Resolving from a place**: up from it, then down the names. -/
theorem foldl_descend_eq (place : List Component) (cs : List Component) :
    cs.foldl Paths.descend place = (of cs).seenFrom place := by
  have hstart : ({} : Relative).seenFrom place = place := by
    rw [seenFrom, Nat.sub_zero, List.take_length, List.append_nil]
  have hfold := foldl_descend {} place cs
  rwa [hstart] at hfold

/-- A path that does not go up stays below. -/
theorem strictlyBelow_of_ups_eq_zero {r : Relative} (h : r.ups = 0) (place : List Component) :
    StrictlyBelow place (r.seenFrom place) ↔ r.names ≠ [] := by
  rw [seenFrom, h, Nat.sub_zero, List.take_length]
  constructor
  · rintro ⟨names, hne, heq⟩
    rwa [List.append_cancel_left heq]
  · intro hne
    exact ⟨r.names, hne, rfl⟩

/-- A path that goes up once is below only if it comes back in, or had nowhere to go. -/
theorem strictlyBelow_of_ups_eq_one {r : Relative} (h : r.ups = 1) (hnames : r.names ≠ [])
    (place : List Component) :
    StrictlyBelow place (r.seenFrom place) ↔
      place = [] ∨ ∃ last name names, place.getLast? = some last ∧
        r.names = last :: name :: names := by
  rcases List.eq_nil_or_concat place with rfl | ⟨front, last, rfl⟩
  · simp only [true_or, iff_true]
    exact ⟨r.names, hnames, by simp [seenFrom]⟩
  · rw [List.concat_eq_append]
    have hseen : r.seenFrom (front ++ [last]) = front ++ r.names := by
      rw [seenFrom, h, List.length_append, List.length_singleton, Nat.add_sub_cancel,
        List.take_left]
    rw [hseen]
    constructor
    · rintro ⟨names, hne, heq⟩
      right
      rw [List.append_assoc] at heq
      have hnames' := List.append_cancel_left heq
      obtain ⟨name, names, rfl⟩ := List.exists_cons_of_ne_nil hne
      exact ⟨last, name, names, by simp, hnames'⟩
    · rintro (hnil | ⟨last', name, names, hlast, heq⟩)
      · simp at hnil
      · rw [List.getLast?_concat, Option.some_inj] at hlast
        subst hlast
        exact ⟨name :: names, by simp, by rw [heq, List.append_assoc]; rfl⟩

end Relative

/-! ## Components that stay -/

theorem foldl_descend_filter {keep : Component → Bool}
    (hkeep : ∀ c, keep c = false → c = [] ∨ c = ['.']) (cs place : List Component) :
    (cs.filter keep).foldl descend place = cs.foldl descend place := by
  induction cs generalizing place with
  | nil => rfl
  | cons c cs ih =>
      rw [List.filter_cons, List.foldl_cons]
      split
      · rw [List.foldl_cons, ih]
      · rename_i hc
        have hstay : descend place c = place := by
          rw [descend, if_pos (hkeep c (by simpa using hc))]
        rw [ih, hstay]

theorem Relative.of_filter {keep : Component → Bool}
    (hkeep : ∀ c, keep c = false → c = [] ∨ c = ['.']) (cs : List Component) :
    Relative.of (cs.filter keep) = Relative.of cs := by
  have hfold : ∀ r : Relative, (cs.filter keep).foldl Relative.descend r =
      cs.foldl Relative.descend r := by
    induction cs with
    | nil => exact fun _ => rfl
    | cons c cs ih =>
        intro r
        rw [List.filter_cons, List.foldl_cons]
        split
        · rw [List.foldl_cons, ih]
        · rename_i hc
          have hstay : r.descend c = r := by
            rw [Relative.descend, if_pos (hkeep c (by simpa using hc))]
          rw [ih, hstay]
  exact hfold {}

/-! ## Texts put together from components -/

/-- Every component with a slash in front. -/
def pathOf (cs : List Component) : List Char := cs.flatMap ('/' :: ·)

theorem splitOn_append_pathOf {word : Component} {cs : List Component} (hword : '/' ∉ word)
    (h : ∀ c ∈ cs, '/' ∉ c) : (word ++ pathOf cs).splitOn '/' = word :: cs := by
  induction cs generalizing word with
  | nil =>
      show (word ++ []).splitOn '/' = [word]
      rw [List.append_nil, List.splitOn_eq_singleton hword]
  | cons c cs ih =>
      have hrest := ih (h c (List.mem_cons_self ..)) fun c' hc' => h c' (List.mem_cons_of_mem _ hc')
      show (word ++ '/' :: (c ++ pathOf cs)).splitOn '/' = _
      rw [List.splitOn_append_cons_self_of_not_mem hword, hrest]

theorem resolveText_pathOf {cs : List Component} (h : ∀ c ∈ cs, '/' ∉ c) :
    resolveText (pathOf cs) = resolve cs := by
  have hsplit := splitOn_append_pathOf (List.not_mem_nil : '/' ∉ []) h
  rw [List.nil_append] at hsplit
  rw [resolveText, components, hsplit]
  rfl

end V2XHub.Lib.Paths
