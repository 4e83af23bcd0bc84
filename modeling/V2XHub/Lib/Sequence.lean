import Mathlib.Data.List.Forall2

/-!
# Sequences of computations that may fail

A computation made of steps in `Option` gives a result exactly if every step does. `List.mapM` makes
a result of every element, or none at all: what it gives is related to the list element by element,
and it fails exactly if an element does. The same goes for a loop whose turns fail by themselves.
-/

namespace V2XHub.Lib

variable {α β : Type} {f : α → Option β} {P : α → β → Prop} {xs : List α}

theorem step_eq_some_iff {o : Option α} {b : β} :
    (o >>= f) = some b ↔ ∃ a, o = some a ∧ f a = some b :=
  Option.bind_eq_some_iff

theorem isSome_step_iff {o : Option α} :
    (o >>= f).isSome = true ↔ ∃ a, o = some a ∧ (f a).isSome = true := by
  cases o with
  | none => simp
  | some a => simp

theorem mapM_eq_some_iff {ys : List β} :
    xs.mapM f = some ys ↔ List.Forall₂ (fun x y => f x = some y) xs ys := by
  induction xs generalizing ys with
  | nil =>
      rw [List.mapM_nil, List.forall₂_nil_left_iff]
      exact ⟨fun h => (Option.some.inj h).symm, fun h => congrArg some h.symm⟩
  | cons x xs ih =>
      rw [List.mapM_cons, List.forall₂_cons_left_iff]
      constructor
      · intro h
        obtain ⟨y, hy, h⟩ := Option.bind_eq_some_iff.mp h
        obtain ⟨ys', hys', h⟩ := Option.bind_eq_some_iff.mp h
        cases h
        exact ⟨y, ys', hy, ih.mp hys', rfl⟩
      · rintro ⟨y, ys', hy, hys', rfl⟩
        rw [hy, ih.mpr hys']
        rfl

/-- Results with a property, element by element. -/
theorem exists_mapM_iff :
    (∃ ys, xs.mapM f = some ys ∧ List.Forall₂ P xs ys) ↔ ∀ x ∈ xs, ∃ y, f x = some y ∧ P x y := by
  simp only [mapM_eq_some_iff]
  constructor
  · rintro ⟨ys, hf, hP⟩
    induction hf with
    | nil => exact List.forall_mem_nil _
    | cons hx _ ih =>
        obtain ⟨hPx, hPs⟩ := List.forall₂_cons.mp hP
        exact List.forall_mem_cons.mpr ⟨⟨_, hx, hPx⟩, ih hPs⟩
  · intro h
    induction xs with
    | nil => exact ⟨[], .nil, .nil⟩
    | cons x xs ih =>
        obtain ⟨⟨y, hy, hPy⟩, hxs⟩ := List.forall_mem_cons.mp h
        obtain ⟨ys, hf, hP⟩ := ih hxs
        exact ⟨y :: ys, .cons hy hf, .cons hPy hP⟩

theorem isSome_mapM : (xs.mapM f).isSome = true ↔ ∀ x ∈ xs, (f x).isSome = true := by
  simp only [Option.isSome_iff_exists]
  constructor
  · rintro ⟨ys, hys⟩ x hx
    have hforall := mapM_eq_some_iff.mp hys
    obtain ⟨y, hy, -⟩ := exists_mapM_iff.mp ⟨ys, hys, hforall⟩ x hx
    exact ⟨y, hy⟩
  · intro h
    obtain ⟨ys, hys, -⟩ := exists_mapM_iff.mpr fun x hx =>
      (h x hx).imp fun y hy => And.intro hy hy
    exact ⟨ys, hys⟩

theorem isSome_foldlM {g : β → α → Option β} {Q : α → Prop} {b : β}
    (h : ∀ b a, (g b a).isSome = true ↔ Q a) :
    (xs.foldlM g b).isSome = true ↔ ∀ a ∈ xs, Q a := by
  induction xs generalizing b with
  | nil => exact iff_of_true rfl (List.forall_mem_nil _)
  | cons a xs ih =>
      rw [List.foldlM_cons, isSome_step_iff, List.forall_mem_cons]
      constructor
      · rintro ⟨b', hb', hrest⟩
        exact ⟨(h b a).mp (Option.isSome_of_eq_some hb'), ih.mp hrest⟩
      · rintro ⟨ha, hxs⟩
        obtain ⟨b', hb'⟩ := Option.isSome_iff_exists.mp ((h b a).mpr ha)
        exact ⟨b', hb', ih.mpr hxs⟩

end V2XHub.Lib
