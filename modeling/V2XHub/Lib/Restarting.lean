import Mathlib.Data.List.Basic

/-!
# Streams of frames that may be begun anew

A frame is an opening symbol `o`, a body and the next closing symbol `c`. Other than in `Delimited`,
an opening symbol inside a frame begins it anew: what was read of the body is dropped, so a body
holds neither of the two symbols.
-/

namespace V2XHub.Lib.Restarting

variable {α : Type} [DecidableEq α] (o c : α)

/-- The body of the open frame after one more symbol. -/
def next (st : Option (List α)) (b : α) : Option (List α) :=
  if b = o then some [] else if b = c then none else st.map (· ++ [b])

/-- The bodies that the symbol completes. -/
def completed (st : Option (List α)) (b : α) : List (List α) :=
  if b = o then [] else if b = c then st.toList else []

/-- The bodies that the stream completes, in order. -/
def frames : Option (List α) → List α → List (List α)
  | _, [] => []
  | st, b :: s => completed o c st b ++ frames (next o c st b) s

/-- The body of the frame that is open at the end of the stream. -/
def openBody (st : Option (List α)) (s : List α) : Option (List α) := s.foldl (next o c) st

variable {o c}

theorem frames_append (st : Option (List α)) (s t : List α) :
    frames o c st (s ++ t) = frames o c st s ++ frames o c (openBody o c st s) t := by
  induction s generalizing st with
  | nil => rfl
  | cons b s ih =>
      show completed o c st b ++ frames o c (next o c st b) (s ++ t) = _
      rw [ih, ← List.append_assoc]
      rfl

theorem openBody_append (st : Option (List α)) (s t : List α) :
    openBody o c st (s ++ t) = openBody o c (openBody o c st s) t :=
  List.foldl_append

/-! ## Which bodies a stream completes -/

/-- The stream completes the frame that is open already, and the body is the one it gets. -/
def Closes (o c : α) (st : Option (List α)) (s body : List α) : Prop :=
  ∃ acc mid post, st = some acc ∧ s = mid ++ c :: post ∧ o ∉ mid ∧ c ∉ mid ∧ body = acc ++ mid

/-- A frame with the body stands in the stream. -/
def Stands (o c : α) (s body : List α) : Prop :=
  ∃ pre post, s = pre ++ o :: body ++ c :: post ∧ o ∉ body ∧ c ∉ body

omit [DecidableEq α] in
theorem stands_cons_iff (b : α) (s body : List α) :
    Stands o c (b :: s) body ↔ b = o ∧ Closes o c (some []) s body ∨ Stands o c s body := by
  constructor
  · rintro ⟨pre, post, heq, ho, hc⟩
    cases pre with
    | nil =>
        obtain ⟨rfl, rfl⟩ := List.cons.inj heq
        exact .inl ⟨rfl, [], body, post, rfl, rfl, ho, hc, rfl⟩
    | cons p pre =>
        obtain ⟨_, hs⟩ := List.cons.inj heq
        exact .inr ⟨pre, post, hs, ho, hc⟩
  · rintro (⟨rfl, acc, mid, post, hacc, hs, ho, hc, hbody⟩ | ⟨pre, post, hs, ho, hc⟩)
    · obtain rfl := Option.some.inj hacc
      rw [List.nil_append] at hbody
      subst hbody
      exact ⟨[], post, by rw [hs]; rfl, ho, hc⟩
    · exact ⟨b :: pre, post, by rw [hs]; rfl, ho, hc⟩

omit [DecidableEq α] in
theorem closes_cons_iff (st : Option (List α)) (b : α) (s body : List α) :
    Closes o c st (b :: s) body ↔
      b = c ∧ st = some body ∨ b ≠ o ∧ b ≠ c ∧ Closes o c (st.map (· ++ [b])) s body := by
  constructor
  · rintro ⟨acc, mid, post, rfl, heq, ho, hc, hbody⟩
    cases mid with
    | nil =>
        rw [List.append_nil] at hbody
        subst hbody
        exact .inl ⟨(List.cons.inj heq).1, rfl⟩
    | cons m mid =>
        obtain ⟨rfl, hs⟩ := List.cons.inj heq
        rw [List.mem_cons, not_or] at ho hc
        refine .inr ⟨Ne.symm ho.1, Ne.symm hc.1, acc ++ [b], mid, post, rfl, hs, ho.2, hc.2, ?_⟩
        rw [hbody, List.append_assoc]
        rfl
  · rintro (⟨rfl, rfl⟩ | ⟨hbo, hbc, acc', mid, post, hst, hs, ho, hc, hbody⟩)
    · exact ⟨body, [], s, rfl, rfl, List.not_mem_nil, List.not_mem_nil, by simp⟩
    · obtain ⟨acc, rfl, rfl⟩ := Option.map_eq_some_iff.mp hst
      refine ⟨acc, b :: mid, post, rfl, by rw [hs]; rfl, ?_, ?_, ?_⟩
      · rw [List.mem_cons, not_or]
        exact ⟨Ne.symm hbo, ho⟩
      · rw [List.mem_cons, not_or]
        exact ⟨Ne.symm hbc, hc⟩
      · rw [hbody, List.append_assoc]
        rfl

theorem mem_frames_iff (hne : o ≠ c) (st : Option (List α)) (s body : List α) :
    body ∈ frames o c st s ↔ Closes o c st s body ∨ Stands o c s body := by
  -- on the stream; an opening symbol makes the frame it begins the open one
  induction s generalizing st with
  | nil => simp [frames, Closes, Stands]
  | cons b s ih =>
      show body ∈ completed o c st b ++ frames o c (next o c st b) s ↔ _
      rw [List.mem_append, ih, closes_cons_iff, stands_cons_iff]
      by_cases hbo : b = o
      · subst hbo
        simp [completed, next, hne]
      · by_cases hbc : b = c
        · subst hbc
          have hnone : ¬ Closes o b none s body := by
            rintro ⟨acc, mid, post, hacc, _⟩
            cases hacc
          simp [completed, next, hbo, hnone]
        · simp [completed, next, hbo, hbc]

/-- The bodies of a whole stream are those of the frames that stand in it. -/
theorem mem_frames_none_iff (hne : o ≠ c) (s body : List α) :
    body ∈ frames o c none s ↔ Stands o c s body := by
  rw [mem_frames_iff hne]
  refine or_iff_right ?_
  rintro ⟨acc, mid, post, hacc, _⟩
  cases hacc

end V2XHub.Lib.Restarting
