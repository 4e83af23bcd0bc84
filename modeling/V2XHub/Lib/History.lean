import Mathlib.Data.List.Basic

/-!
# The latest entry of a key

A table that is overwritten at a key whenever an entry of that key comes by holds, at any time, the
latest entry of each key. This module has the declarative side of such a table: the latest entry in
a list, and the entries of a batch each paired with the latest one before it, those earlier in the
batch included.

`Each` is for what is said of every entry of a history together with the entries before it.
-/

namespace V2XHub.Lib

variable {α β κ : Type} [DecidableEq κ] {key : α → κ}

/-- The last entry of the list with that key. -/
def latest (key : α → κ) (k : κ) (l : List α) : Option α :=
  (l.filter fun a => key a = k).getLast?

theorem latest_append (k : κ) (l l' : List α) :
    latest key k (l ++ l') = (latest key k l').or (latest key k l) := by
  unfold latest
  rw [List.filter_append, List.getLast?_append]

theorem latest_concat (k : κ) (l : List α) (a : α) :
    latest key k (l ++ [a]) = if key a = k then some a else latest key k l := by
  rw [latest_append]
  by_cases h : key a = k
  · simp [latest, h]
  · simp [latest, h]

theorem latest_eq_some {k : κ} {l : List α} {a : α} (h : latest key k l = some a) :
    a ∈ l ∧ key a = k := by
  have hmem := List.mem_of_getLast? h
  rw [List.mem_filter, decide_eq_true_eq] at hmem
  exact hmem

theorem exists_latest (key : α → κ) {l : List α} {a : α} (h : a ∈ l) :
    ∃ b, latest key (key a) l = some b := by
  have hne : l.filter (fun b => key b = key a) ≠ [] :=
    List.ne_nil_of_mem (List.mem_filter.mpr ⟨h, by simp⟩)
  exact ⟨_, List.getLast?_eq_some_getLast hne⟩

/-- Entries that repeat what was latest change nothing. -/
theorem latest_append_of_repeats {past l : List α} (f : α → β)
    (h : ∀ a ∈ l, ∃ b, latest key (key a) past = some b ∧ f b = f a) (k : κ) :
    (latest key k (past ++ l)).map f = (latest key k past).map f := by
  rw [latest_append]
  cases hl : latest key k l with
  | none => rw [Option.none_or]
  | some a =>
      obtain ⟨hmem, rfl⟩ := latest_eq_some hl
      obtain ⟨b, hb, hfb⟩ := h a hmem
      rw [Option.some_or, hb, Option.map_some, Option.map_some, hfb]

/-- The entries of a batch, each with the latest one of its key before it. -/
def withEarlier (key : α → κ) (past : List α) : List α → List (Option α × α)
  | [] => []
  | a :: l => (latest key (key a) past, a) :: withEarlier key (past ++ [a]) l

theorem mem_of_mem_withEarlier {past l : List α} {e : Option α} {a : α}
    (h : (e, a) ∈ withEarlier key past l) : a ∈ l ∧ ∀ b ∈ e, b ∈ past ++ l := by
  -- on the batch: an earlier entry is one of the past, or one of the batch that has joined it
  induction l generalizing past with
  | nil => cases h
  | cons c l ih =>
      rcases List.mem_cons.mp h with heq | hrest
      · cases heq
        refine ⟨List.mem_cons_self, fun b hb => List.mem_append_left _ ?_⟩
        exact (latest_eq_some hb).1
      · obtain ⟨hmem, hearlier⟩ := ih hrest
        refine ⟨List.mem_cons_of_mem c hmem, ?_⟩
        intro b hb
        have := hearlier b hb
        rwa [List.append_assoc, List.singleton_append] at this

/-- Every entry of a batch agrees with the one before it, in whatever `f` tells of an entry, exactly
if all of them agree with what the past ends with. -/
theorem forall_withEarlier_iff {past l : List α} (f : α → β) :
    (∀ q ∈ withEarlier key past l, ∃ b, q.1 = some b ∧ f b = f q.2) ↔
      ∀ a ∈ l, ∃ b, latest key (key a) past = some b ∧ f b = f a := by
  induction l generalizing past with
  | nil => simp [withEarlier]
  | cons c l ih =>
      rw [withEarlier, List.forall_mem_cons, List.forall_mem_cons, ih]
      refine and_congr_right fun ⟨b, hb, hfb⟩ => forall₂_congr fun a _ => ?_
      change latest key (key c) past = some b at hb
      rw [latest_concat]
      split
      · -- `a` comes after `c`, and `c` agrees with the past
        rename_i hkey
        rw [← hkey, hb]
        constructor
        · rintro ⟨_, ⟨⟩, hfa⟩
          exact ⟨b, rfl, hfb.trans hfa⟩
        · rintro ⟨_, ⟨⟩, hfa⟩
          exact ⟨c, rfl, hfb.symm.trans hfa⟩
      · exact Iff.rfl

/-! ## Entries and those before them -/

/-- Every entry stands in this relation to the entries before it. -/
def Each (P : List α → α → Prop) (l : List α) : Prop :=
  ∀ earlier a later, l = earlier ++ a :: later → P earlier a

theorem each_nil (P : List α → α → Prop) : Each P [] := by
  intro earlier a later h
  exact absurd h.symm (by simp)

theorem each_concat {P : List α → α → Prop} {l : List α} {a : α} :
    Each P (l ++ [a]) ↔ Each P l ∧ P l a := by
  constructor
  · intro h
    refine ⟨?_, h l a [] rfl⟩
    intro earlier b later heq
    exact h earlier b (later ++ [a]) (by rw [heq, List.append_assoc, List.cons_append])
  · rintro ⟨h, ha⟩ earlier b later heq
    rcases List.eq_nil_or_concat later with rfl | ⟨later, d, rfl⟩
    · obtain ⟨rfl, hcons⟩ := List.append_inj' heq rfl
      cases hcons
      exact ha
    · rw [List.concat_eq_append, ← List.cons_append, ← List.append_assoc] at heq
      exact h earlier b later (List.append_inj' heq rfl).1

end V2XHub.Lib
