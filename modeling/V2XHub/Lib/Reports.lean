import Mathlib.Data.Set.Function
import Mathlib.Data.List.Forall2
import Mathlib.Data.List.Nodup

/-!
# Reports

A report of a set has one line for each thing in the set and no other lines. `Reports line things l`
says so of the list `l`, where `line` tells which lines can stand for a thing. Reports are put
together from reports of disjoint sets.
-/

namespace V2XHub.Lib

variable {α β γ : Type} {line : α → β → Prop} {S T : Set α} {l l' : List β}
variable {line' : γ → β → Prop} {f : α → γ}

/-- No line can stand for two things of the set. -/
def TellsApart (line : α → β → Prop) (S : Set α) : Prop :=
  ∀ a ∈ S, ∀ a' ∈ S, ∀ b, line a b → line a' b → a = a'

/-- `l` has exactly one line for each thing in `S`, and nothing else. -/
def Reports (line : α → β → Prop) (S : Set α) (l : List β) : Prop :=
  ∃ things : List α, things.Nodup ∧ (∀ a, a ∈ things ↔ a ∈ S) ∧ List.Forall₂ line things l

namespace Reports

theorem nil (h : ∀ a, a ∉ S) : Reports line S [] :=
  ⟨[], .nil, fun a => iff_of_false List.not_mem_nil (h a), .nil⟩

theorem of_eq (h : Reports line S l) (heq : S = T) : Reports line T l := heq ▸ h

theorem singleton {a : α} {b : β} (h : line a b) : Reports line {a} [b] :=
  ⟨[a], List.nodup_singleton a, fun _ => List.mem_singleton, .cons h .nil⟩

theorem append (h : Reports line S l) (h' : Reports line T l') (hdisjoint : ∀ a ∈ S, a ∉ T) :
    Reports line (S ∪ T) (l ++ l') := by
  obtain ⟨things, hnodup, hmem, hlines⟩ := h
  obtain ⟨things', hnodup', hmem', hlines'⟩ := h'
  refine ⟨things ++ things', ?_, fun a => ?_, List.rel_append hlines hlines'⟩
  · refine List.nodup_append.mpr ⟨hnodup, hnodup', fun a ha b hb heq => ?_⟩
    rw [heq] at ha
    exact hdisjoint b ((hmem b).mp ha) ((hmem' b).mp hb)
  · rw [List.mem_append, hmem, hmem']
    rfl

/-- The same lines can stand for other things, if these are told apart. -/
theorem image (h : Reports line S l) (hinj : Set.InjOn f S)
    (hline : ∀ a b, line a b → line' (f a) b) : Reports line' (f '' S) l := by
  obtain ⟨things, hnodup, hmem, hlines⟩ := h
  have hinjective : ∀ a ∈ things, ∀ a' ∈ things, f a = f a' → a = a' :=
    fun a ha a' ha' => hinj ((hmem a).mp ha) ((hmem a').mp ha')
  refine ⟨things.map f, hnodup.map_on hinjective, fun a => ?_, ?_⟩
  · rw [List.mem_map]
    simp only [hmem]
    rfl
  · exact List.forall₂_map_left_iff.mpr (hlines.imp hline)

/-- A loop that reports a set in each turn. -/
theorem mapM {f : γ → Option (List β)} {xs : List γ} {S : Nat → Set α}
    (h : ∀ i x, xs[i]? = some x → ∃ r, f x = some r ∧ Reports line (S i) r)
    (hdisjoint : ∀ i j, i ≠ j → ∀ a ∈ S i, a ∉ S j)
    (hbound : ∀ i a, a ∈ S i → i < xs.length) :
    ∃ rs, xs.mapM f = some rs ∧ Reports line {a | ∃ i, a ∈ S i} rs.flatten := by
  induction xs generalizing S with
  | nil =>
      refine ⟨[], rfl, nil ?_⟩
      rintro a ⟨i, ha⟩
      exact absurd (hbound i a ha) (Nat.not_lt_zero i)
  | cons x xs ih =>
      obtain ⟨r, hr, hfirst⟩ := h 0 x rfl
      obtain ⟨rs, hrs, hrest⟩ := ih (S := fun i => S (i + 1)) (fun i => h (i + 1))
        (fun i j hne => hdisjoint _ _ fun heq => hne (Nat.succ.inj heq))
        (fun i a ha => Nat.lt_of_succ_lt_succ (hbound (i + 1) a ha))
      refine ⟨r :: rs, ?_, ?_⟩
      · rw [List.mapM_cons, hr, hrs]
        rfl
      · rw [List.flatten_cons]
        refine (hfirst.append hrest ?_).of_eq ?_
        · rintro a ha ⟨i, hi⟩
          exact hdisjoint 0 (i + 1) (Nat.succ_ne_zero i).symm a ha hi
        · ext a
          constructor
          · rintro (ha | ⟨i, ha⟩)
            · exact ⟨0, ha⟩
            · exact ⟨i + 1, ha⟩
          · rintro ⟨i, ha⟩
            cases i with
            | zero => exact .inl ha
            | succ i => exact .inr ⟨i, ha⟩

/-- A filter that reports a set in each turn. -/
theorem filterMap {f : γ → Option β} {xs : List γ} {S : Nat → Set α}
    (h : ∀ i x, xs[i]? = some x → Reports line (S i) (f x).toList)
    (hdisjoint : ∀ i j, i ≠ j → ∀ a ∈ S i, a ∉ S j)
    (hbound : ∀ i a, a ∈ S i → i < xs.length) :
    Reports line {a | ∃ i, a ∈ S i} (xs.filterMap f) := by
  have hmapM : ∀ xs : List γ, xs.mapM (fun x => some (f x).toList) =
      some (xs.map fun x => (f x).toList) := by
    intro xs
    induction xs with
    | nil => rfl
    | cons x xs ih =>
        rw [List.mapM_cons, ih]
        rfl
  have hflatten : (xs.map fun x => (f x).toList).flatten = xs.filterMap f := by
    rw [List.filterMap_eq_flatMap_toList]
    rfl
  obtain ⟨rs, hrs, hreports⟩ := mapM (fun i x hx => ⟨_, rfl, h i x hx⟩) hdisjoint hbound
  rw [hmapM] at hrs
  cases hrs
  exact hflatten ▸ hreports

/-- Lines that stand for things and for other things as well, where each line tells which. -/
theorem map_eq_of_forall₂ {things : List α} {things' : List γ}
    (h : List.Forall₂ line things l) (h' : List.Forall₂ line' things' l)
    (htells : ∀ a ∈ things, ∀ c ∈ things', ∀ b, line a b → line' c b → f a = c) :
    things.map f = things' := by
  induction h generalizing things' with
  | nil =>
      cases h'
      rfl
  | cons hline _ ih =>
      cases h' with
      | cons hline' hrest =>
          have hhead := htells _ List.mem_cons_self _ List.mem_cons_self _ hline hline'
          have htail := ih hrest fun a ha c hc =>
            htells a (List.mem_cons_of_mem _ ha) c (List.mem_cons_of_mem _ hc)
          rw [List.map_cons, hhead, htail]

/-- Then a report of other things is one of all that the things are taken to, each of them once. -/
theorem eq_image {U : Set γ} (h : Reports line S l) (h' : Reports line' U l)
    (htells : ∀ a ∈ S, ∀ c ∈ U, ∀ b, line a b → line' c b → f a = c) :
    U = f '' S ∧ Set.InjOn f S := by
  obtain ⟨things, hnodup, hmem, hlines⟩ := h
  obtain ⟨things', hnodup', hmem', hlines'⟩ := h'
  have hmap : things.map f = things' := map_eq_of_forall₂ hlines hlines' fun a ha c hc =>
    htells a ((hmem a).mp ha) c ((hmem' c).mp hc)
  rw [← hmap] at hnodup' hmem'
  constructor
  · ext c
    rw [← hmem', List.mem_map]
    simp only [hmem]
    rfl
  · intro a ha a' ha' heq
    exact List.inj_on_of_nodup_map hnodup' ((hmem a).mpr ha) ((hmem a').mpr ha') heq

end Reports

end V2XHub.Lib
