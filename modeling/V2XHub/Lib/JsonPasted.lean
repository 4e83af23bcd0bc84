import V2XHub.Lib.JsonText

/-!
# Strings that are pasted into JSON texts

Between quotes, a string that is pasted in as it is, or with nothing but its quotes escaped, is read
as itself only if nothing in it means something else. For an escape takes more characters than it
stands for, and a string that goes on after its end has a quote where the text has none.
-/

namespace V2XHub.Lib.JsonText

/-! ## What is read of a string -/

/-- What stands after a backslash for a character. -/
inductive Escape : List Char → Char → Prop where
  | letter {e d : Char} (h : unescape e = some d) : Escape [e] d
  | hex {c₁ c₂ c₃ c₄ d : Char} (h : readHex c₁ c₂ c₃ c₄ = some d) : Escape ['u', c₁, c₂, c₃, c₄] d

theorem readString_backslash {s v r : List Char} (h : readString ('\\' :: s) = some (v, r)) :
    ∃ code d t v', s = code ++ t ∧ Escape code d ∧ v = d :: v' ∧ readString t = some (v', r) := by
  rw [readString.eq_def] at h
  split at h
  · next heq => cases heq
  · next heq => cases heq
  · next c₁ c₂ c₃ c₄ rest heq =>
      obtain ⟨_, rfl⟩ := List.cons.inj heq
      obtain ⟨d, hd, hrest⟩ := Option.bind_eq_some_iff.mp h
      obtain ⟨x, hx, heq'⟩ := Option.map_eq_some_iff.mp hrest
      cases heq'
      exact ⟨_, d, rest, _, rfl, .hex hd, rfl, hx⟩
  · next e rest _ heq =>
      obtain ⟨_, rfl⟩ := List.cons.inj heq
      obtain ⟨d, hd, hrest⟩ := Option.bind_eq_some_iff.mp h
      obtain ⟨x, hx, heq'⟩ := Option.map_eq_some_iff.mp hrest
      cases heq'
      exact ⟨_, d, rest, _, rfl, .letter hd, rfl, hx⟩
  · next heq =>
      obtain ⟨rfl, rfl⟩ := List.cons.inj heq
      rw [if_pos (.inl rfl)] at h
      cases h

theorem readString_of_ne {c : Char} {s v r : List Char} (hquote : c ≠ '"') (hback : c ≠ '\\')
    (h : readString (c :: s) = some (v, r)) :
    ¬ c.toNat < 0x20 ∧ ∃ v', v = c :: v' ∧ readString s = some (v', r) := by
  have hlow : ¬ c.toNat < 0x20 := by
    intro hlow
    rw [readString] at h
    · rw [if_pos (.inr hlow)] at h
      cases h
    · exact hquote
    · intro _ _ _ _ _ hc
      exact absurd hc hback
    · intro _ _ hc
      exact absurd hc hback
  rw [readString_cons hquote hback hlow] at h
  obtain ⟨x, hx, heq⟩ := Option.map_eq_some_iff.mp h
  cases heq
  exact ⟨hlow, _, rfl, hx⟩

/-! ## Strings that are pasted in -/

/-- The text with that for each of its quotes. -/
def pasted (quote s : List Char) : List Char := s.flatMap fun c => if c = '"' then quote else [c]

/-- Nothing in it is read in another way than it was meant. -/
def Pastable (quote s : List Char) : Prop :=
  ∀ c ∈ s, c ≠ '\\' ∧ ¬ c.toNat < 0x20 ∧ (c = '"' → quote = ['\\', '"'])

/-- Only where it can be pasted is the text read as itself. What is behind the text, because an
escape took more characters than it stands for, is never caught up with. -/
def OnlyItself (quote s : List Char) : Prop :=
  ∀ x rest r, '"' ∉ x → readString (pasted quote s ++ '"' :: rest) = some (x ++ s, r) →
    x = [] ∧ Pastable quote s ∧ r = rest

theorem Escape.ne_nil {code : List Char} {d : Char} (h : Escape code d) : code ≠ [] := by
  cases h with
  | letter h => exact List.cons_ne_nil _ _
  | hex h => exact List.cons_ne_nil _ _

theorem pasted_cons_of_ne {c : Char} (quote : List Char) (h : c ≠ '"') (s : List Char) :
    pasted quote (c :: s) = c :: pasted quote s := by
  rw [pasted, List.flatMap_cons, if_neg h]
  rfl

theorem pasted_cons_quote (quote s : List Char) :
    pasted quote ('"' :: s) = quote ++ pasted quote s := by
  rw [pasted, List.flatMap_cons, if_pos rfl]
  rfl

theorem hexValue_ne {c : Char} {n : Nat} (h : hexValue c = some n) : c ≠ '"' ∧ c ≠ '\\' := by
  constructor
  · rintro rfl
    cases h
  · rintro rfl
    cases h

theorem readHex_eq_some {c₁ c₂ c₃ c₄ d : Char} (h : readHex c₁ c₂ c₃ c₄ = some d) :
    ∀ c ∈ [c₁, c₂, c₃, c₄], (hexValue c).isSome := by
  unfold readHex at h
  split at h
  · next h₁ h₂ h₃ h₄ => simp [h₁, h₂, h₃, h₄]
  · cases h

theorem readHex_ne {c₁ c₂ c₃ c₄ d : Char} (h : readHex c₁ c₂ c₃ c₄ = some d) :
    ∀ c ∈ ['u', c₁, c₂, c₃, c₄], c ≠ '"' ∧ c ≠ '\\' := by
  refine List.forall_mem_cons.mpr ⟨by decide, fun c hc => ?_⟩
  obtain ⟨n, hn⟩ := Option.isSome_iff_exists.mp (readHex_eq_some h c hc)
  exact hexValue_ne hn

/-- With quotes as they are. -/
theorem pasted_quote (s : List Char) : pasted ['"'] s = s := by
  induction s with
  | nil => rfl
  | cons c s ih =>
      by_cases hc : c = '"'
      · subst hc
        rw [pasted_cons_quote, ih]
        rfl
      · rw [pasted_cons_of_ne _ hc, ih]

section Pasted

variable {quote : List Char} (hquote : quote = ['"'] ∨ quote = ['\\', '"'])

include hquote

/-- What is read in the pasted text and is no quote and no backslash stands there itself. -/
theorem pasted_eq_cons {c : Char} (hc : c ≠ '"') (hc' : c ≠ '\\') {s rest t : List Char}
    (h : pasted quote s ++ '"' :: rest = c :: t) :
    ∃ s', s = c :: s' ∧ t = pasted quote s' ++ '"' :: rest := by
  cases s with
  | nil => exact absurd (List.cons.inj h).1.symm hc
  | cons e s =>
      by_cases he : e = '"'
      · subst he
        rw [pasted_cons_quote] at h
        rcases hquote with rfl | rfl
        · exact absurd (List.cons.inj h).1.symm hc
        · exact absurd (List.cons.inj h).1.symm hc'
      · rw [pasted_cons_of_ne quote he] at h
        obtain ⟨rfl, rfl⟩ := List.cons.inj h
        exact ⟨s, rfl, rfl⟩

theorem pasted_escape {code t s rest : List Char} {d : Char} (hd : d ≠ '"')
    (hcode : Escape code d) (h : pasted quote s ++ '"' :: rest = code ++ t) :
    (∃ s', s = code ++ s' ∧ '"' ∉ code ∧ t = pasted quote s' ++ '"' :: rest) ∨
      ∃ s', s = '"' :: s' ∧ t = '"' :: (pasted quote s' ++ '"' :: rest) := by
  cases hcode with
  | @letter e d he =>
      have hne : e ≠ '"' := by
        rintro rfl
        exact hd (Option.some.inj he).symm
      by_cases hback : e = '\\'
      · subst hback
        cases s with
        | nil => exact absurd (List.cons.inj h).1 (by decide)
        | cons c s =>
            by_cases hc : c = '"'
            · subst hc
              rw [pasted_cons_quote] at h
              rcases hquote with rfl | rfl
              · exact absurd (List.cons.inj h).1 (by decide)
              · exact .inr ⟨s, rfl, (List.cons.inj h).2.symm⟩
            · rw [pasted_cons_of_ne quote hc] at h
              obtain ⟨rfl, rfl⟩ := List.cons.inj h
              exact .inl ⟨s, rfl, by decide, rfl⟩
      · obtain ⟨s', rfl, rfl⟩ := pasted_eq_cons hquote hne hback h
        exact .inl ⟨s', rfl, by simpa using Ne.symm hne, rfl⟩
  | @hex c₁ c₂ c₃ c₄ d he =>
      have hdigits : ∀ c ∈ ['u', c₁, c₂, c₃, c₄], c ≠ '"' ∧ c ≠ '\\' := readHex_ne he
      simp only [List.forall_mem_cons] at hdigits
      obtain ⟨h₀, h₁, h₂, h₃, h₄, _⟩ := hdigits
      obtain ⟨s₀, rfl, hs₀⟩ := pasted_eq_cons hquote h₀.1 h₀.2 h
      obtain ⟨s₁, rfl, hs₁⟩ := pasted_eq_cons hquote h₁.1 h₁.2 hs₀.symm
      obtain ⟨s₂, rfl, hs₂⟩ := pasted_eq_cons hquote h₂.1 h₂.2 hs₁.symm
      obtain ⟨s₃, rfl, hs₃⟩ := pasted_eq_cons hquote h₃.1 h₃.2 hs₂.symm
      obtain ⟨s₄, rfl, hs₄⟩ := pasted_eq_cons hquote h₄.1 h₄.2 hs₃.symm
      refine .inl ⟨s₄, rfl, ?_, hs₄⟩
      intro hmem
      exact (readHex_ne he _ hmem).1 rfl

omit hquote in
theorem onlyItself_nil : OnlyItself quote [] := by
  intro x rest r _ h
  simp only [pasted, List.flatMap_nil, List.nil_append, List.append_nil, readString,
    Option.some.injEq, Prod.mk.injEq] at h
  exact ⟨h.1.symm, fun c hc => absurd hc List.not_mem_nil, h.2.symm⟩

omit hquote in
theorem onlyItself_cons {c : Char} {s : List Char} (hc : c ≠ '"') (hc' : c ≠ '\\')
    (hs : OnlyItself quote s) : OnlyItself quote (c :: s) := by
  intro x rest r hx h
  rw [pasted_cons_of_ne quote hc, List.cons_append] at h
  obtain ⟨hlow, v, hv, hread⟩ := readString_of_ne hc hc' h
  cases x with
  | nil =>
      obtain rfl : s = v := (List.cons.inj hv).2
      obtain ⟨_, hpastable, hr⟩ := hs [] rest r List.not_mem_nil hread
      exact ⟨rfl, List.forall_mem_cons.mpr ⟨⟨hc', hlow, fun h => absurd h hc⟩, hpastable⟩, hr⟩
  | cons y x =>
      -- the text is one character behind again
      obtain rfl : x ++ c :: s = v := (List.cons.inj hv).2
      rw [List.append_cons x c s] at hread
      have hx' : '"' ∉ x ++ [c] := by
        rw [List.mem_cons, not_or] at hx
        simp [hx.2, Ne.symm hc]
      have hnil := (hs _ rest r hx' hread).1
      exact absurd hnil (List.append_ne_nil_of_right_ne_nil x (List.cons_ne_nil c []))

theorem onlyItself_quote {s : List Char} (hs : OnlyItself quote s) :
    OnlyItself quote ('"' :: s) := by
  intro x rest r hx h
  rw [pasted_cons_quote] at h
  rcases hquote with rfl | rfl
  · -- the string ends before anything is read
    have hnil : x ++ '"' :: s = [] := by
      have heq : some ([], pasted ['"'] s ++ '"' :: rest) = some (x ++ '"' :: s, r) := h
      exact (congrArg Prod.fst (Option.some.inj heq)).symm
    exact absurd hnil (List.append_ne_nil_of_right_ne_nil x (List.cons_ne_nil _ s))
  · obtain ⟨v, hread, heq⟩ := Option.map_eq_some_iff.mp h
    obtain ⟨hv, rfl⟩ := Prod.mk.inj heq
    cases x with
    | nil =>
        obtain rfl : v.1 = s := (List.cons.inj hv).2
        obtain ⟨_, hpastable, hr⟩ := hs [] rest v.2 List.not_mem_nil hread
        refine ⟨rfl, List.forall_mem_cons.mpr ⟨⟨by decide, by decide, fun _ => rfl⟩, hpastable⟩, hr⟩
    | cons y x =>
        obtain rfl : '"' = y := (List.cons.inj hv).1
        exact absurd List.mem_cons_self hx

theorem onlyItself_backslash {s : List Char}
    (hs : ∀ s', s'.length ≤ s.length → OnlyItself quote s') :
    OnlyItself quote ('\\' :: s) := by
  intro x rest r hx h
  rw [pasted_cons_of_ne quote (by decide), List.cons_append] at h
  obtain ⟨code, d, t, v, ht, hcode, hv, hread⟩ := readString_backslash h
  -- what is behind after the escape, if there was a character for it
  obtain ⟨hd, y, hy, hv'⟩ : d ≠ '"' ∧ ∃ y, '"' ∉ y ∧ v = y ++ s := by
    cases x with
    | nil =>
        obtain ⟨rfl, rfl⟩ := List.cons.inj hv
        exact ⟨by decide, [], List.not_mem_nil, rfl⟩
    | cons y x =>
        rw [List.mem_cons, not_or] at hx
        obtain ⟨rfl, rfl⟩ := List.cons.inj hv
        refine ⟨Ne.symm hx.1, x ++ ['\\'], ?_, ?_⟩
        · simp [hx.2]
        · rw [List.append_assoc]
          rfl
  rcases pasted_escape hquote hd hcode ht with ⟨s', rfl, hcode', rfl⟩ | ⟨s', rfl, rfl⟩
  · rw [hv', ← List.append_assoc] at hread
    have hy' : '"' ∉ y ++ code := by simp [hy, hcode']
    have hnil := (hs s' (by simp) _ rest r hy' hread).1
    exact absurd (List.append_eq_nil_iff.mp hnil).2 hcode.ne_nil
  · have hnil : v = [] := by
      have heq : some ([], _) = some (v, r) := hread
      exact (congrArg Prod.fst (Option.some.inj heq)).symm
    rw [hnil] at hv'
    exact absurd hv'.symm (List.append_ne_nil_of_right_ne_nil y (List.cons_ne_nil _ s'))

theorem onlyItself (s : List Char) : OnlyItself quote s := by
  -- on the length, for an escape takes more than one character
  induction hn : s.length using Nat.strongRecOn generalizing s with
  | ind n ih =>
      cases s with
      | nil => exact onlyItself_nil
      | cons c s =>
          have hlt : s.length < n := by
            rw [← hn]
            exact Nat.lt_succ_self _
          by_cases hc : c = '"'
          · subst hc
            exact onlyItself_quote hquote (ih _ hlt s rfl)
          · by_cases hc' : c = '\\'
            · subst hc'
              apply onlyItself_backslash hquote
              intro s' hs'
              exact ih _ (Nat.lt_of_le_of_lt hs' hlt) s' rfl
            · exact onlyItself_cons hc hc' (ih _ hlt s rfl)

end Pasted

end V2XHub.Lib.JsonText
