import V2XHub.Lib.JsonPasted

/-!
# When JSON texts are read as what was meant

The other direction of the rules for texts that are put together: a text is read as what was put
into it if and only if each of its pieces is, and a piece never makes up for another.

A text that is read at all has no control characters but white space.
-/

namespace V2XHub.Lib.JsonText

/-! ## More calls -/

/-- What one call more reads of a text is what is read without it. -/
theorem read_succ (n : Nat) :
    (∀ s x, readValue n s = some x → readValue (n + 1) s = some x) ∧
      (∀ s x, readMembers n s = some x → readMembers (n + 1) s = some x) ∧
        ∀ s x, readElements n s = some x → readElements (n + 1) s = some x := by
  induction n with
  | zero =>
      refine ⟨?_, ?_, ?_⟩
      · intro s x h
        simp [readValue] at h
      · intro s x h
        simp [readMembers] at h
      · intro s x h
        simp [readElements] at h
  | succ n ih =>
      obtain ⟨ihValue, ihMembers, ihElements⟩ := ih
      refine ⟨?_, ?_, ?_⟩
      · intro s x h
        rw [readValue] at h ⊢
        split at h
        · exact h
        · split at h
          · exact h
          · obtain ⟨y, hy, rfl⟩ := Option.map_eq_some_iff.mp h
            rw [ihMembers _ _ hy]
            rfl
        · split at h
          · exact h
          · obtain ⟨y, hy, rfl⟩ := Option.map_eq_some_iff.mp h
            rw [ihElements _ _ hy]
            rfl
        · cases h
      · intro s x h
        rw [readMembers] at h ⊢
        split at h
        · obtain ⟨key, hkey, h⟩ := Option.bind_eq_some_iff.mp h
          rw [hkey, Option.bind_some]
          split at h
          · obtain ⟨value, hvalue, h⟩ := Option.bind_eq_some_iff.mp h
            rw [ihValue _ _ hvalue, Option.bind_some]
            split at h
            · obtain ⟨y, hy, rfl⟩ := Option.map_eq_some_iff.mp h
              rw [ihMembers _ _ hy]
              rfl
            · exact h
            · cases h
          · cases h
        · cases h
      · intro s x h
        rw [readElements] at h ⊢
        obtain ⟨value, hvalue, h⟩ := Option.bind_eq_some_iff.mp h
        rw [ihValue _ _ hvalue, Option.bind_some]
        split at h
        · obtain ⟨y, hy, rfl⟩ := Option.map_eq_some_iff.mp h
          rw [ihElements _ _ hy]
          rfl
        · exact h
        · cases h

theorem readValue_le {n m : Nat} (h : n ≤ m) {s : List Char} {x : Doc × List Char}
    (hread : readValue n s = some x) : readValue m s = some x := by
  obtain ⟨k, rfl⟩ := Nat.exists_eq_add_of_le h
  induction k with
  | zero => exact hread
  | succ k ih => exact (read_succ (n + k)).1 s x (ih (Nat.le_add_right n k))

/-! ## Characters that are never read -/

/-- White space, or no control character. -/
def Legible (c : Char) : Prop := isSpace c = true ∨ 0x20 ≤ c.toNat

instance decidableLegible (c : Char) : Decidable (Legible c) := inferInstanceAs (Decidable (_ ∨ _))

/-- The second text is left of the first after legible characters. -/
def Leaves (s r : List Char) : Prop := ∃ used, s = used ++ r ∧ ∀ c ∈ used, Legible c

namespace Leaves

variable {s t r : List Char}

theorem refl (s : List Char) : Leaves s s := ⟨[], rfl, fun _ hc => absurd hc List.not_mem_nil⟩

theorem trans (h : Leaves s t) (h' : Leaves t r) : Leaves s r := by
  obtain ⟨used, rfl, hused⟩ := h
  obtain ⟨used', rfl, hused'⟩ := h'
  refine ⟨used ++ used', (List.append_assoc _ _ _).symm, ?_⟩
  intro c hc
  exact (List.mem_append.mp hc).elim (hused c) (hused' c)

theorem cons {c : Char} (hc : Legible c) (h : Leaves s r) : Leaves (c :: s) r := by
  obtain ⟨used, rfl, hused⟩ := h
  exact ⟨c :: used, rfl, List.forall_mem_cons.mpr ⟨hc, hused⟩⟩

theorem skipSpace (s : List Char) : Leaves s (skipSpace s) := by
  refine ⟨s.takeWhile isSpace, List.takeWhile_append_dropWhile.symm, ?_⟩
  intro c hc
  exact .inl (List.all_eq_true.mp List.all_takeWhile c hc)

/-- After white space and one more character. -/
theorem of_skipSpace {c : Char} (hc : Legible c) (h : JsonText.skipSpace s = c :: t)
    (h' : Leaves t r) : Leaves s r := by
  have hskip := skipSpace s
  rw [h] at hskip
  exact hskip.trans (.cons hc h')

end Leaves

theorem Escape.legible {code : List Char} {d : Char} (h : Escape code d) :
    ∀ c ∈ code, Legible c := by
  cases h with
  | @letter e d he =>
      intro c hc
      obtain rfl := List.mem_singleton.mp hc
      right
      by_contra hlow
      unfold unescape at he
      split at he <;> first | exact hlow (by decide) | cases he
  | @hex c₁ c₂ c₃ c₄ d he =>
      refine List.forall_mem_cons.mpr ⟨.inr (by decide), fun c hc => .inr ?_⟩
      obtain ⟨n, hn⟩ := Option.isSome_iff_exists.mp (readHex_eq_some he c hc)
      unfold hexValue at hn
      by_contra hlow
      have hle : ∀ d : Char, 0x20 ≤ d.toNat → ¬ d ≤ c := by
        intro d hd hdc
        exact hlow (Nat.le_trans hd hdc)
      rw [if_neg (fun h => hle _ (by decide) h.1), if_neg (fun h => hle _ (by decide) h.1),
        if_neg (fun h => hle _ (by decide) h.1)] at hn
      cases hn

theorem readString_leaves {s v r : List Char} (h : readString s = some (v, r)) : Leaves s r := by
  induction hn : s.length using Nat.strongRecOn generalizing s v with
  | ind n ih =>
      cases s with
      | nil => cases h
      | cons c s =>
          have hlt : s.length < n := by
            rw [← hn]
            exact Nat.lt_succ_self _
          by_cases hc : c = '"'
          · subst hc
            obtain rfl : s = r := congrArg Prod.snd (Option.some.inj h)
            exact .cons (.inr (by decide)) (.refl s)
          · by_cases hc' : c = '\\'
            · subst hc'
              obtain ⟨code, d, t, v', rfl, hcode, _, hread⟩ := readString_backslash h
              have ht : t.length < n := by
                rw [List.length_append] at hlt
                omega
              exact .cons (.inr (by decide))
                (.trans ⟨code, rfl, hcode.legible⟩ (ih _ ht hread rfl))
            · obtain ⟨hlow, v', _, hread⟩ := readString_of_ne hc hc' h
              exact .cons (.inr (Nat.not_lt.mp hlow)) (ih _ hlt hread rfl)

theorem read_leaves (n : Nat) :
    (∀ s d r, readValue n s = some (d, r) → Leaves s r) ∧
      (∀ s members r, readMembers n s = some (members, r) → Leaves s r) ∧
        ∀ s elements r, readElements n s = some (elements, r) → Leaves s r := by
  induction n with
  | zero =>
      refine ⟨?_, ?_, ?_⟩
      · intro s d r h
        simp [readValue] at h
      · intro s members r h
        simp [readMembers] at h
      · intro s elements r h
        simp [readElements] at h
  | succ n ih =>
      obtain ⟨ihValue, ihMembers, ihElements⟩ := ih
      refine ⟨?_, ?_, ?_⟩
      · intro s d r h
        rw [readValue] at h
        split at h
        · next rest hskip =>
            obtain ⟨y, hy, heq⟩ := Option.map_eq_some_iff.mp h
            cases heq
            exact .of_skipSpace (.inr (by decide)) hskip (readString_leaves hy)
        · next rest hskip =>
            refine .of_skipSpace (.inr (by decide)) hskip ?_
            split at h
            · next rest' hskip' =>
                cases h
                exact .of_skipSpace (.inr (by decide)) hskip' (.refl _)
            · obtain ⟨y, hy, heq⟩ := Option.map_eq_some_iff.mp h
              cases heq
              exact .trans (.skipSpace rest) (ihMembers _ _ _ hy)
        · next rest hskip =>
            refine .of_skipSpace (.inr (by decide)) hskip ?_
            split at h
            · next rest' hskip' =>
                cases h
                exact .of_skipSpace (.inr (by decide)) hskip' (.refl _)
            · obtain ⟨y, hy, heq⟩ := Option.map_eq_some_iff.mp h
              cases heq
              exact .trans (.skipSpace rest) (ihElements _ _ _ hy)
        · cases h
      · intro s members r h
        rw [readMembers] at h
        split at h
        · next rest hskip =>
            obtain ⟨key, hkey, h⟩ := Option.bind_eq_some_iff.mp h
            refine .of_skipSpace (.inr (by decide)) hskip (.trans (readString_leaves hkey) ?_)
            split at h
            · next rest' hskip' =>
                obtain ⟨value, hvalue, h⟩ := Option.bind_eq_some_iff.mp h
                refine .of_skipSpace (.inr (by decide)) hskip'
                  (.trans (ihValue _ _ _ hvalue) ?_)
                split at h
                · next rest'' hskip'' =>
                    obtain ⟨y, hy, heq⟩ := Option.map_eq_some_iff.mp h
                    cases heq
                    exact .of_skipSpace (.inr (by decide)) hskip'' (ihMembers _ _ _ hy)
                · next rest'' hskip'' =>
                    cases h
                    exact .of_skipSpace (.inr (by decide)) hskip'' (.refl _)
                · cases h
            · cases h
        · cases h
      · intro s elements r h
        rw [readElements] at h
        obtain ⟨value, hvalue, h⟩ := Option.bind_eq_some_iff.mp h
        refine .trans (ihValue _ _ _ hvalue) ?_
        split at h
        · next rest hskip =>
            obtain ⟨y, hy, heq⟩ := Option.map_eq_some_iff.mp h
            cases heq
            exact .of_skipSpace (.inr (by decide)) hskip (ihElements _ _ _ hy)
        · next rest hskip =>
            cases h
            exact .of_skipSpace (.inr (by decide)) hskip (.refl _)
        · cases h

/-- A text that is read has no other control characters. -/
theorem legible_of_readDoc {s : List Char} {d : Doc} (h : readDoc s = some d) :
    ∀ c ∈ s, Legible c := by
  unfold readDoc at h
  split at h
  · next d' rest hread =>
      split at h
      · next hskip =>
          have hrest := Leaves.skipSpace rest
          rw [hskip] at hrest
          obtain ⟨used, hs, hused⟩ := ((read_leaves _).1 _ _ _ hread).trans hrest
          rw [hs, List.append_nil]
          exact hused
      · cases h
  · cases h

/-! ## Texts put together, both ways -/

/-- Between quotes, the text reads as the string, if `P` holds, and only then. -/
structure SpellsIff (raw : List Char) (value : String) (P : Prop) : Prop where
  spells : P → Spells raw value
  only : ∀ rest r, readString (raw ++ '"' :: rest) = some (value.toList, r) → P ∧ r = rest

/-- The text reads as the document, if `P` holds, and only then. -/
structure ReadsIff (s : List Char) (d : Doc) (P : Prop) : Prop where
  reads : P → Reads s d
  only : ∀ n rest r, readValue n (s ++ rest) = some (d, r) → P ∧ r = rest

/-- A member of an object. -/
def ReadsMemberIff (s : List Char) (m : String × Doc) (P : Prop) : Prop :=
  ∃ raw gap value Q R, s = '"' :: raw ++ '"' :: ':' :: (gap ++ value) ∧ SpellsIff raw m.1 Q ∧
    (∀ c ∈ gap, isSpace c = true) ∧ ReadsIff value m.2 R ∧ (P ↔ Q ∧ R)

/-- The members of an object. -/
inductive ReadsMembersIff : List (List Char) → List (String × Doc) → Prop → Prop where
  | nil : ReadsMembersIff [] [] True
  | cons {s : List Char} {m : String × Doc} {texts : List (List Char)}
      {members : List (String × Doc)} {P Q : Prop} (h : ReadsMemberIff s m P)
      (hs : ReadsMembersIff texts members Q) :
      ReadsMembersIff (s :: texts) (m :: members) (P ∧ Q)

theorem spells_pasted {quote : List Char} {text : String} (h : Pastable quote text.toList) :
    Spells (pasted quote text.toList) text := by
  intro rest
  generalize text.toList = s at h ⊢
  induction s with
  | nil => rfl
  | cons c s ih =>
      obtain ⟨⟨hback, hlow, hescaped⟩, hs⟩ := List.forall_mem_cons.mp h
      by_cases hc : c = '"'
      · subst hc
        rw [pasted_cons_quote, hescaped rfl]
        show (readString (pasted _ s ++ '"' :: rest)).map _ = _
        rw [← hescaped rfl, ih hs]
        rfl
      · rw [pasted_cons_of_ne quote hc, List.cons_append, readString_cons hc hback hlow, ih hs]
        rfl

theorem spellsIff_pasted {quote : List Char} (hquote : quote = ['"'] ∨ quote = ['\\', '"'])
    (text : String) :
    SpellsIff (pasted quote text.toList) text (Pastable quote text.toList) where
  spells := spells_pasted
  only := by
    intro rest r hread
    exact (onlyItself hquote text.toList [] rest r List.not_mem_nil hread).2

/-- What reads as one document does not read as another. -/
theorem Reads.readsIff {s : List Char} {d : Doc} (h : Reads s d) (d' : Doc) :
    ReadsIff s d' (d = d') where
  reads := by
    rintro rfl
    exact h
  only := by
    intro n rest r hread
    have hmore := readValue_le (Nat.le_max_left n s.length) hread
    rw [h.value _ rest (Nat.le_max_right n s.length)] at hmore
    obtain ⟨hd, hr⟩ := Prod.mk.inj (Option.some.inj hmore)
    exact ⟨hd, hr.symm⟩

theorem readValue_of_readDoc {s : List Char} {d : Doc} (h : readDoc s = some d) :
    ∃ rest, readValue s.length s = some (d, rest) := by
  unfold readDoc at h
  split at h
  · next d' rest hvalue =>
      split at h
      · obtain rfl := Option.some.inj h
        exact ⟨rest, hvalue⟩
      · cases h
  · cases h

namespace ReadsIff

variable {s raw : List Char} {value : String} {d : Doc} {P Q : Prop}

theorem congr (h : ReadsIff s d P) (hPQ : P ↔ Q) : ReadsIff s d Q := propext hPQ ▸ h

theorem readDoc_iff (h : ReadsIff s d P) : readDoc s = some d ↔ P := by
  constructor
  · intro hread
    obtain ⟨rest, hvalue⟩ := readValue_of_readDoc hread
    apply (h.only s.length [] rest _).1
    rw [List.append_nil]
    exact hvalue
  · exact fun hP => (h.reads hP).readDoc_eq

/-- A string is read as a string. -/
theorem text_inv {n : Nat} {r : List Char} (h : readValue n ('"' :: s) = some (d, r)) :
    ∃ v, d = .text v ∧ readString s = some (v.toList, r) := by
  cases n with
  | zero => simp [readValue] at h
  | succ n =>
      rw [readValue, skipSpace_cons rfl] at h
      obtain ⟨x, hx, heq⟩ := Option.map_eq_some_iff.mp h
      cases heq
      exact ⟨_, rfl, by rw [hx, String.toList_ofList]⟩

theorem quoted_append (raw rest : List Char) :
    '"' :: raw ++ ['"'] ++ rest = '"' :: (raw ++ '"' :: rest) := by simp

theorem text (h : SpellsIff raw value P) : ReadsIff ('"' :: raw ++ ['"']) (.text value) P where
  reads hP := .text (h.spells hP)
  only := by
    intro n rest r hread
    rw [quoted_append] at hread
    obtain ⟨v, hv, hread⟩ := text_inv hread
    cases hv
    exact h.only rest r hread

theorem text_of_ne (raw : List Char) (hd : ∀ v, d ≠ .text v) :
    ReadsIff ('"' :: raw ++ ['"']) d False where
  reads := False.elim
  only := by
    intro n rest r hread
    rw [quoted_append] at hread
    obtain ⟨v, hv, _⟩ := text_inv hread
    exact absurd hv (hd v)

/-- An array that begins with a string does not read as one that begins with another. -/
theorem array_of_ne {c : Char} (hquote : c ≠ '"') (hback : c ≠ '\\') {docs : List Doc}
    (hdocs : ∀ v rest, docs = .text v :: rest → v.toList.head? ≠ some c) (s : List Char) :
    ReadsIff ('[' :: '"' :: c :: s) (.array docs) False where
  reads := False.elim
  only := by
    intro n rest r hread
    cases n with
    | zero => simp [readValue] at hread
    | succ n =>
        rw [readValue, List.cons_append, skipSpace_cons rfl] at hread
        obtain ⟨x, hx, heq⟩ := Option.map_eq_some_iff.mp hread
        cases heq
        cases n with
        | zero => simp [readElements] at hx
        | succ n =>
            rw [readElements] at hx
            obtain ⟨y, hy, hx⟩ := Option.bind_eq_some_iff.mp hx
            obtain ⟨v, hv, hstring⟩ := text_inv hy
            obtain ⟨_, w, hw, _⟩ := readString_of_ne hquote hback hstring
            have hfirst : ∃ rest', x.1 = y.1 :: rest' := by
              split at hx
              · obtain ⟨z, _, heq⟩ := Option.map_eq_some_iff.mp hx
                exact ⟨z.1, by rw [← heq]⟩
              · exact ⟨[], by rw [← Option.some.inj hx]⟩
              · cases hx
            obtain ⟨rest', hrest'⟩ := hfirst
            refine absurd ?_ (hdocs v rest' (by rw [hrest', hv]))
            rw [hw, List.head?_cons]

end ReadsIff

section Members

variable {s : List Char} {m : String × Doc} {texts texts' : List (List Char)}
  {members members' : List (String × Doc)} {P Q : Prop}

namespace ReadsMembersIff

theorem congr (h : ReadsMembersIff texts members P) (hPQ : P ↔ Q) :
    ReadsMembersIff texts members Q := propext hPQ ▸ h

theorem append (h : ReadsMembersIff texts members P) (h' : ReadsMembersIff texts' members' Q) :
    ReadsMembersIff (texts ++ texts') (members ++ members') (P ∧ Q) := by
  induction h with
  | nil => exact h'.congr (true_and Q).symm.to_iff
  | cons hmember _ ih => exact (ReadsMembersIff.cons hmember ih).congr and_assoc.symm

theorem map {α : Type} {text : α → List Char} {member : α → String × Doc} {P : α → Prop}
    {xs : List α} (h : ∀ x ∈ xs, ReadsMemberIff (text x) (member x) (P x)) :
    ReadsMembersIff (xs.map text) (xs.map member) (∀ x ∈ xs, P x) := by
  induction xs with
  | nil => exact ReadsMembersIff.nil.congr (iff_of_true trivial (List.forall_mem_nil P))
  | cons x xs ih =>
      obtain ⟨hx, hxs⟩ := List.forall_mem_cons.mp h
      exact (ReadsMembersIff.cons hx (ih hxs)).congr List.forall_mem_cons.symm

theorem reads (h : ReadsMembersIff texts members P) (hP : P) :
    List.Forall₂ ReadsMember texts members := by
  induction h with
  | nil => exact .nil
  | cons hmember _ ih =>
      obtain ⟨raw, gap, value, Q, R, hs, hraw, hgap, hvalue, hPQR⟩ := hmember
      obtain ⟨hQ, hR⟩ := hPQR.mp hP.1
      exact .cons ⟨raw, gap, value, hs, hraw.spells hQ, hgap, hvalue.reads hR⟩ (ih hP.2)

end ReadsMembersIff

/-- One member is read, and what follows it. -/
theorem readMembers_inv (h : ReadsMemberIff s m P) {n : Nat} {rest r : List Char}
    (hread : readMembers n (s ++ rest) = some (m :: members, r)) :
    P ∧ ((∃ n' t, skipSpace rest = ',' :: t ∧ readMembers n' t = some (members, r)) ∨
      skipSpace rest = '\x7d' :: r ∧ members = []) := by
  obtain ⟨raw, gap, value, Q, R, rfl, hraw, hgap, hvalue, hPQR⟩ := h
  have hs : '"' :: raw ++ '"' :: ':' :: (gap ++ value) ++ rest =
      '"' :: (raw ++ '"' :: ':' :: (gap ++ (value ++ rest))) := by simp
  cases n with
  | zero => simp [readMembers] at hread
  | succ n =>
      rw [readMembers, hs, skipSpace_cons rfl] at hread
      obtain ⟨key, hkey, hread⟩ := Option.bind_eq_some_iff.mp hread
      split at hread
      · next rest' hcolon =>
          obtain ⟨v, hv, hread⟩ := Option.bind_eq_some_iff.mp hread
          -- whatever follows, the first member is the one that was read
          obtain ⟨hm, hnext⟩ : m = (String.ofList key.1, v.1) ∧
              ((∃ n' t, skipSpace v.2 = ',' :: t ∧ readMembers n' t = some (members, r)) ∨
                skipSpace v.2 = '\x7d' :: r ∧ members = []) := by
            split at hread
            · next t ht =>
                obtain ⟨x, hx, heq⟩ := Option.map_eq_some_iff.mp hread
                cases heq
                exact ⟨rfl, .inl ⟨n, t, ht, hx⟩⟩
            · next t ht =>
                cases hread
                exact ⟨rfl, .inr ⟨ht, rfl⟩⟩
            · cases hread
          subst hm
          obtain ⟨hQ, hafter⟩ := hraw.only _ key.2 (by rw [hkey, String.toList_ofList])
          rw [hafter, skipSpace_cons rfl] at hcolon
          obtain rfl := (List.cons.inj hcolon).2
          rw [readValue_append hgap] at hv
          obtain ⟨hR, hrest⟩ := hvalue.only n rest v.2 hv
          rw [hrest] at hnext
          exact ⟨hPQR.mpr ⟨hQ, hR⟩, hnext⟩
      · cases hread

theorem ReadsMembersIff.only (h : ReadsMembersIff texts members P) (hne : texts ≠ [])
    {gap : List Char} (hgap : ∀ c ∈ gap, isSpace c = true) {n : Nat} {rest r : List Char}
    (hread : readMembers n (commaSeparated texts ++ (gap ++ '\x7d' :: rest)) =
      some (members, r)) : P ∧ r = rest := by
  induction h generalizing n with
  | nil => exact absurd rfl hne
  | @cons s m texts members P Q hmember htexts ih =>
      cases htexts with
      | nil =>
          rw [commaSeparated] at hread
          obtain ⟨hP, hnext⟩ := readMembers_inv hmember hread
          rw [skipSpace_append hgap, skipSpace_cons rfl] at hnext
          rcases hnext with ⟨_, _, hcomma, _⟩ | ⟨hclose, _⟩
          · cases hcomma
          · exact ⟨⟨hP, trivial⟩, (List.cons.inj hclose).2.symm⟩
      | @cons s' m' texts members P' Q' hmember' htexts =>
          have hs : commaSeparated (s :: s' :: texts) ++ (gap ++ '\x7d' :: rest) =
              s ++ ',' :: (commaSeparated (s' :: texts) ++ (gap ++ '\x7d' :: rest)) := by
            simp [commaSeparated]
          rw [hs] at hread
          obtain ⟨hP, hnext⟩ := readMembers_inv hmember hread
          rw [skipSpace_cons rfl] at hnext
          rcases hnext with ⟨n', t, hcomma, hread⟩ | ⟨hclose, _⟩
          · rw [← (List.cons.inj hcomma).2] at hread
            obtain ⟨hQ, hr⟩ := ih (List.cons_ne_nil _ _) hread
            exact ⟨⟨hP, hQ⟩, hr⟩
          · cases hclose

theorem ReadsMemberIff.first (h : ReadsMemberIff s m P) : ∃ rest, s = '"' :: rest := by
  obtain ⟨raw, gap, value, _, _, rfl, _⟩ := h
  exact ⟨_, rfl⟩

/-- What begins as an object with members is read as one. -/
theorem readValue_object {d : Doc} {n : Nat} {r : List Char}
    (h : readValue n ('\x7b' :: '"' :: s) = some (d, r)) :
    ∃ n' members, d = .object members ∧ readMembers n' ('"' :: s) = some (members, r) := by
  cases n with
  | zero => simp [readValue] at h
  | succ n =>
      rw [readValue, skipSpace_cons rfl] at h
      have hread : (readMembers n ('"' :: s)).map (fun r => (Doc.object r.1, r.2)) = some (d, r) := h
      obtain ⟨⟨members, r'⟩, hmembers, heq⟩ := Option.map_eq_some_iff.mp hread
      cases heq
      exact ⟨n, members, rfl, hmembers⟩

/-- A member without a value is not read. -/
theorem readMembers_without_value {raw rest : List Char} {key : String} (hraw : Spells raw key)
    (n : Nat) : readMembers n ('"' :: raw ++ '"' :: ':' :: '\x7d' :: rest) = none := by
  have hs : '"' :: raw ++ '"' :: ':' :: '\x7d' :: rest =
      '"' :: (raw ++ '"' :: ':' :: '\x7d' :: rest) := rfl
  have hnone : ∀ n, readValue n ('\x7d' :: rest) = none := by
    intro n
    cases n with
    | zero => rw [readValue]
    | succ n =>
        rw [readValue, skipSpace_cons rfl]
        rfl
  cases n with
  | zero => rw [readMembers]
  | succ n =>
      rw [readMembers, hs, skipSpace_cons rfl]
      simp only
      rw [hraw]
      simp only [Option.bind_some]
      rw [skipSpace_cons rfl]
      simp only
      rw [hnone, Option.bind_none]

theorem ReadsIff.object_gap (h : ReadsMembersIff texts members P) {gap : List Char}
    (hgap : ∀ c ∈ gap, isSpace c = true) :
    ReadsIff ('\x7b' :: (commaSeparated texts ++ gap) ++ ['\x7d']) (.object members) P where
  reads hP := .object_gap (h.reads hP) hgap
  only := by
    intro n rest r hread
    have hs : '\x7b' :: (commaSeparated texts ++ gap) ++ ['\x7d'] ++ rest =
        '\x7b' :: (commaSeparated texts ++ (gap ++ '\x7d' :: rest)) := by simp
    rw [hs] at hread
    cases h with
    | nil =>
        cases n with
        | zero => simp [readValue] at hread
        | succ n =>
            simp only [commaSeparated, List.nil_append] at hread
            rw [readValue, skipSpace_cons rfl] at hread
            simp only at hread
            rw [skipSpace_append hgap, skipSpace_cons rfl] at hread
            cases hread
            exact ⟨trivial, rfl⟩
    | @cons s m texts members P Q hmember htexts =>
        obtain ⟨t, ht⟩ := hmember.first
        obtain ⟨t', ht'⟩ := commaSeparated_first ht texts
        rw [ht', List.cons_append] at hread
        obtain ⟨n', members', heq, hmembers⟩ := readValue_object hread
        rw [← List.cons_append, ← ht'] at hmembers
        cases heq
        exact (ReadsMembersIff.cons hmember htexts).only (List.cons_ne_nil _ _) hgap hmembers

theorem ReadsIff.object (h : ReadsMembersIff texts members P) :
    ReadsIff ('\x7b' :: commaSeparated texts ++ ['\x7d']) (.object members) P := by
  have hread := ReadsIff.object_gap h (List.forall_mem_nil _)
  rw [List.append_nil] at hread
  exact hread

end Members

section Elements

variable {s : List Char} {d : Doc} {P : Prop}

/-- One element is read, and what follows it. -/
theorem readElements_inv (h : ReadsIff s d P) {docs : List Doc} {n : Nat} {rest r : List Char}
    (hread : readElements n (s ++ rest) = some (d :: docs, r)) :
    P ∧ ((∃ n' t, skipSpace rest = ',' :: t ∧ readElements n' t = some (docs, r)) ∨
      skipSpace rest = ']' :: r ∧ docs = []) := by
  cases n with
  | zero => simp [readElements] at hread
  | succ n =>
      rw [readElements] at hread
      obtain ⟨v, hv, hread⟩ := Option.bind_eq_some_iff.mp hread
      obtain ⟨hd, hnext⟩ : d = v.1 ∧
          ((∃ n' t, skipSpace v.2 = ',' :: t ∧ readElements n' t = some (docs, r)) ∨
            skipSpace v.2 = ']' :: r ∧ docs = []) := by
        split at hread
        · next t ht =>
            obtain ⟨x, hx, heq⟩ := Option.map_eq_some_iff.mp hread
            cases heq
            exact ⟨rfl, .inl ⟨n, t, ht, hx⟩⟩
        · next t ht =>
            cases hread
            exact ⟨rfl, .inr ⟨ht, rfl⟩⟩
        · cases hread
      subst hd
      obtain ⟨hP, hrest⟩ := h.only n rest v.2 hv
      rw [hrest] at hnext
      exact ⟨hP, hnext⟩

section Lists

variable {α : Type} {text : α → List Char} {doc : α → Doc} {Q : α → Prop}

theorem readElements_only {xs : List α} (h : ∀ x ∈ xs, ReadsIff (text x) (doc x) (Q x))
    (hne : xs ≠ []) {n : Nat} {rest r : List Char}
    (hread : readElements n (commaSeparated (xs.map text) ++ ']' :: rest) =
      some (xs.map doc, r)) : (∀ x ∈ xs, Q x) ∧ r = rest := by
  induction xs generalizing n with
  | nil => exact absurd rfl hne
  | cons x xs ih =>
      obtain ⟨hx, hxs⟩ := List.forall_mem_cons.mp h
      cases xs with
      | nil =>
          obtain ⟨hQ, hnext⟩ := readElements_inv hx hread
          rw [skipSpace_cons rfl] at hnext
          rcases hnext with ⟨_, _, hcomma, _⟩ | ⟨hclose, _⟩
          · cases hcomma
          · exact ⟨List.forall_mem_singleton.mpr hQ, (List.cons.inj hclose).2.symm⟩
      | cons y ys =>
          have hs : commaSeparated ((x :: y :: ys).map text) ++ ']' :: rest =
              text x ++ ',' :: (commaSeparated ((y :: ys).map text) ++ ']' :: rest) := by
            simp [commaSeparated]
          rw [hs] at hread
          obtain ⟨hQ, hnext⟩ := readElements_inv hx hread
          rw [skipSpace_cons rfl] at hnext
          rcases hnext with ⟨n', t, hcomma, hread⟩ | ⟨hclose, _⟩
          · rw [← (List.cons.inj hcomma).2] at hread
            obtain ⟨hQs, hr⟩ := ih hxs (List.cons_ne_nil _ _) hread
            exact ⟨List.forall_mem_cons.mpr ⟨hQ, hQs⟩, hr⟩
          · cases hclose

theorem readElements_skipSpace (n : Nat) (s : List Char) :
    readElements n (skipSpace s) = readElements n s := by
  have hs : s = s.takeWhile isSpace ++ skipSpace s := List.takeWhile_append_dropWhile.symm
  have hgap : ∀ c ∈ s.takeWhile isSpace, isSpace c = true := List.all_eq_true.mp List.all_takeWhile
  cases n with
  | zero => rw [readElements, readElements]
  | succ n =>
      conv_rhs => rw [hs]
      rw [readElements, readElements, readValue_append hgap]

theorem ReadsIff.array {xs : List α} (h : ∀ x ∈ xs, ReadsIff (text x) (doc x) (Q x)) :
    ReadsIff ('[' :: commaSeparated (xs.map text) ++ [']']) (.array (xs.map doc))
      (∀ x ∈ xs, Q x) where
  reads hQ := by
    refine .array ?_
    rw [List.forall₂_map_left_iff, List.forall₂_map_right_iff]
    apply List.forall₂_same.mpr
    intro x hx
    exact ⟨text x, [], (List.append_nil _).symm, List.forall_mem_nil _, (h x hx).reads (hQ x hx)⟩
  only := by
    intro n rest r hread
    have hs : '[' :: commaSeparated (xs.map text) ++ [']'] ++ rest =
        '[' :: (commaSeparated (xs.map text) ++ ']' :: rest) := by simp
    rw [hs] at hread
    cases n with
    | zero => simp [readValue] at hread
    | succ n =>
        rw [readValue, skipSpace_cons rfl] at hread
        simp only at hread
        split at hread
        · next t ht =>
            cases xs with
            | nil =>
                rw [List.map_nil, commaSeparated, List.nil_append, skipSpace_cons rfl] at ht
                cases hread
                exact ⟨List.forall_mem_nil Q, (List.cons.inj ht).2.symm⟩
            | cons x xs => cases hread
        · next hopen =>
            obtain ⟨⟨docs, r'⟩, hdocs, heq⟩ := Option.map_eq_some_iff.mp hread
            cases heq
            rw [readElements_skipSpace] at hdocs
            apply readElements_only h ?_ hdocs
            rintro rfl
            rw [List.map_nil, commaSeparated, List.nil_append, skipSpace_cons rfl] at hopen
            exact hopen _ rfl

end Lists

end Elements

end V2XHub.Lib.JsonText
