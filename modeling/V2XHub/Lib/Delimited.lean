import Mathlib.Data.List.Basic

/-!
# Streams of delimited frames

A frame is an opening symbol `o`, a body, and the next closing symbol `c`; whatever stands between
a closing symbol and the next opening one is noise. `scan` reads a stream symbol by symbol and is
the meaning of such a stream: the bodies in order, and the body of the frame still open at the end.

Nothing here knows how a stream arrives. What a receiver needs is `scan_append` — the open body is
all that has to be carried across a cut — and `scan_pending`: carrying the raw symbols of the open
frame and rescanning them is just as good.

`runs` lists the stretches of the stream a receiver has to hold at once, from an opening symbol to
its closing one or to the end of the stream; a bound on them is a bound on the receiver's buffer.
-/

namespace V2XHub.Lib.Delimited

variable {α : Type} [DecidableEq α] (o c : α)

/-- The bodies completed by the stream and the body left open at its end, starting inside a frame
with body `acc` so far (`some acc`) or between frames (`none`). -/
def scan : Option (List α) → List α → List (List α) × Option (List α)
  | st, [] => ([], st)
  | none, b :: bs => scan (if b = o then some [] else none) bs
  | some acc, b :: bs =>
      if b = c then (acc :: (scan none bs).1, (scan none bs).2)
      else scan (some (acc ++ [b])) bs

/-- The symbols of the frame that is open in state `st`. -/
def pending : Option (List α) → List α
  | none => []
  | some acc => o :: acc

/-- The stretches from an opening symbol to its closing one, or to the end of the stream. -/
def runs : Option (List α) → List α → List (List α)
  | none, [] => []
  | some acc, [] => [o :: acc]
  | none, b :: bs => runs (if b = o then some [] else none) bs
  | some acc, b :: bs =>
      if b = c then (o :: acc ++ [c]) :: runs none bs
      else runs (some (acc ++ [b])) bs

attribute [local simp] scan runs

/-- No stretch from an opening symbol to its closing one or to the end is longer than `n`. -/
def Fits (n : Nat) (st : Option (List α)) (s : List α) : Prop :=
  ∀ r ∈ runs o c st s, r.length ≤ n

/-- The body of the open frame holds no closing symbol. -/
def Open (st : Option (List α)) : Prop := ∀ acc, st = some acc → c ∉ acc

variable {o c}

/-! ## Cutting the stream -/

theorem scan_append (st : Option (List α)) (s t : List α) :
    scan o c st (s ++ t) =
      ((scan o c st s).1 ++ (scan o c (scan o c st s).2 t).1,
       (scan o c (scan o c st s).2 t).2) := by
  induction s generalizing st with
  | nil => simp
  | cons b s ih =>
      cases st with
      | none => simp only [List.cons_append, scan, ih]
      | some acc =>
          by_cases hb : b = c
          · simp [hb, ih none]
          · simp [hb, ih (some (acc ++ [b]))]

/-- Symbols without a closing one only extend the open body. -/
theorem scan_open {acc s : List α} (h : c ∉ s) :
    scan o c (some acc) s = ([], some (acc ++ s)) := by
  induction s generalizing acc with
  | nil => simp
  | cons b s ih =>
      have hb : b ≠ c := fun he => h (he ▸ List.mem_cons_self)
      have hs : c ∉ s := fun hm => h (List.mem_cons_of_mem _ hm)
      simp [hb, ih hs]

/-- Noise before a frame leaves nothing behind. -/
theorem scan_noise {s : List α} (h : o ∉ s) : scan o c none s = ([], none) := by
  induction s with
  | nil => rfl
  | cons b s ih =>
      have hb : b ≠ o := fun he => h (he ▸ List.mem_cons_self)
      simpa [hb] using ih fun hm => h (List.mem_cons_of_mem _ hm)

/-- One whole frame behind noise. -/
theorem scan_frame {g m w : List α} (hg : o ∉ g) (hm : c ∉ m) :
    scan o c none (g ++ o :: (m ++ c :: w)) =
      (m :: (scan o c none w).1, (scan o c none w).2) := by
  rw [scan_append, scan_noise hg]
  have hbody : scan o c (some []) (m ++ c :: w) =
      (m :: (scan o c none w).1, (scan o c none w).2) := by
    rw [scan_append, scan_open hm]
    simp
  simp [hbody]

/-- The symbols of the open frame determine the state: rescanning them changes nothing. -/
theorem scan_pending {st : Option (List α)} (hst : Open c st) (s : List α) :
    scan o c none (pending o st ++ s) = scan o c st s := by
  cases st with
  | none => rfl
  | some acc =>
      have hacc : c ∉ acc := hst acc rfl
      simp only [pending, List.cons_append, scan, if_true]
      rw [scan_append, scan_open hacc]
      simp

theorem open_scan {st : Option (List α)} (hst : Open c st) (s : List α) :
    Open c (scan o c st s).2 := by
  induction s generalizing st with
  | nil => simpa using hst
  | cons b s ih =>
      cases st with
      | none =>
          refine ih ?_
          intro acc hacc
          by_cases hb : b = o
          · rw [if_pos hb, Option.some.injEq] at hacc
            simp [← hacc]
          · rw [if_neg hb] at hacc
            cases hacc
      | some acc =>
          by_cases hb : b = c
          · have hnone : Open c (none : Option (List α)) := fun acc h => by cases h
            simpa [hb] using ih hnone
          · have hacc : c ∉ acc := hst acc rfl
            have hsome : Open c (some (acc ++ [b])) := by
              rintro acc' h
              cases h
              simpa using ⟨hacc, fun he => hb he.symm⟩
            simpa [hb] using ih hsome

omit [DecidableEq α] in
theorem open_none : Open c (none : Option (List α)) := fun _ h => by cases h

/-- The open body is made of symbols of the stream. -/
theorem mem_of_mem_pending_scan {st : Option (List α)} {s : List α} {x : α}
    (h : x ∈ pending o (scan o c st s).2) : x = o ∨ x ∈ pending o st ∨ x ∈ s := by
  induction s generalizing st with
  | nil => exact Or.inr (Or.inl (by simpa using h))
  | cons b s ih =>
      cases st with
      | none =>
          rcases ih h with h' | h' | h'
          · exact Or.inl h'
          · by_cases hb : b = o
            · left
              simpa [hb, pending] using h'
            · simp [hb, pending] at h'
          · exact Or.inr (Or.inr (List.mem_cons_of_mem _ h'))
      | some acc =>
          by_cases hb : b = c
          · have hclosed : x ∈ pending o (scan o c none s).2 := by simpa [hb] using h
            rcases ih hclosed with h' | h' | h'
            · exact Or.inl h'
            · simp [pending] at h'
            · exact Or.inr (Or.inr (List.mem_cons_of_mem _ h'))
          · have hopen : x ∈ pending o (scan o c (some (acc ++ [b])) s).2 := by
              simpa [hb] using h
            rcases ih hopen with h' | h' | h'
            · exact Or.inl h'
            · have hmem : x = o ∨ x ∈ acc ∨ x = b := by simpa [pending] using h'
              rcases hmem with h'' | h'' | h''
              · exact Or.inl h''
              · exact Or.inr (Or.inl (List.mem_cons_of_mem _ h''))
              · exact Or.inr (Or.inr (h'' ▸ List.mem_cons_self))
            · exact Or.inr (Or.inr (List.mem_cons_of_mem _ h'))

/-! ## Bounded runs -/

/-- What fits as a whole fits after any prefix has been scanned. -/
theorem Fits.of_append {n : Nat} {st : Option (List α)} {s t : List α}
    (h : Fits o c n st (s ++ t)) : Fits o c n (scan o c st s).2 t := by
  induction s generalizing st with
  | nil => simpa using h
  | cons b s ih =>
      cases st with
      | none => exact ih h
      | some acc =>
          by_cases hb : b = c
          · have h' : Fits o c n none (s ++ t) := fun r hr =>
              h r (by simp [hb, hr])
            simpa [hb] using ih h'
          · have h' : Fits o c n (some (acc ++ [b])) (s ++ t) := fun r hr =>
              h r (by simpa [hb] using hr)
            simpa [hb] using ih h'

/-- Behind a stream that leaves no frame open, the runs start anew. -/
theorem runs_append {st : Option (List α)} {s : List α} (h : (scan o c st s).2 = none)
    (t : List α) : runs o c st (s ++ t) = runs o c st s ++ runs o c none t := by
  induction s generalizing st with
  | nil =>
      have hst : st = none := h
      subst hst
      rfl
  | cons b s ih =>
      cases st with
      | none => exact ih h
      | some acc =>
          by_cases hb : b = c
          · have hnone : (scan o c none s).2 = none := by simpa [hb] using h
            simp [hb, ih hnone]
          · have hsome : (scan o c (some (acc ++ [b])) s).2 = none := by simpa [hb] using h
            simp [hb, ih hsome]

theorem Fits.append {n : Nat} {st : Option (List α)} {s t : List α} (h : Fits o c n st s)
    (hnone : (scan o c st s).2 = none) (ht : Fits o c n none t) : Fits o c n st (s ++ t) := by
  intro r hr
  rw [runs_append hnone, List.mem_append] at hr
  exact hr.elim (h r) (ht r)

/-- The first run of a stream read inside a frame contains what the frame has so far, and one
symbol more if there is one. -/
theorem exists_run_of_open (acc s : List α) :
    ∃ r ∈ runs o c (some acc) s, acc.length + 1 + min 1 s.length ≤ r.length := by
  induction s generalizing acc with
  | nil => exact ⟨o :: acc, by simp, by simp⟩
  | cons b s ih =>
      by_cases hb : b = c
      · refine ⟨o :: acc ++ [c], by simp [hb], ?_⟩
        simp only [List.length_append, List.length_cons, List.length_nil]
        omega
      · obtain ⟨r, hr, hlen⟩ := ih (acc ++ [b])
        refine ⟨r, by simpa [hb] using hr, ?_⟩
        simp only [List.length_append, List.length_cons, List.length_nil] at hlen ⊢
        omega

/-- Before the stream has ended, an open frame that fits leaves room for another symbol. -/
theorem Fits.pending_lt {n : Nat} {st : Option (List α)} {s : List α} (h : Fits o c n st s)
    (hs : s ≠ []) (hn : 0 < n) : (pending o st).length < n := by
  cases st with
  | none => exact hn
  | some acc =>
      obtain ⟨r, hr, hlen⟩ := exists_run_of_open (o := o) (c := c) acc s
      have hpos : 0 < s.length := List.length_pos_iff.mpr hs
      have hbound := h r hr
      simp only [pending, List.length_cons]
      omega

/-! ## Well-formed streams -/

/-- Frames back to back, none of whose bodies holds a delimiter, are read as their bodies. -/
theorem scan_frames {bodies : List (List α)} (h : ∀ m ∈ bodies, c ∉ m) :
    scan o c none (bodies.map (fun m => o :: m ++ [c])).flatten = (bodies, none) := by
  induction bodies with
  | nil => rfl
  | cons m ms ih =>
      have hm : c ∉ m := h m List.mem_cons_self
      have hms := ih fun m' hm' => h m' (List.mem_cons_of_mem _ hm')
      have hcut := scan_frame (o := o) (g := []) (w := (ms.map (fun m => o :: m ++ [c])).flatten)
        List.not_mem_nil hm
      rw [hms] at hcut
      simpa using hcut

theorem runs_open (acc : List α) {m : List α} (hm : c ∉ m) (w : List α) :
    runs o c (some acc) (m ++ c :: w) = (o :: (acc ++ m) ++ [c]) :: runs o c none w := by
  induction m generalizing acc with
  | nil => simp
  | cons b m ih =>
      have hb : b ≠ c := fun he => hm (he ▸ List.mem_cons_self)
      have hgoal := ih (acc ++ [b]) fun hmem => hm (List.mem_cons_of_mem _ hmem)
      simpa [hb] using hgoal

/-- The runs of frames back to back are the frames. -/
theorem runs_frames {bodies : List (List α)} (h : ∀ m ∈ bodies, c ∉ m) :
    runs o c none (bodies.map (fun m => o :: m ++ [c])).flatten =
      bodies.map (fun m => o :: m ++ [c]) := by
  induction bodies with
  | nil => rfl
  | cons m ms ih =>
      have hm : c ∉ m := h m List.mem_cons_self
      have hms := ih fun m' hm' => h m' (List.mem_cons_of_mem _ hm')
      have hopen := runs_open (o := o) [] hm (ms.map (fun m => o :: m ++ [c])).flatten
      rw [hms] at hopen
      simpa using hopen

/-! ## Two parts and a separator -/

omit [DecidableEq α] in
/-- A separator that is not in the first part tells where it ends. -/
theorem append_cons_inj {x y u v : List α} (hx : c ∉ x) (hy : c ∉ y)
    (h : x ++ c :: u = y ++ c :: v) : x = y ∧ u = v := by
  induction x generalizing y with
  | nil =>
      cases y with
      | nil => exact ⟨rfl, (List.cons.inj h).2⟩
      | cons b y =>
          obtain ⟨rfl, _⟩ := List.cons.inj h
          exact absurd List.mem_cons_self hy
  | cons a x ih =>
      cases y with
      | nil =>
          obtain ⟨rfl, _⟩ := List.cons.inj h
          exact absurd List.mem_cons_self hx
      | cons b y =>
          obtain ⟨rfl, hrest⟩ := List.cons.inj h
          rw [List.mem_cons, not_or] at hx hy
          obtain ⟨rfl, huv⟩ := ih hx.2 hy.2 hrest
          exact ⟨rfl, huv⟩

end V2XHub.Lib.Delimited
