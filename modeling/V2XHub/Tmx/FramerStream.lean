import V2XHub.Lib.Delimited
import V2XHub.Tmx.MsgFramer

/-!
# What the framer delivers

The receive loop hands the framer whatever `recv` returned, drains it, and asks for more. Here is
the law that makes this a message transport: for a stream whose frames fit the buffer, what is
delivered is `Delimited.scan` of the stream, however it was cut.

The simulation relation is `Unread f u` — the buffer holds the bytes `u` not yet looked at, then
the NUL. Between two chunks `u` is exactly the open frame, `Delimited.pending`. The stream may not
contain a NUL: `strstr` would stop there.
-/

namespace V2XHub.Tmx.MsgFramer

open V2XHub.Lib

/-- The framer still has to look at `u`, which ends at the NUL in `buf[bufpos]`. -/
structure Unread (f : MsgFramer) (u : List UInt8) : Prop where
  size : f.buf.length = msgFramerMaxBufSize + 1
  content : u ++ [0] <+: f.buf.drop f.readpos
  bufpos : f.bufpos = f.readpos + u.length

theorem Unread.bufpos_le {f : MsgFramer} {u : List UInt8} (h : Unread f u) :
    f.bufpos ≤ msgFramerMaxBufSize := by
  have hlen := h.content.length_le
  have hsize := h.size
  have hpos := h.bufpos
  simp only [List.length_append, List.length_singleton, List.length_drop] at hlen
  omega

theorem Unread.length_le {f : MsgFramer} {u : List UInt8} (h : Unread f u) :
    u.length ≤ msgFramerMaxBufSize := by
  have := h.bufpos_le
  have := h.bufpos
  omega

/-- At the front of the buffer `Unread` is about `buf` itself. -/
theorem Unread.content_of_readpos {f : MsgFramer} {u : List UInt8} (h : Unread f u)
    (hr : f.readpos = 0) : u ++ [0] <+: f.buf := by
  simpa [hr] using h.content

/-! ## The pieces of `getNextMsg` -/

/-- Shifting out a prefix `w` of the unread bytes. -/
theorem Unread.shiftBuf {f : MsgFramer} {w u : List UInt8} (h : Unread f (w ++ u))
    (hr : f.readpos = 0) : Unread (f.shiftBuf w.length) u := by
  have hpos : f.bufpos = w.length + u.length := by simpa [hr] using h.bufpos
  have hn : f.bufpos + 1 - w.length = u.length + 1 := by omega
  refine ⟨by simpa [MsgFramer.shiftBuf] using h.size, ?_, ?_⟩
  · have hcontent := h.content_of_readpos hr
    rw [List.append_assoc] at hcontent
    simpa [MsgFramer.shiftBuf, hr, hn] using prefix_shiftDown hcontent
  · simp [MsgFramer.shiftBuf, hr, hpos]

theorem Unread.dropRead {f : MsgFramer} {u : List UInt8} (h : Unread f u) :
    Unread f.dropRead u ∧ f.dropRead.readpos = 0 := by
  unfold MsgFramer.dropRead
  by_cases hr : f.readpos = 0
  · simp [hr, h]
  · -- the bytes before `readpos` are the message the last call returned
    have hle : f.readpos ≤ f.buf.length := by
      have := h.bufpos_le
      have := h.bufpos
      have := h.size
      omega
    have hwhole : Unread { f with readpos := 0 } (f.buf.take f.readpos ++ u) := by
      refine ⟨h.size, ?_, ?_⟩
      · obtain ⟨t, ht⟩ := h.content
        refine ⟨t, ?_⟩
        calc f.buf.take f.readpos ++ u ++ [0] ++ t
            = f.buf.take f.readpos ++ (u ++ [0] ++ t) := by simp
          _ = f.buf.take f.readpos ++ f.buf.drop f.readpos := by rw [ht]
          _ = f.buf := List.take_append_drop _ _
      · simp only [List.length_append, List.length_take, Nat.min_eq_left hle]
        have := h.bufpos
        omega
    have hshift := hwhole.shiftBuf rfl
    rw [List.length_take, Nat.min_eq_left hle] at hshift
    simp only [ne_eq, hr, not_false_eq_true, if_true]
    exact ⟨⟨hshift.size, hshift.content, hshift.bufpos⟩, trivial⟩

/-- Between two chunks: the buffer starts with `u`, there is room for at least one byte more, and
no message is waiting to be dropped. There need not be a NUL behind `u` — when noise is thrown away
only `bufpos` is reset. -/
structure Ready (f : MsgFramer) (u : List UInt8) : Prop where
  size : f.buf.length = msgFramerMaxBufSize + 1
  content : u <+: f.buf
  bufpos : f.bufpos = u.length
  readpos : f.readpos = 0
  room : u.length < msgFramerMaxBufSize

theorem ready_of_reset {f : MsgFramer} (hsize : f.buf.length = msgFramerMaxBufSize + 1)
    (hpos : f.bufpos = 0) (hr : f.readpos = 0) : Ready f [] where
  size := hsize
  content := List.nil_prefix
  bufpos := hpos
  readpos := hr
  room := by simp [msgFramerMaxBufSize]

/-- What is kept of an open frame: all of it, unless it fills the buffer. -/
def kept (u : List UInt8) : List UInt8 := if u.length < msgFramerMaxBufSize then u else []

theorem Unread.resetIfFull {f : MsgFramer} {u : List UInt8} (h : Unread f u)
    (hr : f.readpos = 0) : Ready f.resetIfFull (kept u) := by
  have hpos : f.bufpos = u.length := by simpa [hr] using h.bufpos
  by_cases hfull : f.bufpos = msgFramerMaxBufSize
  · have hkept : kept u = [] := by simp [kept, ← hpos, hfull]
    rw [hkept, MsgFramer.resetIfFull, if_pos hfull]
    exact ready_of_reset h.size rfl rfl
  · have hlt : u.length < msgFramerMaxBufSize := by
      have := h.length_le
      omega
    rw [kept, if_pos hlt, MsgFramer.resetIfFull, if_neg hfull]
    exact ⟨h.size, (List.prefix_append _ _).trans (h.content_of_readpos hr), hpos, hr, hlt⟩

/-- Without an opening byte everything is dropped. -/
theorem getNextMsg_noise {f : MsgFramer} {u : List UInt8} (h : Unread f u)
    (hu : (0x02 : UInt8) ∉ u) : f.getNextMsg.1 = none ∧ Ready f.getNextMsg.2 [] := by
  obtain ⟨hu', hr⟩ := h.dropRead
  have hsearch := strstr_eq_none hu (hu'.content_of_readpos hr)
  have hpos : (0 : Nat) ≠ msgFramerMaxBufSize := by simp [msgFramerMaxBufSize]
  simp only [getNextMsg, hsearch, MsgFramer.resetIfFull, hpos, if_false]
  exact ⟨trivial, ready_of_reset hu'.size rfl hr⟩

/-- Behind noise, the framer has the opening byte at the front before it looks for the end. -/
theorem unread_after_noise {f : MsgFramer} {g v : List UInt8} (h : Unread f (g ++ 0x02 :: v)) :
    Unread (if g.length ≠ 0 then f.dropRead.shiftBuf g.length else f.dropRead) (0x02 :: v) ∧
    (if g.length ≠ 0 then f.dropRead.shiftBuf g.length else f.dropRead).readpos = 0 := by
  obtain ⟨hu', hr⟩ := h.dropRead
  by_cases hg : g.length = 0
  · have hnil : g = [] := List.length_eq_zero_iff.mp hg
    subst hnil
    simpa using ⟨hu', hr⟩
  · simp only [ne_eq, hg, not_false_eq_true, if_true]
    exact ⟨hu'.shiftBuf hr, hr⟩

/-- `getNextMsg` finds the first opening byte. -/
theorem strstr_stx {f : MsgFramer} {g v : List UInt8} (h : Unread f (g ++ 0x02 :: v))
    (hg : (0x02 : UInt8) ∉ g) (h0 : (0 : UInt8) ∉ g) :
    strstr 0x02 f.dropRead.buf = some g.length := by
  obtain ⟨hu', hr⟩ := h.dropRead
  obtain ⟨t, ht⟩ := hu'.content_of_readpos hr
  have hbuf : f.dropRead.buf = g ++ 0x02 :: (v ++ 0 :: t) := by rw [← ht]; simp
  rw [hbuf]
  exact strstr_eq_some (by decide) hg h0 _

/-- An open frame stays, at the front of the buffer, unless it fills the buffer. -/
theorem getNextMsg_open {f : MsgFramer} {g v : List UInt8} (h : Unread f (g ++ 0x02 :: v))
    (hg : (0x02 : UInt8) ∉ g) (h0 : (0 : UInt8) ∉ g) (hv : (0x03 : UInt8) ∉ v) :
    f.getNextMsg.1 = none ∧ Ready f.getNextMsg.2 (kept (0x02 :: v)) := by
  obtain ⟨hw, hr⟩ := unread_after_noise h
  have hend := strstr_eq_none (c := 0x03) (u := 0x02 :: v) (by simpa using hv)
    (hw.content_of_readpos hr)
  simp only [getNextMsg, strstr_stx h hg h0, hend]
  exact ⟨trivial, hw.resetIfFull hr⟩

/-- A complete frame is delivered; what follows it is unread. -/
theorem getNextMsg_frame {f : MsgFramer} {g m w : List UInt8}
    (h : Unread f (g ++ 0x02 :: (m ++ 0x03 :: w))) (hg : (0x02 : UInt8) ∉ g)
    (h0g : (0 : UInt8) ∉ g) (hm : (0x03 : UInt8) ∉ m) (h0m : (0 : UInt8) ∉ m) :
    f.getNextMsg.1 = some m ∧ Unread f.getNextMsg.2 w := by
  obtain ⟨hu', hr⟩ := unread_after_noise h
  have hstart := strstr_stx h hg h0g
  simp only [getNextMsg, hstart]
  generalize (if g.length ≠ 0 then f.dropRead.shiftBuf g.length else f.dropRead) = f₁ at hu' hr ⊢
  obtain ⟨t, ht⟩ := hu'.content_of_readpos hr
  have hbuf : f₁.buf = (0x02 :: m) ++ 0x03 :: (w ++ 0 :: t) := by rw [← ht]; simp
  have hend : strstr 0x03 f₁.buf = some (m.length + 1) := by
    have hm' : (0x03 : UInt8) ∉ 0x02 :: m := by simpa using hm
    have h0m' : (0 : UInt8) ∉ 0x02 :: m := by simpa using h0m
    rw [hbuf]
    exact strstr_eq_some (by decide) hm' h0m' (w ++ 0 :: t)
  have hset : f₁.buf.set (m.length + 1) 0 = (0x02 :: m) ++ 0 :: (w ++ 0 :: t) := by
    rw [hbuf, show m.length + 1 = (0x02 :: m : List UInt8).length by simp,
      List.set_append_right _ _ (le_refl _)]
    simp
  simp only [hend, hset]
  refine ⟨?_, ?_, ?_, ?_⟩
  · simpa using cString_append h0m
  · have hsize := hu'.size
    rw [hbuf] at hsize
    simpa using hsize
  · refine ⟨t, ?_⟩
    simp
  · have hpos := hu'.bufpos
    rw [hr] at hpos
    simp only [List.length_cons, List.length_append] at hpos ⊢
    omega

/-! ## Draining -/

/-- The frames of a byte string as the framer reads them. -/
abbrev scan (st : Option (List UInt8)) (s : List UInt8) : List (List UInt8) × Option (List UInt8) :=
  Delimited.scan 0x02 0x03 st s

/-- The bytes of the frame open in state `st`. -/
abbrev pending (st : Option (List UInt8)) : List UInt8 := Delimited.pending 0x02 st

/-- A call that returns `NULL` ends the drain. -/
theorem drain_of_none {n : Nat} {f : MsgFramer} (h : f.getNextMsg.1 = none) :
    f.drain (n + 1) = some ([], f.getNextMsg.2) := by
  cases hcall : f.getNextMsg with
  | mk r f' =>
      rw [hcall] at h
      simp only at h
      subst h
      simp [drain, hcall]

theorem drain_of_some {n : Nat} {f f' : MsgFramer} {m : List UInt8} {ms : List (List UInt8)}
    (h : f.getNextMsg.1 = some m) (hrest : f.getNextMsg.2.drain n = some (ms, f')) :
    f.drain (n + 1) = some (m :: ms, f') := by
  cases hcall : f.getNextMsg with
  | mk r f₁ =>
      rw [hcall] at h hrest
      simp only at h hrest
      subst h
      simp [drain, hcall, hrest]

/-- **Draining delivers the frames among the unread bytes**, and never runs out of calls. What is
left is the open frame, unless that fills the buffer. -/
theorem drain_eq_scan {n : Nat} {f : MsgFramer} {u : List UInt8} (h : Unread f u)
    (h0 : (0 : UInt8) ∉ u) (hn : u.length < n) :
    ∃ f', f.drain n = some ((scan none u).1, f') ∧ Ready f' (kept (pending (scan none u).2)) := by
  induction n generalizing f u with
  | zero => omega
  | succ n ih =>
      by_cases hstx : (0x02 : UInt8) ∈ u
      · obtain ⟨g, v, rfl, hg⟩ := List.eq_append_cons_of_mem hstx
        have h0g : (0 : UInt8) ∉ g := fun hm => h0 (List.mem_append_left _ hm)
        have h0v : (0 : UInt8) ∉ v := fun hm =>
          h0 (List.mem_append_right _ (List.mem_cons_of_mem _ hm))
        by_cases hetx : (0x03 : UInt8) ∈ v
        · -- a complete frame: one message, then the induction hypothesis on the bytes behind it
          obtain ⟨m, w, rfl, hm⟩ := List.eq_append_cons_of_mem hetx
          have h0m : (0 : UInt8) ∉ m := fun hx => h0v (List.mem_append_left _ hx)
          have h0w : (0 : UInt8) ∉ w := fun hx =>
            h0v (List.mem_append_right _ (List.mem_cons_of_mem _ hx))
          obtain ⟨hmsg, hrest⟩ := getNextMsg_frame h hg h0g hm h0m
          have hlen : w.length < n := by
            simp only [List.length_append, List.length_cons] at hn
            omega
          obtain ⟨f', hdrain, hready⟩ := ih hrest h0w hlen
          rw [scan, Delimited.scan_frame hg hm]
          exact ⟨f', drain_of_some hmsg hdrain, hready⟩
        · obtain ⟨hnone, hready⟩ := getNextMsg_open h hg h0g hetx
          have hscan : scan none (g ++ 0x02 :: v) = ([], some v) := by
            rw [scan, Delimited.scan_append, Delimited.scan_noise hg]
            simp [Delimited.scan, Delimited.scan_open hetx]
          rw [hscan]
          exact ⟨_, drain_of_none hnone, hready⟩
      · obtain ⟨hnone, hready⟩ := getNextMsg_noise h hstx
        rw [scan, Delimited.scan_noise hstx]
        exact ⟨_, drain_of_none hnone, by simpa [kept, Delimited.pending] using hready⟩

/-! ## Chunks -/

/-- The received bytes join what the buffer held. -/
theorem Ready.incrementBufPos_recv {f : MsgFramer} {u chunk : List UInt8} (h : Ready f u)
    (hlen : chunk.length ≤ f.getBufLength) :
    Unread ((f.recv chunk).incrementBufPos chunk.length) (u ++ chunk) := by
  have hroom : f.bufpos + chunk.length ≤ msgFramerMaxBufSize := by
    have := h.bufpos
    have := h.room
    unfold getBufLength at hlen
    omega
  have htake : f.buf.take f.bufpos = u := by
    rw [h.bufpos]
    exact (List.prefix_iff_eq_take.mp h.content).symm
  have hsize := h.size
  have hpos := h.bufpos
  rw [incrementBufPos, if_neg (by simpa [recv] using hroom)]
  refine ⟨?_, ?_, ?_⟩
  · simp only [recv, htake, List.length_set, List.length_append, List.length_drop]
    omega
  · -- the NUL is written over the first byte behind the chunk
    have hne : f.buf.drop (f.bufpos + chunk.length) ≠ [] := by
      rw [ne_eq, List.drop_eq_nil_iff]
      omega
    obtain ⟨b, t, hbt⟩ := List.exists_cons_of_ne_nil hne
    refine ⟨t, ?_⟩
    simp only [recv, htake, h.readpos, List.drop_zero, hbt]
    rw [List.set_append_right _ _ (by simp; omega)]
    simp [hpos]
  · simp [recv, h.readpos, hpos]

/-- **One turn of the receive loop** reads the chunk from where the last one left off. -/
theorem receive_eq_scan {f : MsgFramer} {st : Option (List UInt8)} {chunk : List UInt8}
    (h : Ready f (pending st)) (hst : Delimited.Open 0x03 st) (h0 : (0 : UInt8) ∉ pending st)
    (h0c : (0 : UInt8) ∉ chunk) (hlen : chunk.length ≤ f.getBufLength) :
    ∃ f', f.receive chunk = some ((scan st chunk).1, f') ∧
      Ready f' (kept (pending (scan st chunk).2)) := by
  have hunread := h.incrementBufPos_recv hlen
  have h0u : (0 : UInt8) ∉ pending st ++ chunk := by
    simp only [List.mem_append, not_or]
    exact ⟨h0, h0c⟩
  have hfuel : (pending st ++ chunk).length <
      ((f.recv chunk).incrementBufPos chunk.length).bufpos + 1 := by
    have := hunread.bufpos
    omega
  have hdrain := drain_eq_scan hunread h0u hfuel
  rw [scan, Delimited.scan_pending hst] at hdrain
  exact hdrain

/-- Feed chunks one after the other; all the messages delivered. -/
def feed : MsgFramer → List (List UInt8) → Option (List (List UInt8))
  | _, [] => some []
  | f, chunk :: chunks =>
      match f.receive chunk with
      | none => none
      | some (msgs, f') => (feed f' chunks).map (msgs ++ ·)

/-- The chunks are ones `recv` can return: not empty, and no longer than the room the framer had
at that moment. -/
def Accepted : MsgFramer → List (List UInt8) → Prop
  | _, [] => True
  | f, chunk :: chunks =>
      1 ≤ chunk.length ∧ chunk.length ≤ f.getBufLength ∧
      match f.receive chunk with
      | none => True
      | some (_, f') => Accepted f' chunks

instance decidableAccepted : (f : MsgFramer) → (chunks : List (List UInt8)) →
    Decidable (Accepted f chunks)
  | _, [] => inferInstanceAs (Decidable True)
  | f, chunk :: chunks =>
      have : Decidable (match f.receive chunk with
          | none => True
          | some (_, f') => Accepted f' chunks) :=
        match f.receive chunk with
        | none => inferInstanceAs (Decidable True)
        | some (_, f') => decidableAccepted f' chunks
      inferInstanceAs (Decidable (_ ∧ _ ∧ _))

/-- No stretch from a frame's opening byte to its closing one, or to the end of the stream, is
longer than the buffer. -/
def FitsBuffer (s : List UInt8) : Prop := Delimited.Fits 0x02 0x03 msgFramerMaxBufSize none s

/-- **The receive loop computes `scan`**, from any point of the stream on. -/
theorem feed_eq_scan {chunks : List (List UInt8)} {f : MsgFramer} {st : Option (List UInt8)}
    (hready : Ready f (pending st)) (hst : Delimited.Open 0x03 st)
    (h0st : (0 : UInt8) ∉ pending st) (hacc : Accepted f chunks)
    (h0 : (0 : UInt8) ∉ chunks.flatten)
    (hfits : Delimited.Fits 0x02 0x03 msgFramerMaxBufSize st chunks.flatten) :
    f.feed chunks = some (scan st chunks.flatten).1 := by
  induction chunks generalizing f st with
  | nil => simp [feed, Delimited.scan]
  | cons chunk chunks ih =>
      obtain ⟨hpos, hlen, hnext⟩ := hacc
      rw [List.flatten_cons] at h0 hfits ⊢
      have h0c : (0 : UInt8) ∉ chunk := fun hm => h0 (List.mem_append_left _ hm)
      have h0cs : (0 : UInt8) ∉ chunks.flatten := fun hm => h0 (List.mem_append_right _ hm)
      obtain ⟨f', hrecv, hready'⟩ := receive_eq_scan hready hst h0st h0c hlen
      have hacc' : Accepted f' chunks := by simpa [hrecv] using hnext
      have hfits' := hfits.of_append
      rw [scan, Delimited.scan_append]
      simp only [feed, hrecv]
      by_cases hrest : chunks = []
      · subst hrest
        simp [feed, Delimited.scan]
      · -- the stream goes on, so the open frame does not fill the buffer and is kept
        have hne : chunks.flatten ≠ [] := by
          obtain ⟨c, cs, rfl⟩ := List.exists_cons_of_ne_nil hrest
          have hc : 1 ≤ c.length := hacc'.1
          intro hnil
          rw [List.flatten_cons, List.append_eq_nil_iff] at hnil
          simp [hnil.1] at hc
        have hlt := hfits'.pending_lt hne (by simp [msgFramerMaxBufSize])
        rw [kept, if_pos hlt] at hready'
        have h0st' : (0 : UInt8) ∉ pending (scan st chunk).2 := by
          intro hm
          rcases Delimited.mem_of_mem_pending_scan hm with h | h | h
          · exact absurd h (by decide)
          · exact h0st h
          · exact h0c h
        rw [ih hready' (Delimited.open_scan hst chunk) h0st' hacc' h0cs hfits']
        rfl

/-- From a fresh framer. -/
theorem feed_initializer {chunks : List (List UInt8)} (hacc : Accepted initializer chunks)
    (h0 : (0 : UInt8) ∉ chunks.flatten) (hfits : FitsBuffer chunks.flatten) :
    initializer.feed chunks = some (scan none chunks.flatten).1 := by
  have hready : Ready initializer (pending none) :=
    ready_of_reset (by simp [initializer]) rfl rfl
  exact feed_eq_scan hready Delimited.open_none (by simp [Delimited.pending]) hacc h0 hfits

/-- **The stream law of the framer.** A list of messages framed with `createFramedMsg` and sent as
one stream is delivered as that list, whatever chunks the stream arrives in; and what is delivered
of any NUL-free stream whose frames fit the buffer does not depend on the chunks. -/
theorem framer_stream_law :
    (∀ (msgs chunks : List (List UInt8)),
      (∀ m ∈ msgs, 0x00 ∉ m ∧ 0x02 ∉ m ∧ 0x03 ∉ m ∧
        (createFramedMsg m).length ≤ msgFramerMaxBufSize) →
      chunks.flatten = (msgs.map createFramedMsg).flatten →
      Accepted initializer chunks →
      initializer.feed chunks = some msgs) ∧
    (∀ (s : List UInt8) (chunks chunks' : List (List UInt8)),
      0x00 ∉ s → FitsBuffer s →
      chunks.flatten = s → Accepted initializer chunks →
      chunks'.flatten = s → Accepted initializer chunks' →
      ∃ msgs, initializer.feed chunks = some msgs ∧ initializer.feed chunks' = some msgs) := by
  refine ⟨?_, ?_⟩
  · intro msgs chunks hmsgs hstream hacc
    have hetx : ∀ m ∈ msgs, (0x03 : UInt8) ∉ m := fun m hm => (hmsgs m hm).2.2.1
    have h0 : (0 : UInt8) ∉ chunks.flatten := by
      rw [hstream]
      intro h
      obtain ⟨frame, hframe, hmem⟩ := List.mem_flatten.mp h
      obtain ⟨m, hm, rfl⟩ := List.mem_map.mp hframe
      simp only [createFramedMsg, List.cons_append, List.mem_cons, List.mem_append,
        List.not_mem_nil, or_false] at hmem
      rcases hmem with h' | h' | h'
      · exact absurd h' (by decide)
      · exact (hmsgs m hm).1 h'
      · exact absurd h' (by decide)
    have hfits : FitsBuffer chunks.flatten := by
      intro r hr
      rw [hstream] at hr
      have hruns := Delimited.runs_frames (o := (0x02 : UInt8)) hetx
      obtain ⟨m, hm, rfl⟩ := List.mem_map.mp (hruns ▸ hr)
      exact (hmsgs m hm).2.2.2
    rw [feed_initializer hacc h0 hfits, hstream]
    -- between two frames nothing is left over
    have hscan := Delimited.scan_frames (o := (0x02 : UInt8)) hetx
    exact congrArg (fun r => some r.1) hscan
  · rintro s chunks chunks' h0 hfits rfl hacc hsame hacc'
    refine ⟨_, feed_initializer hacc h0 hfits, ?_⟩
    rw [feed_initializer hacc' (hsame ▸ h0) (hsame ▸ hfits), hsame]

/-- Two messages in three chunks that respect no frame boundary, and the same bytes at once. -/
theorem framer_stream_law_two_messages :
    initializer.feed [[0x02, 0x41], [0x42, 0x03, 0x02], [0x43, 0x03]] =
      some [[0x41, 0x42], [0x43]] ∧
    ∃ msgs, initializer.feed [[0x02, 0x41, 0x03, 0x09]] = some msgs ∧
      initializer.feed [[0x02], [0x41, 0x03], [0x09]] = some msgs :=
  ⟨framer_stream_law.1 [[0x41, 0x42], [0x43]] [[0x02, 0x41], [0x42, 0x03, 0x02], [0x43, 0x03]]
      (by decide) rfl (by decide +kernel),
    framer_stream_law.2 [0x02, 0x41, 0x03, 0x09] [[0x02, 0x41, 0x03, 0x09]]
      [[0x02], [0x41, 0x03], [0x09]] (by decide) (by unfold FitsBuffer Delimited.Fits; decide)
      rfl (by decide +kernel) rfl (by decide +kernel)⟩

end V2XHub.Tmx.MsgFramer
