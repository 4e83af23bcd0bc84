import V2XHub.Lib.Run
import V2XHub.Tmx.FramerStream
import V2XHub.Tmx.IvpCodec

/-!
# Messages between a plugin and the core

One direction of a connection is a socket and the framer that reads from it. A message is printed,
framed and sent; on the other side `recv` returns any number of the bytes that are there, and every
text that the framer finds is parsed. What was sent and what was received is kept with the link.

**Main result** `inOrder_of_run`: whatever messages are sent, and whenever how many bytes are
received, the messages come out in order, each once, and none is kept back.
-/

namespace V2XHub.Tmx

open V2XHub.Lib

/-- The bytes in the socket, and the framer behind it. -/
structure Link where
  wire : List UInt8 := []
  framer : MsgFramer := MsgFramer.initializer

namespace Link

open MsgFramer

/-- `send` of a framed text. -/
def send (l : Link) (text : List UInt8) : Link :=
  { l with wire := l.wire ++ createFramedMsg text }

/-- `recv` of `count` bytes, and the loop over `msgFramer_getNextMsg`. -/
def recv (l : Link) (count : Nat) : Option (List (List UInt8) × Link) :=
  if 0 < count ∧ count ≤ l.wire.length ∧ count ≤ l.framer.getBufLength then
    (l.framer.receive (l.wire.take count)).map fun r =>
      (r.1, { wire := l.wire.drop count, framer := r.2 })
  else none

/-! ## A link is a queue of texts -/

/-- The texts that the link still has to deliver: the frame that the framer has begun and those in
the socket are read as these texts, and they fit its buffer. -/
def Holds (l : Link) (texts : List (List UInt8)) : Prop :=
  ∃ st, Ready l.framer (pending st) ∧ Delimited.Open 0x03 st ∧ 0 ∉ pending st ∧ 0 ∉ l.wire ∧
    scan st l.wire = (texts, none) ∧ Delimited.Fits 0x02 0x03 msgFramerMaxBufSize st l.wire

/-- A text that can be framed. -/
structure Framable (text : List UInt8) : Prop where
  noNul : 0x00 ∉ text
  noEnd : 0x03 ∉ text
  fits : (createFramedMsg text).length ≤ msgFramerMaxBufSize

variable {l l' : Link} {texts : List (List UInt8)}

theorem holds_init : ({} : Link).Holds [] := by
  refine ⟨none, ready_of_reset (by simp [initializer]) rfl rfl, Delimited.open_none,
    List.not_mem_nil, List.not_mem_nil, rfl, ?_⟩
  intro r hr
  cases hr

theorem Holds.send (h : l.Holds texts) {text : List UInt8} (htext : Framable text) :
    (l.send text).Holds (texts ++ [text]) := by
  obtain ⟨st, hready, hopen, hpending, hwire, hscan, hfits⟩ := h
  have hscanFrame : scan none (createFramedMsg text) = ([text], none) :=
    Delimited.scan_frame (g := []) (w := []) List.not_mem_nil htext.noEnd
  have hruns : Delimited.runs 0x02 0x03 none (createFramedMsg text) = [createFramedMsg text] :=
    Delimited.runs_open [] htext.noEnd []
  have hnone : (scan st l.wire).2 = none := by rw [hscan]
  refine ⟨st, hready, hopen, hpending, ?_, ?_, ?_⟩
  · show 0 ∉ l.wire ++ createFramedMsg text
    have hnul := htext.noNul
    simp [createFramedMsg, hwire, hnul]
  · show scan st (l.wire ++ createFramedMsg text) = _
    have happend : scan st (l.wire ++ createFramedMsg text) =
        ((scan st l.wire).1 ++ (scan (scan st l.wire).2 (createFramedMsg text)).1,
          (scan (scan st l.wire).2 (createFramedMsg text)).2) := Delimited.scan_append st _ _
    rw [happend, hscan, hscanFrame]
  · show Delimited.Fits _ _ _ st (l.wire ++ createFramedMsg text)
    refine hfits.append hnone ?_
    intro r hr
    rw [hruns, List.mem_singleton] at hr
    rw [hr]
    exact htext.fits

/-- What is received now comes first; the rest is still to come. -/
theorem Holds.recv (h : l.Holds texts) {count : Nat} {now : List (List UInt8)}
    (hrecv : l.recv count = some (now, l')) : ∃ later, texts = now ++ later ∧ l'.Holds later := by
  obtain ⟨st, hready, hopen, hpending, hwire, hscan, hfits⟩ := h
  unfold Link.recv at hrecv
  split at hrecv
  · rename_i hcount
    obtain ⟨hpos, hlength, hroom⟩ := hcount
    have hsplit : l.wire.take count ++ l.wire.drop count = l.wire := List.take_append_drop _ _
    have hnul : 0 ∉ l.wire.take count := fun hmem => hwire (List.mem_of_mem_take hmem)
    have hnul' : 0 ∉ l.wire.drop count := fun hmem => hwire (List.mem_of_mem_drop hmem)
    obtain ⟨f', hreceive, hready'⟩ := receive_eq_scan hready hopen hpending hnul
      ((List.length_take_le _ _).trans hroom)
    rw [hreceive] at hrecv
    cases hrecv
    rw [← hsplit, scan, Delimited.scan_append] at hscan
    rw [← hsplit] at hfits
    obtain ⟨htexts, hstate⟩ := Prod.mk.inj hscan
    refine ⟨_, htexts.symm, (scan st (l.wire.take count)).2, ?_, Delimited.open_scan hopen _, ?_,
      hnul', Prod.ext rfl hstate, hfits.of_append⟩
    · -- an open frame is kept: either the frame goes on or there is none
      have hkept : kept (pending (scan st (l.wire.take count)).2) =
          pending (scan st (l.wire.take count)).2 := by
        by_cases hrest : l.wire.drop count = []
        · rw [hrest] at hstate
          have hnone : (scan st (l.wire.take count)).2 = none := hstate
          rw [hnone]
          rfl
        · have hlt := hfits.of_append.pending_lt hrest (by simp [msgFramerMaxBufSize])
          exact if_pos hlt
      rwa [hkept] at hready'
    · intro hmem
      rcases Delimited.mem_of_mem_pending_scan hmem with h | h | h
      · exact absurd h (by decide)
      · exact hpending h
      · exact hnul h
  · cases hrecv

/-- There is always room for another byte, so nothing is stuck in the socket. -/
theorem Holds.exists_recv (h : l.Holds texts) (hwire : l.wire ≠ []) :
    ∃ r, l.recv 1 = some r := by
  obtain ⟨st, hready, hopen, hpending, hnul, -, -⟩ := h
  have hlength : 1 ≤ l.wire.length := List.length_pos_iff.mpr hwire
  have hroom : 1 ≤ l.framer.getBufLength := by
    have hpos := hready.bufpos
    have hlt := hready.room
    unfold getBufLength
    omega
  have hnul' : 0 ∉ l.wire.take 1 := fun hmem => hnul (List.mem_of_mem_take hmem)
  obtain ⟨f', hreceive, -⟩ := receive_eq_scan hready hopen hpending hnul'
    ((List.length_take_le _ _).trans hroom)
  rw [Link.recv, if_pos ⟨Nat.one_pos, hlength, hroom⟩, hreceive]
  exact ⟨_, rfl⟩

theorem Holds.eq_nil (h : l.Holds texts) (hwire : l.wire = []) : texts = [] := by
  obtain ⟨st, -, -, -, -, hscan, -⟩ := h
  rw [hwire] at hscan
  exact (congrArg Prod.fst hscan).symm

end Link

/-! ## Messages on a link -/

/-- A link, with what its two ends have done. -/
structure LinkedEnds where
  link : Link := {}
  sent : List IvpCodec.IvpMessage := []
  /-- `NULL` for a text that is no message -/
  received : List (Option IvpCodec.IvpMessage) := []

namespace LinkedEnds

open CJsonText Link

inductive Event where
  | send (msg : IvpCodec.IvpMessage)
  /-- the DSRC metadata are allocated uninitialised -/
  | recv (count : Nat) (malloced : IvpCodec.IvpDsrcMetadata)

variable (realText : ℚ → List UInt8)

/-- `ivp_broadcastMessage` and `PluginConnection::onMessageReceived` on one side, and a turn of
`ivp_receive` or of the receiver thread on the other. -/
def step (s : LinkedEnds) : Event → Option LinkedEnds
  | .send msg =>
      some { s with
        link := s.link.send (IvpCodec.ivpMsg_createJsonString realText msg .none)
        sent := s.sent ++ [msg] }
  | .recv count malloced =>
      (s.link.recv count).map fun r =>
        { s with link := r.2, received := s.received ++ r.1.map (IvpCodec.ivpMsg_parse malloced) }

/-- Only plain messages are sent, and none is longer than the buffer of the framer. -/
def Proper (_ : LinkedEnds) : Event → Prop
  | .send msg =>
      (∃ m : IvpCodec.PlainMessage, m.toIvpMessage = msg) ∧
        (MsgFramer.createFramedMsg (IvpCodec.ivpMsg_createJsonString realText msg .none)).length ≤
          msgFramerMaxBufSize
  | .recv _ _ => True

variable {realText}

/-- The text is parsed as the message. -/
def Says (msg : IvpCodec.IvpMessage) (text : List UInt8) : Prop :=
  ∀ malloced, IvpCodec.ivpMsg_parse malloced text = some msg

theorem framable_createJsonString (m : IvpCodec.PlainMessage)
    (hfits : (MsgFramer.createFramedMsg
      (IvpCodec.ivpMsg_createJsonString realText m.toIvpMessage .none)).length ≤
        msgFramerMaxBufSize) :
    Framable (IvpCodec.ivpMsg_createJsonString realText m.toIvpMessage .none) where
  noNul := fun hmem => absurd (visible_cJson_print m.printable_rootItems _ hmem) (by decide)
  noEnd := fun hmem => absurd (visible_cJson_print m.printable_rootItems _ hmem) (by decide)
  fits := hfits

theorem says_createJsonString (m : IvpCodec.PlainMessage) :
    Says m.toIvpMessage.reparsed
      (IvpCodec.ivpMsg_createJsonString realText m.toIvpMessage .none) :=
  fun malloced =>
    IvpCodec.ivpMsg_parse_createJsonString m.printable_rootItems realText malloced .none

theorem map_parse_of_says {texts : List (List UInt8)} {msgs : List IvpCodec.IvpMessage}
    (h : List.Forall₂ Says msgs texts) (malloced : IvpCodec.IvpDsrcMetadata) :
    texts.map (IvpCodec.ivpMsg_parse malloced) = msgs.map some := by
  induction h with
  | nil => rfl
  | cons hsays _ ih => rw [List.map_cons, List.map_cons, hsays malloced, ih]

/-- The messages that were sent are those received and those that the texts on the way say. -/
def Inv (s : LinkedEnds) : Prop :=
  ∃ texts got rest, s.link.Holds texts ∧ List.Forall₂ Says rest texts ∧
    s.sent.map IvpCodec.IvpMessage.reparsed = got ++ rest ∧ s.received = got.map some

variable {s t : LinkedEnds}

theorem inv_init : ({} : LinkedEnds).Inv :=
  ⟨[], [], [], holds_init, .nil, rfl, rfl⟩

theorem Inv.step (h : s.Inv) {e : Event} (hproper : s.Proper realText e)
    (hstep : s.step realText e = some t) : t.Inv := by
  obtain ⟨texts, got, rest, hholds, hsays, hsent, hreceived⟩ := h
  cases e with
  | send msg =>
      obtain ⟨⟨m, rfl⟩, hfits⟩ := hproper
      cases hstep
      refine ⟨_, got, rest ++ [m.toIvpMessage.reparsed],
        hholds.send (framable_createJsonString m hfits),
        List.rel_append hsays (.cons (says_createJsonString m) .nil), ?_, hreceived⟩
      rw [List.map_append, hsent, List.append_assoc]
      rfl
  | recv count malloced =>
      obtain ⟨⟨now, link⟩, hrecv, rfl⟩ := Option.map_eq_some_iff.mp hstep
      obtain ⟨later, rfl, hholds'⟩ := hholds.recv hrecv
      have hnow := List.forall₂_take_append rest now later hsays
      have hlater := List.forall₂_drop_append rest now later hsays
      refine ⟨later, got ++ rest.take now.length, rest.drop now.length, hholds', hlater, ?_, ?_⟩
      · rw [hsent, List.append_assoc, List.take_append_drop]
      · show s.received ++ now.map _ = _
        rw [hreceived, map_parse_of_says hnow malloced, List.map_append]

theorem inv_of_run {es : List Event} (hs : s.Inv)
    (h : Run (Guarded (Proper realText) (Steps (LinkedEnds.step realText))) s es t) : t.Inv := by
  refine h.invariant ?_ hs
  intro s e t hinv hstep
  exact hinv.step hstep.1 hstep.2

/-- **A connection keeps the order**: in every run in which plain messages are sent, what was
received is the beginning of what was sent, it is all of it when the socket is empty, and as long
as there are bytes in the socket one can be received. -/
theorem inOrder_of_run {es : List Event}
    (h : Run (Guarded (Proper realText) (Steps (LinkedEnds.step realText))) {} es s) :
    s.received <+: s.sent.map (fun msg => some msg.reparsed) ∧
      (s.link.wire = [] → s.received = s.sent.map fun msg => some msg.reparsed) ∧
      (s.link.wire ≠ [] → ∀ malloced, ∃ t, s.step realText (.recv 1 malloced) = some t) := by
  obtain ⟨texts, got, rest, hholds, hsays, hsent, hreceived⟩ := inv_of_run inv_init h
  have hall : s.sent.map (fun msg => some msg.reparsed) = s.received ++ rest.map some := by
    rw [hreceived, ← List.map_append, ← hsent, List.map_map]
    rfl
  refine ⟨?_, ?_, ?_⟩
  · rw [hall]
    exact List.prefix_append _ _
  · intro hwire
    have htexts := hholds.eq_nil hwire
    subst htexts
    cases hsays
    rw [hall, List.map_nil, List.append_nil]
  · intro hwire malloced
    obtain ⟨r, hr⟩ := hholds.exists_recv hwire
    exact ⟨_, Option.map_eq_some_iff.mpr ⟨r, hr, rfl⟩⟩

/-- A message without any of the optional parts. -/
def bareMessage : IvpCodec.PlainMessage where
  type := none
  subtype := none
  source := none
  sourceId := 0
  encoding := none
  timestamp := 0
  flags := 0
  dsrcMetadata := none
  payload := none
  type_cString := by rintro _ ⟨⟩
  subtype_cString := by rintro _ ⟨⟩
  source_cString := by rintro _ ⟨⟩
  encoding_cString := by rintro _ ⟨⟩
  timestamp_lt := by decide
  payload_printable := by rintro _ ⟨⟩

/-- A message with a type, a source and a payload. -/
def statusMessage : IvpCodec.PlainMessage where
  type := some (ascii "Status")
  subtype := some (ascii "Up")
  source := some (ascii "MAP")
  sourceId := 7
  encoding := some (ascii "json")
  timestamp := 1000
  flags := 2
  dsrcMetadata := none
  payload := some (.array [.string (ascii "ok"), .true])
  type_cString := by simp [ascii]
  subtype_cString := by simp [ascii]
  source_cString := by simp [ascii]
  encoding_cString := by simp [ascii]
  timestamp_lt := by decide
  payload_printable := by
    rintro _ ⟨⟩
    exact ⟨show 0 ∉ ascii "ok" by decide, trivial, trivial⟩

theorem proper_send (s : LinkedEnds) (m : IvpCodec.PlainMessage)
    (hfits : (MsgFramer.createFramedMsg
      (IvpCodec.ivpMsg_createJsonString realText m.toIvpMessage .none)).length ≤
        msgFramerMaxBufSize) : s.Proper realText (.send m.toIvpMessage) :=
  ⟨⟨m, rfl⟩, hfits⟩

/-- Two messages arrive in two pieces; the first piece ends within the second message. -/
theorem inOrder_of_run_twoMessages :
    ∃ s, Run (Steps (LinkedEnds.step fun _ => [])) {}
        [.send statusMessage.toIvpMessage, .send bareMessage.toIvpMessage,
          .recv 150 ⟨0, 0⟩, .recv 28 ⟨0, 0⟩] s ∧
      s.received =
        [some statusMessage.toIvpMessage.reparsed, some bareMessage.toIvpMessage.reparsed] := by
  let text (m : IvpCodec.PlainMessage) : List UInt8 :=
    IvpCodec.ivpMsg_createJsonString (fun _ => []) m.toIvpMessage .none
  let sent : Link := ({} : Link).send (text statusMessage) |>.send (text bareMessage)
  have hwire : ((sent.recv 150).bind fun r => r.2.recv 28).map (fun r => r.2.wire) = some [] := by
    decide +kernel
  obtain ⟨r', hrecv', hempty⟩ := Option.map_eq_some_iff.mp hwire
  obtain ⟨r, hrecv, hrecv'⟩ := Option.bind_eq_some_iff.mp hrecv'
  have hrun : Run (Guarded (Proper fun _ => []) (Steps (LinkedEnds.step fun _ => []))) {}
      [.send statusMessage.toIvpMessage, .send bareMessage.toIvpMessage,
        .recv 150 ⟨0, 0⟩, .recv 28 ⟨0, 0⟩] _ :=
    .cons ⟨proper_send _ statusMessage (by decide +kernel), rfl⟩ <|
    .cons ⟨proper_send _ bareMessage (by decide +kernel), rfl⟩ <|
    .cons ⟨trivial, Option.map_eq_some_iff.mpr ⟨r, hrecv, rfl⟩⟩ <|
    .cons ⟨trivial, Option.map_eq_some_iff.mpr ⟨r', hrecv', rfl⟩⟩ .nil
  exact ⟨_, hrun.mono fun _ _ _ h => h.2, (inOrder_of_run hrun).2.1 hempty⟩

end LinkedEnds

end V2XHub.Tmx
