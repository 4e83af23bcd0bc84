import Mathlib.Algebra.Group.Nat.Defs
import Mathlib.Data.List.Infix

/-!
# Secured packets

In full SPDU mode the message receiver decodes each packet as IEEE 1609.2 data and unwraps it:
signed data in signed data, down to the bytes that are not secured. These are handed to the message
manager, and sent on together with the packet as a `RawSpdu`. Two counters say how many packets were
processed and how many failed.

The decoder is a parameter, and so is what tells the J2735 message type of the bytes.
-/

namespace V2XHub.MessageReceiver

/-! ## IEEE 1609.2 data -/

/-- `SignedData`, as far as it is read; every pointer may be null. -/
structure ToBeSignedData (δ : Type) where
  psid : Nat
  /-- the payload, and the data in it -/
  payload : Option (Option δ)

inductive Ieee1609Dot2Content (δ : Type) where
  | unsecuredData (buf : Option (List UInt8))
  | signedData (sd : Option (Option (ToBeSignedData δ)))
  | other

/-- `Ieee1609Dot2Data` -/
inductive Ieee1609Dot2Data where
  | mk (protocolVersion : Nat) (content : Option (Ieee1609Dot2Content Ieee1609Dot2Data))

def maxSpduDepth : Nat := 20

/-- The arguments that `unwrapSpdu` writes to. -/
structure Unwrapped where
  payloadOut : List UInt8 := []
  psidOut : UInt32 := 0
  psidSet : Bool := false
  deriving DecidableEq

def unwrapSpdu (d : Option Ieee1609Dot2Data) (out : Unwrapped) (depth : Nat)
    (psidOnly : Bool := false) : Bool × Unwrapped :=
  match d with
  | none => (false, out)
  | some (.mk protocolVersion content) =>
      if depth > maxSpduDepth then (false, out)
      else if protocolVersion ≠ 3 then (false, out)
      else
        match content with
        | some (.unsecuredData (some buf)) =>
            if buf = [] then (false, out) else (true, { out with payloadOut := buf })
        | some (.signedData (some (some tbsData))) =>
            let set := out.psidSet
            let out := if set then out
              else { out with psidOut := UInt32.ofNat tbsData.psid, psidSet := true }
            if !set && psidOnly then (true, out)
            else
              match tbsData.payload with
              | some (some next) => unwrapSpdu (some next) out (depth + 1)
              | _ => (false, out)
        | _ => (false, out)
termination_by maxSpduDepth + 1 - depth
decreasing_by omega

/-! ## The plugin -/

/-- `ENCODING_…_STRING` -/
def getEncoding (b : UInt8) : String :=
  if b = 0x00 then "asn.1-uper/hexstring"
  else if b = 0x30 then "asn.1-ber/hexstring"
  else if b = 0x7b then "json"
  else "bytearray/hexstring"

structure RawSpdu where
  fullByteData : List UInt8
  msgByteData : List UInt8
  uuid : List UInt8
  timestampMs : Int
  /-- an `int` -/
  psid : Int
  messageType : String
  deriving DecidableEq

/-- What is handed to `IncomingMessage`. -/
structure Incoming where
  bytes : List UInt8
  encoding : String
  timestamp : Nat
  deriving DecidableEq

inductive IvpLogLevel where
  | warn
  deriving DecidableEq, Repr

structure TmxEventLogMessage where
  level : IvpLogLevel
  description : String
  deriving DecidableEq

/-- A packet, and the time and the id it is given. -/
structure Packet where
  bytes : List UInt8
  time : Nat
  uuid : List UInt8

structure Receiver where
  failedSPDU : UInt32 := 0
  processedSPDU : UInt32 := 0
  incoming : List Incoming := []
  outgoing : List RawSpdu := []
  eventLogs : List TmxEventLogMessage := []

/-- What is outside of the plugin. -/
structure Decoders where
  /-- `oer_decode`, with the number of bytes consumed if it fails -/
  oerDecode : List UInt8 → Except Nat Ieee1609Dot2Data
  getJ2735SubType : List UInt8 → String

section

variable (decoders : Decoders)

/-- The text of the exception, if it throws. -/
def decodeSpdu (data : List UInt8) : Except String Ieee1609Dot2Data :=
  match decoders.oerDecode data with
  | .ok decoded => .ok decoded
  | .error consumed =>
      .error ("Failed to decode SPDU: " ++ toString consumed ++ " bytes consumed of " ++
        toString data.length ++ ".")

/-- A `uint` in an `int`. -/
def toInt32 (n : UInt32) : Int := n.toBitVec.toInt

def buildRawSpdu (psid : UInt32) (fullByteData msgByteData : List UInt8) (rxTime : Nat)
    (uuid : List UInt8) : RawSpdu where
  fullByteData := fullByteData
  msgByteData := msgByteData
  uuid := uuid
  timestampMs := rxTime
  psid := toInt32 psid
  messageType := decoders.getJ2735SubType msgByteData

namespace Receiver

/-- A failure is logged and counted. -/
def fail (s : Receiver) (description : String) : Receiver :=
  { s with
    eventLogs := s.eventLogs ++ [{ level := .warn, description }]
    failedSPDU := s.failedSPDU + 1 }

def process (s : Receiver) (packet : Packet) (fullPayload msgPayload : List UInt8)
    (psid : UInt32) : Receiver :=
  { s with
    incoming := s.incoming ++
      [{ bytes := msgPayload, encoding := getEncoding (msgPayload.headD 0),
         timestamp := packet.time }]
    processedSPDU := s.processedSPDU + 1
    outgoing := s.outgoing ++
      [buildRawSpdu decoders psid fullPayload msgPayload packet.time packet.uuid] }

end Receiver

/-- The size of the buffer that a packet is received into. -/
def incomingSize : Nat := 4000

/-- What `recv` leaves of a packet. -/
def Packet.received (packet : Packet) : List UInt8 := packet.bytes.take incomingSize

/-- A packet in full SPDU mode. -/
def receive (s : Receiver) (packet : Packet) : Receiver :=
  let fullPayload := packet.received
  if fullPayload = [] then s
  else
    -- the exception is caught, and what follows goes on without the data
    let (decoded, s) := match decodeSpdu decoders fullPayload with
      | .ok decoded => (some decoded, s)
      | .error what => (none, s.fail ("Error decoding SPDU: " ++ what))
    match unwrapSpdu decoded {} 0 with
    | (true, out) =>
        if out.payloadOut = [] then s.fail "Error unwrapping SPDU"
        else s.process decoders packet fullPayload out.payloadOut out.psidOut
    | (false, _) => s.fail "Error unwrapping SPDU"

/-- `Main`, over the packets that are received. -/
def receiveAll (s : Receiver) (packets : List Packet) : Receiver :=
  packets.foldl (receive decoders) s

end

/-! ## What should come of it -/

/-- Unsecured data within layers of signed data, and the PSID of the outermost one. -/
inductive Nested : Ieee1609Dot2Data → Nat → List UInt8 → Nat → Prop
  | unsecured {payload : List UInt8} (hne : payload ≠ []) :
      Nested (.mk 3 (some (.unsecuredData (some payload)))) 0 payload 0
  | signed {d : Ieee1609Dot2Data} {layers : Nat} {payload : List UInt8} {inner psid : Nat}
      (h : Nested d layers payload inner) :
      Nested (.mk 3 (some (.signedData (some (some ⟨psid, some (some d)⟩))))) (layers + 1) payload
        psid

/-- The bytes decode to not too many layers around the payload. -/
def Wraps (decoders : Decoders) (bytes payload : List UInt8) (psid : Nat) : Prop :=
  ∃ d layers, decoders.oerDecode bytes = .ok d ∧ Nested d layers payload psid ∧
    layers ≤ maxSpduDepth

/-- One counter is raised by one: a packet that wraps a payload is processed, with one incoming
message and one `RawSpdu`; any other has failed. -/
def Accounted (decoders : Decoders) (packet : Packet) (s s' : Receiver) : Prop :=
  (∃ payload psid, Wraps decoders packet.bytes payload psid ∧
    s'.processedSPDU = s.processedSPDU + 1 ∧ s'.failedSPDU = s.failedSPDU ∧
    (∃ message, s'.incoming = s.incoming ++ [message] ∧ message.bytes = payload) ∧
    ∃ spdu, s'.outgoing = s.outgoing ++ [spdu] ∧ spdu.msgByteData = payload ∧
      spdu.fullByteData = packet.bytes ∧ spdu.psid = (psid : Int)) ∨
  (¬ ∃ payload psid, Wraps decoders packet.bytes payload psid) ∧
    s'.processedSPDU = s.processedSPDU ∧ s'.failedSPDU = s.failedSPDU + 1 ∧
    s'.incoming = s.incoming ∧ s'.outgoing = s.outgoing

/-- A packet that is counted once: what is received of it is not nothing and decodes, it is whole or
of no use either way, and its PSID fits into an `int`. -/
structure CountedOnce (decoders : Decoders) (packet : Packet) : Prop where
  not_empty : packet.bytes ≠ []
  decodes : ∃ d, decoders.oerDecode packet.received = .ok d
  whole : packet.bytes.length ≤ incomingSize ∨
    (¬ ∃ payload psid, Wraps decoders packet.bytes payload psid) ∧
      ¬ ∃ payload psid, Wraps decoders packet.received payload psid
  psid_lt : ∀ payload psid, Wraps decoders packet.bytes payload psid → psid < 2 ^ 31

/-! ## Unwrapping -/

section

variable {d : Ieee1609Dot2Data} {layers psid depth : Nat} {payload : List UInt8} {out : Unwrapped}

/-- What is written: the PSID only if there is a layer and none was found before. -/
def written (out : Unwrapped) (layers : Nat) (payload : List UInt8) (psid : Nat) : Unwrapped where
  payloadOut := payload
  psidOut := if out.psidSet ∨ layers = 0 then out.psidOut else UInt32.ofNat psid
  psidSet := out.psidSet || layers ≠ 0

theorem unwrapSpdu_of_nested (h : Nested d layers payload psid)
    (hdepth : depth + layers ≤ maxSpduDepth) :
    unwrapSpdu (some d) out depth = (true, written out layers payload psid) := by
  induction h generalizing out depth with
  | @unsecured payload hne =>
      rw [unwrapSpdu, if_neg (by omega)]
      simp [hne, written]
  | @signed d layers payload inner psid h ih =>
      rw [unwrapSpdu, if_neg (by omega)]
      simp only [ne_eq, not_true_eq_false, if_false, Bool.and_false, Bool.false_eq_true]
      rw [ih (by omega)]
      cases hset : out.psidSet <;> simp [written, hset]

theorem nested_of_unwrapSpdu {d : Option Ieee1609Dot2Data} {psidOnly : Bool}
    (hpsidOnly : psidOnly = false) (h : (unwrapSpdu d out depth psidOnly).1 = true) :
    ∃ d' layers payload psid, d = some d' ∧ Nested d' layers payload psid ∧
      depth + layers ≤ maxSpduDepth := by
  fun_induction unwrapSpdu d out depth psidOnly
  case case5 out depth psidOnly version hle hversion buf hne =>
    obtain rfl := not_not.mp hversion
    exact ⟨_, 0, buf, 0, rfl, .unsecured hne, Nat.le_of_not_lt hle⟩
  case case6 hset =>
    rw [hpsidOnly, Bool.and_false] at hset
    cases hset
  case case7 out depth psidOnly version hle hversion tbsData set out' hset next hpayload ih =>
    obtain rfl := not_not.mp hversion
    obtain ⟨_, layers, payload, inner, hnext, hnested, hdepth⟩ := ih rfl h
    obtain rfl := Option.some.inj hnext
    obtain ⟨psid, _⟩ := tbsData
    obtain rfl := hpayload
    exact ⟨_, layers + 1, payload, psid, rfl, .signed hnested, by omega⟩
  all_goals cases h

/-- **Unwrapping** succeeds exactly for nested data of not too many layers, and gives its payload
and its PSID. -/
theorem unwrapSpdu_cases (d : Ieee1609Dot2Data) :
    (∃ layers payload psid, Nested d layers payload psid ∧ layers ≤ maxSpduDepth ∧
      unwrapSpdu (some d) {} 0 = (true, written {} layers payload psid)) ∨
    (¬ ∃ layers payload psid, Nested d layers payload psid ∧ layers ≤ maxSpduDepth) ∧
      (unwrapSpdu (some d) {} 0).1 = false := by
  by_cases hnested : ∃ layers payload psid, Nested d layers payload psid ∧ layers ≤ maxSpduDepth
  · left
    obtain ⟨layers, payload, psid, hnested, hle⟩ := hnested
    exact ⟨layers, payload, psid, hnested, hle, unwrapSpdu_of_nested hnested (by omega)⟩
  · right
    refine ⟨hnested, ?_⟩
    rw [← Bool.not_eq_true]
    intro hunwrap
    obtain ⟨_, layers, payload, psid, hsome, hd, hdepth⟩ := nested_of_unwrapSpdu rfl hunwrap
    obtain rfl := Option.some.inj hsome
    exact hnested ⟨layers, payload, psid, hd, by omega⟩

theorem Nested.payload_ne_nil (h : Nested d layers payload psid) : payload ≠ [] := by
  induction h with
  | unsecured hne => exact hne
  | signed _ ih => exact ih

/-- The data has one payload and one PSID. -/
theorem Nested.unique {layers' psid' : Nat} {payload' : List UInt8}
    (h : Nested d layers payload psid) (h' : Nested d layers' payload' psid') :
    layers = layers' ∧ payload = payload' ∧ psid = psid' := by
  induction h generalizing layers' payload' psid' with
  | unsecured hne =>
      cases h'
      exact ⟨rfl, rfl, rfl⟩
  | signed h ih =>
      cases h' with
      | signed h' =>
          obtain ⟨rfl, rfl, -⟩ := ih h'
          exact ⟨rfl, rfl, rfl⟩

/-- Without a layer there is no PSID. -/
theorem Nested.psid_of_zero (h : Nested d 0 payload psid) : psid = 0 := by
  cases h
  rfl

theorem Nested.written_psid (h : Nested d layers payload psid) :
    (written {} layers payload psid).psidOut = UInt32.ofNat psid := by
  cases layers with
  | zero =>
      rw [h.psid_of_zero]
      rfl
  | succ layers => rfl

end

/-! ## One packet -/

section

variable {decoders : Decoders} {packet : Packet} {s : Receiver} {bytes payload : List UInt8}
  {psid : Nat}

theorem Wraps.unique {payload' : List UInt8} {psid' : Nat} (h : Wraps decoders bytes payload psid)
    (h' : Wraps decoders bytes payload' psid') : payload = payload' ∧ psid = psid' := by
  obtain ⟨d, layers, hdecode, hnested, -⟩ := h
  obtain ⟨d', layers', hdecode', hnested', -⟩ := h'
  obtain rfl := Except.ok.inj (hdecode.symm.trans hdecode')
  exact (hnested.unique hnested').2

/-- What one packet can do: nothing, fail twice, be processed or fail. -/
theorem receive_cases (decoders : Decoders) (s : Receiver) (packet : Packet) :
    packet.bytes = [] ∧ receive decoders s packet = s ∨
    packet.bytes ≠ [] ∧ (∃ consumed, decoders.oerDecode packet.received = .error consumed) ∧
      (∃ what, receive decoders s packet = (s.fail what).fail "Error unwrapping SPDU") ∨
    packet.bytes ≠ [] ∧ (∃ payload psid, Wraps decoders packet.received payload psid ∧
      receive decoders s packet =
        s.process decoders packet packet.received payload (UInt32.ofNat psid)) ∨
    packet.bytes ≠ [] ∧ (∃ d, decoders.oerDecode packet.received = .ok d) ∧
      (¬ ∃ payload psid, Wraps decoders packet.received payload psid) ∧
      receive decoders s packet = s.fail "Error unwrapping SPDU" := by
  have hempty : packet.received = [] ↔ packet.bytes = [] := by
    rw [Packet.received, List.take_eq_nil_iff]
    exact or_iff_right (by decide)
  by_cases hnil : packet.bytes = []
  · refine Or.inl ⟨hnil, ?_⟩
    rw [receive, if_pos (hempty.mpr hnil)]
  right
  have hne : packet.received ≠ [] := hnil ∘ hempty.mp
  rw [receive, if_neg hne]
  cases hdecode : decoders.oerDecode packet.received with
  | error consumed =>
      refine Or.inl ⟨hnil, ⟨consumed, rfl⟩, ?_⟩
      simp only [decodeSpdu, hdecode, unwrapSpdu]
      exact ⟨_, rfl⟩
  | ok d =>
      right
      simp only [decodeSpdu, hdecode]
      rcases unwrapSpdu_cases d with
        ⟨layers, payload, psid, hnested, hle, hunwrap⟩ | ⟨hnone, hunwrap⟩
      · refine Or.inl ⟨hnil, payload, psid, ⟨d, layers, hdecode, hnested, hle⟩, ?_⟩
        simp only [hunwrap]
        show (if payload = [] then _ else _) = _
        rw [if_neg hnested.payload_ne_nil, hnested.written_psid]
        rfl
      · refine Or.inr ⟨hnil, ⟨d, rfl⟩, ?_, ?_⟩
        · rintro ⟨payload, psid, d', layers, hdecode', hnested, hle⟩
          obtain rfl := Except.ok.inj (hdecode.symm.trans hdecode')
          exact hnone ⟨layers, payload, psid, hnested, hle⟩
        · cases hout : unwrapSpdu (some d) {} 0 with
          | mk success out =>
              rw [hout] at hunwrap
              obtain rfl : success = false := hunwrap
              rfl

/-- A PSID comes through a `uint` and an `int` only if it fits. -/
theorem toInt32_ofNat_iff : toInt32 (UInt32.ofNat psid) = psid ↔ psid < 2 ^ 31 := by
  unfold toInt32
  rw [BitVec.toInt_eq_toNat_bmod]
  show Int.bmod ((UInt32.ofNat psid).toNat : Int) (2 ^ 32) = psid ↔ _
  rw [UInt32.toNat_ofNat', Int.bmod_def]
  split <;> omega

theorem received_eq (h : packet.bytes.length ≤ incomingSize) : packet.received = packet.bytes :=
  List.take_of_length_le h

theorem received_ne (h : ¬ packet.bytes.length ≤ incomingSize) :
    packet.received ≠ packet.bytes := by
  intro heq
  have hlength := congrArg List.length heq
  rw [Packet.received, List.length_take] at hlength
  omega

theorem accounted_fail_iff (what : String) : Accounted decoders packet s (s.fail what) ↔
    ¬ ∃ payload psid, Wraps decoders packet.bytes payload psid := by
  constructor
  · rintro (⟨payload, psid, hwraps, hprocessed, -⟩ | ⟨hnone, -⟩)
    · exact absurd hprocessed.symm (by simp [Receiver.fail])
    · exact hnone
  · intro hnone
    exact Or.inr ⟨hnone, rfl, rfl, rfl, rfl⟩

theorem accounted_process_iff (hwraps : Wraps decoders packet.received payload psid) :
    Accounted decoders packet s
        (s.process decoders packet packet.received payload (UInt32.ofNat psid)) ↔
      packet.bytes.length ≤ incomingSize ∧ psid < 2 ^ 31 := by
  constructor
  · rintro (⟨payload', psid', hwraps', -, -, -, spdu, houtgoing, -, hfull, hpsid⟩ | hfailed)
    · obtain rfl := List.singleton_inj.mp (List.append_cancel_left houtgoing)
      have hle : packet.bytes.length ≤ incomingSize := by
        by_contra hlong
        exact received_ne hlong hfull
      rw [received_eq hle] at hwraps
      obtain ⟨-, rfl⟩ := hwraps.unique hwraps'
      exact ⟨hle, toInt32_ofNat_iff.mp hpsid⟩
    · exact absurd hfailed.2.1 (by simp [Receiver.process])
  · rintro ⟨hle, hlt⟩
    have hsame := received_eq hle
    rw [hsame] at hwraps
    refine Or.inl ⟨payload, psid, hwraps, rfl, rfl, ⟨_, rfl, rfl⟩, _, rfl, rfl, hsame, ?_⟩
    exact toInt32_ofNat_iff.mpr hlt

/-- Nothing is counted, or a failure is counted twice. -/
theorem not_accounted {s' : Receiver} (hprocessed : s'.processedSPDU = s.processedSPDU)
    (hfailed : s'.failedSPDU ≠ s.failedSPDU + 1) : ¬ Accounted decoders packet s s' := by
  rintro (⟨payload, psid, -, hraised, -⟩ | ⟨-, -, hraised, -⟩)
  · rw [hprocessed] at hraised
    exact absurd hraised (by simp)
  · exact hfailed hraised

/-- **One packet** raises exactly one of the counters by one, as it should, exactly if it is one
that is counted once. -/
theorem accounted_receive_iff (s : Receiver) :
    Accounted decoders packet s (receive decoders s packet) ↔ CountedOnce decoders packet := by
  rcases receive_cases decoders s packet with
    ⟨hnil, hreceive⟩ | ⟨-, ⟨consumed, herror⟩, what, hreceive⟩ |
    ⟨hne, ⟨payload, psid, hwraps, hreceive⟩⟩ | ⟨hne, hdecodes, hnone, hreceive⟩
  · rw [hreceive]
    exact iff_of_false (not_accounted rfl (by simp)) fun h => h.not_empty hnil
  · rw [hreceive]
    refine iff_of_false (not_accounted rfl ?_) fun h => ?_
    · simp [Receiver.fail]
    · obtain ⟨d, hd⟩ := h.decodes
      rw [herror] at hd
      cases hd
  · rw [hreceive, accounted_process_iff hwraps]
    constructor
    · rintro ⟨hle, hlt⟩
      refine ⟨hne, hwraps.imp fun d hd => hd.choose_spec.1, Or.inl hle, ?_⟩
      intro payload' psid' hwraps'
      rw [received_eq hle] at hwraps
      rwa [← (hwraps.unique hwraps').2]
    · intro h
      have hle : packet.bytes.length ≤ incomingSize :=
        h.whole.resolve_right fun hnone => hnone.2 ⟨payload, psid, hwraps⟩
      refine ⟨hle, h.psid_lt payload psid ?_⟩
      rwa [← received_eq hle]
  · rw [hreceive, accounted_fail_iff]
    constructor
    · intro hwhole
      exact ⟨hne, hdecodes, Or.inr ⟨hwhole, hnone⟩, fun payload psid h =>
        absurd ⟨payload, psid, h⟩ hwhole⟩
    · rintro h hwraps
      rcases h.whole with hle | hneither
      · rw [received_eq hle] at hnone
        exact hnone hwraps
      · exact hneither.1 hwraps

end

/-! ## Runs -/

/-- **A run**: every packet of it raises exactly one of the counters by one, as it should, exactly
if each is one that is counted once. -/
theorem run_accounted_iff (decoders : Decoders) (s : Receiver) (packets : List Packet) :
    (∀ before packet, before ++ [packet] <+: packets →
      Accounted decoders packet (receiveAll decoders s before)
        (receiveAll decoders s (before ++ [packet]))) ↔
      ∀ packet ∈ packets, CountedOnce decoders packet := by
  have hstep : ∀ before packet, receiveAll decoders s (before ++ [packet]) =
      receive decoders (receiveAll decoders s before) packet := by
    intro before packet
    rw [receiveAll, List.foldl_append]
    rfl
  constructor
  · intro h packet hpacket
    obtain ⟨before, after, rfl⟩ := List.append_of_mem hpacket
    have haccounted := h before packet ⟨after, List.append_assoc before [packet] after⟩
    rw [hstep] at haccounted
    exact (accounted_receive_iff _).mp haccounted
  · rintro h before packet ⟨after, rfl⟩
    rw [hstep]
    apply (accounted_receive_iff _).mpr
    apply h
    exact List.mem_append_left _ (List.mem_append_right _ (List.mem_singleton_self _))

/-! ### A packet that does not decode -/

/-- A decoder that consumes nothing of these bytes, which are no IEEE 1609.2 data. -/
def noData : Decoders where
  oerDecode _ := .error 0
  getJ2735SubType _ := "Unknown"

/-- `ff` -/
def undecodable : Packet where
  bytes := [0xff]
  time := 0
  uuid := []

/-- The failure is counted twice. -/
theorem undecodable_not_accounted :
    ¬ ∀ before packet, before ++ [packet] <+: [undecodable] →
      Accounted noData packet (receiveAll noData {} before)
        (receiveAll noData {} (before ++ [packet])) := by
  intro h
  have haccounted := h [] undecodable (List.prefix_refl _)
  have hfailed : (receiveAll noData {} ([] ++ [undecodable])).failedSPDU = 2 := by
    simp [receiveAll, receive, undecodable, Packet.received, incomingSize, noData, decodeSpdu,
      unwrapSpdu, Receiver.fail]
  have hprocessed : (receiveAll noData {} ([] ++ [undecodable])).processedSPDU = 0 := by
    simp [receiveAll, receive, undecodable, Packet.received, incomingSize, noData, decodeSpdu,
      unwrapSpdu, Receiver.fail]
  apply not_accounted hprocessed _ haccounted
  rw [hfailed]
  decide

end V2XHub.MessageReceiver
