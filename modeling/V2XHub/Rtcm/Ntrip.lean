import V2XHub.Rtcm.Splitting

/-!
# Receiving from an NTRIP caster

`RtcmPlugin::Main` reads blocks of up to 4000 bytes from the socket of the caster. Once it is
connected, each block is put into a new encoded message of the configured version, and every RTCM
message in the container of that is broadcast as J2735 corrections.

The J2735 encoder is a parameter, of which it matters only what it takes. An exception that leaves
`get_container`, and a decoder that never returns, are the end of `Main`: no later block is read.
-/

namespace V2XHub.Rtcm

inductive RTCMRevision where
  | rtcmRev2
  | rtcmRev3
  deriving DecidableEq, Repr

/-- `RTCMcorrections`, with the one message that is put into it. -/
structure RTCMcorrections where
  rev : RTCMRevision
  msgCnt : Nat
  message : List UInt8
  deriving DecidableEq, Repr

/-- What is outside of the plugin: the RTCM 2 messages, and which corrections can be encoded. -/
structure Codecs (α : Type) extends Rtcm2Decoder α where
  sequenceNumber : α → Nat
  encodes : RTCMcorrections → Bool

structure RtcmPlugin where
  version : String
  routeRTCM : Bool := false

/-- What is broadcast: corrections over the radio, and on request the block itself. -/
inductive Broadcast where
  | corrections (rtcm : RTCMcorrections)
  | routed (subtype : String) (payload : List UInt8)
  deriving DecidableEq, Repr

section
variable {α : Type} (c : Codecs α)

/-- `get_RtcmMessage`; `none` when `get_contents` throws. -/
def getRtcmMessage : TmxRtcmMessage α → Option RTCMcorrections
  | .rtcm2 m => (c.getContents m).map (⟨.rtcmRev2, c.sequenceNumber m, ·⟩)
  | .rtcm3 m => m.getContents.map (⟨.rtcmRev3, 0, ·⟩)
  | .antenna m => m.getContents.map (⟨.rtcmRev3, 0, ·⟩)

/-- `BroadcastRTCMMessage`: an exception is handled there, and nothing is broadcast. -/
def broadcastRTCMMessage (m : TmxRtcmMessage α) : Option Broadcast :=
  match getRtcmMessage c m with
  | none => none
  | some rtcm => if c.encodes rtcm then some (.corrections rtcm) else none

namespace RtcmPlugin

variable (p : RtcmPlugin)

/-- One block, once connected. -/
def receive (fuel : Nat) (block : List UInt8) : Except Failure (List Broadcast) := do
  let encodedMsg ←
    getContainer c.toRtcm2Decoder fuel { subtype := p.version, payload := block }
  let broadcasts := encodedMsg.myMessages.filterMap (broadcastRTCMMessage c)
  return broadcasts ++
    if p.routeRTCM then [.routed encodedMsg.subtype encodedMsg.payload] else []

/-- `Main`, on the blocks it receives: what is broadcast, and why it ended, if it did. -/
def main (fuel : Nat) : List (List UInt8) → List Broadcast × Option Failure
  | [] => ([], none)
  | block :: blocks =>
      match p.receive c fuel block with
      | .error failure => ([], some failure)
      | .ok broadcasts =>
          let (later, failure) := main fuel blocks
          (broadcasts ++ later, failure)

end RtcmPlugin

end

end V2XHub.Rtcm
