import V2XHub.Rtcm.Frame

/-!
# The container of an encoded RTCM message

`TmxRtcmEncodedMessage::get_container` splits the payload of a routeable message into RTCM messages:
it decodes a message from a copy of the payload, drops as many bytes as the message is long from the
front of the copy, and goes on until the copy is empty.

The RTCM 2 decoder is a parameter here: what is proved below holds whatever it does.
-/

namespace V2XHub.Rtcm

open Lib

inductive RtcmVersion where
  | unknown
  | sc10402_3
  | sc10403_3
  deriving DecidableEq, Repr

namespace RtcmVersion

/-- `RtcmVersionName`. -/
def name : RtcmVersion → String
  | unknown => "Unknown"
  | sc10402_3 => "2.3"
  | sc10403_3 => "3.3"

/-- `rtcm::RtcmVersion`: the version of that name. -/
def ofName (version : String) : RtcmVersion :=
  if version = "2.3" then sc10402_3 else if version = "3.3" then sc10403_3 else unknown

end RtcmVersion

/-- Why a call does not return: a decoder is still searching, an exception was thrown, or data was
erased that is not there. -/
inductive Failure where
  | outOfRounds
  | thrown
  | undefined
  deriving DecidableEq, Repr

/-- `set_contents` on a new RTCM 3 message. -/
def decode (fuel : Nat) (bytes : List UInt8) : Except Failure Rtcm3Message :=
  match Rtcm3Message.setContents fuel {} bytes with
  | none => .error .outOfRounds
  | some m => .ok m

/-! ## Antenna descriptor messages -/

structure AntennaDescriptorMessage where
  base : Rtcm3Message
  descriptorCounter : Nat
  descriptor : List UInt8
  setupID : Nat
  deriving DecidableEq, Repr

/-- `mgr.assignData` for an attribute of one byte. -/
def assignByte (m : Rtcm3Message) : Except Failure (Nat × Rtcm3Message) :=
  match m.data with
  | [] => .error .thrown
  | word :: data => .ok (word.toNat, { m with data := data })

/-- `mgr.eraseData`. -/
def eraseData (m : Rtcm3Message) (num : Nat) : Except Failure Rtcm3Message :=
  if num ≤ m.data.length then .ok { m with data := m.data.drop num } else .error .undefined

namespace AntennaDescriptorMessage

def setContents (fuel : Nat) (input : List UInt8) : Except Failure AntennaDescriptorMessage := do
  let base ← decode fuel input
  let (descriptorCounter, base) ← assignByte base
  let descriptor := readWords base.data descriptorCounter
  let base ← eraseData base descriptorCounter
  let (setupID, base) ← assignByte base
  return { base, descriptorCounter, descriptor, setupID }

/-- Load the attributes into the data manager again. -/
def rebuild (m : AntennaDescriptorMessage) : AntennaDescriptorMessage :=
  let counter := splitWords (extractFrom [(8, m.descriptorCounter)]) 1
  let bytes := m.descriptor ++ splitWords (extractFrom [(8, m.setupID)]) 1
  { m with base := { m.base with data := m.base.data ++ counter ++ bytes } }

/-- `get_contents` rebuilds the data buffer every time it is called. -/
def getContents (m : AntennaDescriptorMessage) : Option (List UInt8) := m.rebuild.base.getContents

/-- `is_Valid` is inherited, and calls `get_contents`: afterwards the buffer is rebuilt. -/
def isValid (m : AntennaDescriptorMessage) : Bool × AntennaDescriptorMessage :=
  if m.base.notInvalidated then (m.rebuild.base.isValid, m.rebuild) else (false, m)

end AntennaDescriptorMessage

/-! ## The container -/

/-- What `get_container` uses of the RTCM 2 messages: the message decoded from some bytes, and that
message made specific to its type. -/
structure Rtcm2Decoder (α : Type) where
  setContents : List UInt8 → α
  isValid : α → Bool
  retype : α → α
  size : α → Nat
  getContents : α → Option (List UInt8)

inductive TmxRtcmMessage (α : Type) where
  | rtcm2 (m : α)
  | rtcm3 (m : Rtcm3Message)
  | antenna (m : AntennaDescriptorMessage)
  deriving DecidableEq, Repr

section
variable {α : Type} (rtcm2 : Rtcm2Decoder α)

namespace TmxRtcmMessage

def version : TmxRtcmMessage α → RtcmVersion
  | .rtcm2 _ => .sc10402_3
  | .rtcm3 _ | .antenna _ => .sc10403_3

def size : TmxRtcmMessage α → Nat
  | .rtcm2 m => rtcm2.size m
  | .rtcm3 m => m.size
  | .antenna m => m.base.size

def getContents : TmxRtcmMessage α → Option (List UInt8)
  | .rtcm2 m => rtcm2.getContents m
  | .rtcm3 m => m.getContents
  | .antenna m => m.getContents

/-- Reconstruct a message as specific to its type; the new message is used if it is valid. -/
def retype (fuel : Nat) : TmxRtcmMessage α → Except Failure (TmxRtcmMessage α)
  | .rtcm2 m => return .rtcm2 (rtcm2.retype m)
  | .antenna m => return .antenna m
  | .rtcm3 m =>
      if m.messageNumber = 0 then return .rtcm3 m
      else
        match m.getContents with
        | none => .error .thrown
        | some contents =>
            if m.messageNumber = antennaDescriptor then do
              let tmp ← AntennaDescriptorMessage.setContents fuel contents
              let (valid, tmp) := tmp.isValid
              return if valid then .antenna tmp else .rtcm3 m
            else do
              let tmp ← decode fuel contents
              return .rtcm3 (if tmp.isValid then tmp else m)

end TmxRtcmMessage

/-- A valid RTCM 3 message in the bytes. -/
def find3 (fuel : Nat) (copy : List UInt8) : Except Failure (Option (TmxRtcmMessage α)) := do
  let m ← decode fuel copy
  return if m.isValid then some (.rtcm3 m) else none

def find2 (copy : List UInt8) : Option (TmxRtcmMessage α) :=
  let m := rtcm2.setContents copy
  if rtcm2.isValid m then some (.rtcm2 m) else none

/-- The loop over the versions: only the known one, or from the newest down. -/
def find (fuel : Nat) (copy : List UInt8) : RtcmVersion → Except Failure (Option (TmxRtcmMessage α))
  | .sc10402_3 => return find2 rtcm2 copy
  | .sc10403_3 => find3 fuel copy
  | .unknown => do
      match ← find3 fuel copy with
      | some m => return some m
      | none => return find2 rtcm2 copy

/-- The state of the loop that fills the container. -/
structure Filling (α : Type) where
  version : RtcmVersion
  copy : List UInt8
  messages : List (TmxRtcmMessage α) := []

/-- The body of the loop. -/
def fillOnce (fuel : Nat) (s : Filling α) : Except Failure (Filling α) := do
  match ← find rtcm2 fuel s.copy s.version with
  | none => return { s with copy := [] }
  | some m =>
      let ptr ← m.retype rtcm2 fuel
      let n := if ptr.size rtcm2 ≤ s.copy.length then ptr.size rtcm2 else s.copy.length
      return { version := m.version, copy := s.copy.drop n, messages := s.messages ++ [ptr] }

def fillRound (fuel : Nat) (s : Filling α) :
    LoopStep (Filling α) (Except Failure (Filling α)) :=
  if s.copy.isEmpty then .done (.ok s)
  else
    match fillOnce rtcm2 fuel s with
    | .error e => .done (.error e)
    | .ok s => .again s

structure TmxRtcmEncodedMessage (α : Type) where
  subtype : String
  payload : List UInt8
  /-- `_myMessages`, which `get_container` fills once. -/
  myMessages : List (TmxRtcmMessage α) := []

/-- `get_container`, with at most `fuel` rounds of each of its loops. -/
def getContainer (fuel : Nat) (e : TmxRtcmEncodedMessage α) :
    Except Failure (TmxRtcmEncodedMessage α) :=
  if e.myMessages.length > 0 then .ok e
  else
    match loop (fillRound rtcm2 fuel) fuel
        { version := RtcmVersion.ofName e.subtype, copy := e.payload } with
    | none => .error .outOfRounds
    | some (.error failure) => .error failure
    | some (.ok s) => .ok { e with
        subtype := if s.messages.isEmpty then e.subtype else s.version.name
        myMessages := s.messages }

end

end V2XHub.Rtcm
