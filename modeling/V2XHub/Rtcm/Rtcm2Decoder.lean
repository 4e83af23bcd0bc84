import V2XHub.Rtcm.Container
import V2XHub.Rtcm.Rtcm2Codec

/-!
# RTCM 2 messages in a container

What `get_container` uses of the RTCM 2 messages. Every message with a number is decoded once more
from its own contents, as a message specific to its type; only special messages (number 16) do
anything of their own there, they check the parity of their data words.
-/

namespace V2XHub.Rtcm

namespace Rtcm2Message

def gpsSpecialMessage : Nat := 16

/-- `check_Parity` for each data word after the one before it. -/
def wordsMatch : Nat → List Nat → Bool
  | _, [] => true
  | prevWord, word :: words => parityMatches word prevWord && wordsMatch word words

/-- `set_contents` of a special message. The text made of the words is not read here. -/
def setSpecialContents (input : List UInt8) : Rtcm2Message :=
  let m := setContents {} input
  if wordsMatch m.parity2 m.data then m else m.invalidate

/-- `get_container`: the message made specific to its type, if it is valid. -/
def retype (m : Rtcm2Message) : Rtcm2Message :=
  if m.frameID = 0 then m
  else
    let tmp := if m.frameID = gpsSpecialMessage then setSpecialContents m.getContents
      else setContents {} m.getContents
    if tmp.isValid then tmp else m

theorem size_pos (m : Rtcm2Message) : 0 < m.size := by
  rw [size, headerWords]
  exact Nat.mul_pos (by decide) (by omega)

end Rtcm2Message

def rtcm2Decoder : Rtcm2Decoder Rtcm2Message where
  setContents := Rtcm2Message.setContents {}
  isValid := Rtcm2Message.isValid
  retype := Rtcm2Message.retype
  size := Rtcm2Message.size
  getContents m := some m.getContents

/-! ## A frame in a container -/

namespace Rtcm2Message

variable (f : Rtcm2Frame) (rest : List UInt8)

theorem setContents_bytes : setContents {} f.bytes = decoded f [] := by
  simpa using setContents_frame f []

theorem invalidate_not_valid (m : Rtcm2Message) : ¬ m.invalidate.isValid := by
  simp [isValid, invalidate]

/-- Specific to its type or not, it is the message of the frame. -/
theorem retype_decoded : ∃ rest', (decoded f rest).retype = decoded f rest' := by
  rw [retype, getContents_decoded, setSpecialContents, setContents_bytes]
  split
  · exact ⟨rest, rfl⟩
  · split
    · split
      · exact ⟨[], if_pos (isValid_decoded f [])⟩
      · exact ⟨rest, if_neg (invalidate_not_valid _)⟩
    · exact ⟨[], if_pos (isValid_decoded f [])⟩

theorem size_decoded : (decoded f rest).size = f.bytes.length := by
  rw [bytes_eq, List.length_append, List.length_append, length_wireWord, length_wireWord,
    length_dataBytes]
  show 5 * (2 + f.words.length) = _
  omega

end Rtcm2Message

/-- **RTCM 2 in a container**: a frame in front of any bytes is found, and what is made of it has
the length and the contents of the frame. -/
theorem rtcm2Decoder_frame (f : Rtcm2Frame) (rest : List UInt8) :
    ∃ m, find2 rtcm2Decoder (f.bytes ++ rest) = some (.rtcm2 m) ∧
      (rtcm2Decoder.retype m).size = f.bytes.length ∧
      rtcm2Decoder.getContents (rtcm2Decoder.retype m) = some f.bytes := by
  have hset : rtcm2Decoder.setContents (f.bytes ++ rest) = Rtcm2Message.decoded f rest :=
    Rtcm2Message.setContents_frame f rest
  have hvalid : rtcm2Decoder.isValid (Rtcm2Message.decoded f rest) :=
    Rtcm2Message.isValid_decoded f rest
  obtain ⟨rest', hretype⟩ := Rtcm2Message.retype_decoded f rest
  refine ⟨Rtcm2Message.decoded f rest, ?_, ?_, ?_⟩
  · simp only [find2, hset]
    rw [if_pos hvalid]
  · show (Rtcm2Message.decoded f rest).retype.size = _
    rw [hretype, Rtcm2Message.size_decoded]
  · show some (Rtcm2Message.decoded f rest).retype.getContents = _
    rw [hretype, Rtcm2Message.getContents_decoded]

end V2XHub.Rtcm
