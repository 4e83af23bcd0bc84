import V2XHub.Rtcm.Container

/-!
# Splitting a stream of frames

A payload is a stream of frames with separators between them. `get_container` drops as many bytes as
the frame is long from the front of its copy, and the separator the decoder skipped is still in
front there: after each frame the copy still holds as many bytes of the past as there were bytes in
separators. As long as none of these bytes is a preamble nothing happens, and the frames come out
one by one (`getContainer_stream`). When the separators grow longer than a frame, the frame comes
out again.
-/

namespace V2XHub.Rtcm

open Lib

/-! ## Decoding -/

section
variable (f : RawFrame) {garbage : List UInt8} (rest : List UInt8)

theorem decode_frame (hattrs : f.HasAttrs) (h : preambleByte ∉ garbage) (fuel : Nat) :
    decode (fuel + 1) (garbage ++ (f.bytes ++ rest)) = .ok (f.message rest) := by
  rw [decode, Rtcm3Message.setContents_raw f rest hattrs h]

theorem decode_bytes (hattrs : f.HasAttrs) (fuel : Nat) :
    decode (fuel + 1) f.bytes = .ok (f.message []) := by
  simpa using decode_frame f [] hattrs List.not_mem_nil fuel

theorem decode_short (hattrs : ¬ f.HasAttrs) (fuel : Nat) :
    ∃ m, decode (fuel + 1) (f.bytes ++ rest) = .ok m ∧ ¬ m.isValid := by
  obtain ⟨m, hm, hvalid⟩ := Rtcm3Message.setContents_short f rest hattrs List.not_mem_nil fuel
  exact ⟨m, by rw [decode, ← List.nil_append (_ ++ _), hm], hvalid⟩

theorem decode_of_not_mem (h : preambleByte ∉ garbage) (fuel : Nat) :
    ∃ m, decode (fuel + 1) garbage = .ok m ∧ ¬ m.isValid := by
  obtain ⟨m, hm, hvalid⟩ := Rtcm3Message.setContents_of_not_mem h fuel
  exact ⟨m, by rw [decode, hm], hvalid⟩

end

/-! ## Antenna descriptors -/

namespace RawFrame

variable (f : RawFrame)

/-- What stands behind the leading attributes. -/
def body : List UInt8 := f.payload.drop attrBytes

/-- The length of a count, the bytes it counts and a setup id, at the front of the body. -/
def descriptorLength : Nat := 1 + (f.body.getD 0 0).toNat + 1

/-- The frame with another body, and the CRC it came with. -/
def withBody (body : List UInt8) : List UInt8 :=
  f.header ++ f.payload.take attrBytes ++ body ++ splitWords f.crc crcBytes

/-- The CRC of the frame is also right for another body. -/
def Accepts (body : List UInt8) : Prop :=
  (crc24qHash (f.header ++ f.payload.take attrBytes ++ body)).toNat = f.crc

instance (body : List UInt8) : Decidable (f.Accepts body) := inferInstanceAs (Decidable (_ = _))

/-- The body as an antenna message puts it together again: it took the descriptor from the front of
its data, and loads it behind what is left there. -/
def rebuiltBody : List UInt8 := f.body.drop f.descriptorLength ++ f.body.take f.descriptorLength

/-- A frame that is the same after it was made specific to its type: an antenna descriptor has room
for what its count announces, and when bytes behind it make its body come out in another order, the
CRC tells. -/
def Intact : Prop :=
  numberOf f.payload = antennaDescriptor →
    f.descriptorLength ≤ f.body.length ∧ (f.Accepts f.rebuiltBody → f.rebuiltBody = f.body)

instance : Decidable f.Intact := inferInstanceAs (Decidable (_ → _))

theorem withBody_body : f.withBody f.body = f.bytes := by
  rw [withBody, body, List.append_assoc f.header, List.take_append_drop, bytes]

theorem withBody_injective {body body' : List UInt8} (h : f.withBody body = f.withBody body') :
    body = body' := by
  rw [withBody, withBody] at h
  exact List.append_cancel_left (List.append_cancel_right h)

theorem length_body : f.body.length = f.payload.length - attrBytes := List.length_drop

/-- An antenna descriptor with all it announces, and what follows. -/
theorem exists_descriptor (h : f.descriptorLength ≤ f.body.length) :
    ∃ (count : UInt8) (text : List UInt8) (setupID : UInt8) (surplus : List UInt8),
      f.body = count :: (text ++ setupID :: surplus) ∧ text.length = count.toNat ∧
        f.rebuiltBody = surplus ++ count :: (text ++ [setupID]) := by
  cases hbody : f.body with
  | nil =>
      rw [hbody, descriptorLength, List.length_nil] at h
      omega
  | cons count tail =>
      have hlength : f.descriptorLength = count.toNat + 2 := by
        rw [descriptorLength, hbody, List.getD_cons_zero]
        omega
      rw [hlength, hbody, List.length_cons] at h
      obtain ⟨setupID, surplus, hdrop⟩ : ∃ setupID surplus,
          tail.drop count.toNat = setupID :: surplus := by
        apply List.exists_cons_of_length_pos
        rw [List.length_drop]
        omega
      have htail : tail = tail.take count.toNat ++ setupID :: surplus := by
        rw [← hdrop, List.take_append_drop]
      have htext : (tail.take count.toNat).length = count.toNat := List.length_take_of_le (by omega)
      have hsplit : f.body =
          (count :: (tail.take count.toNat ++ [setupID])) ++ surplus := by
        rw [hbody, List.cons_append, List.append_assoc, List.singleton_append, ← htail]
      have hdescriptor : (count :: (tail.take count.toNat ++ [setupID])).length =
          f.descriptorLength := by
        rw [List.length_cons, List.length_append, htext, hlength, List.length_singleton]
      refine ⟨count, tail.take count.toNat, setupID, surplus, by rw [← htail], htext, ?_⟩
      rw [rebuiltBody, hsplit, List.drop_left' hdescriptor, List.take_left' hdescriptor]

/-- The antenna message of a frame, with some words in its data manager. -/
def antennaMessage (count : UInt8) (text : List UInt8) (setupID : UInt8)
    (data : List UInt8) : AntennaDescriptorMessage :=
  ⟨{ f.message [] with data := data }, count.toNat, text, setupID.toNat⟩

end RawFrame

/-- A well-formed antenna descriptor has nothing behind it. -/
theorem Frame.raw_intact (f : Frame) : f.raw.Intact := by
  intro hnumber
  have hlength := f.wellFormed hnumber
  have hcount : f.raw.body.getD 0 0 = f.payload.getD attrBytes 0 := by
    simp [RawFrame.body, Frame.raw, List.getD_eq_getElem?_getD]
  have hdescriptor : f.raw.body.length = f.raw.descriptorLength := by
    rw [RawFrame.length_body, RawFrame.descriptorLength, hcount]
    show f.payload.length - attrBytes = _
    omega
  refine ⟨hdescriptor.ge, fun _ => ?_⟩
  rw [RawFrame.rebuiltBody, ← hdescriptor, List.drop_length, List.take_length, List.nil_append]

theorem splitWords_byte (byte : UInt8) : splitWords (extractFrom [(8, byte.toNat)]) 1 = [byte] := by
  have h : splitWords (combineWords [byte]) 1 = [byte] := splitWords_combineWords [byte]
  simpa [combineWords, extractFrom, countBits] using h

/-- A message with length and CRC of a frame, but another body, is valid if the CRC is right for
it. -/
theorem Rtcm3Message.isValid_withBody {f : RawFrame} (h : f.HasAttrs) {m : Rtcm3Message}
    {body : List UInt8} (hnot : m.notInvalidated) (hpreamble : m.preamble = 0xD3)
    (hlength : m.messageLength = f.payload.length) (hcrc : m.crc = f.crc)
    (hcontents : m.getContents = some (f.withBody body)) (hbody : body.length = f.body.length) :
    m.isValid = decide (f.Accepts body) := by
  have hattrs : (f.payload.take attrBytes).length = attrBytes := List.length_take_of_le h
  have hle : attrBytes ≤ f.payload.length := h
  have hfront : (f.header ++ f.payload.take attrBytes ++ body).length = m.size - crcBytes := by
    simp only [List.length_append, f.length_header, hattrs, hbody, f.length_body, size, hlength]
    omega
  have hsize : m.size = (f.withBody body).length := by
    rw [RawFrame.withBody, List.length_append, hfront, length_splitWords, size]
    omega
  have hparity : m.checkParity (f.withBody body) ↔ f.Accepts body := by
    rw [checkParity_iff hsize.le, RawFrame.withBody, List.take_left' hfront, hcrc, eq_comm]
    rfl
  rw [isValid, hcontents, hnot, Bool.true_and]
  simp only [hpreamble, preambleByte]
  rw [Bool.eq_iff_iff, Bool.and_eq_true, hparity, decide_eq_true_eq]
  simp

namespace AntennaDescriptorMessage

variable {f : RawFrame} {count setupID : UInt8} {text surplus : List UInt8}

theorem setContents_frame (h : f.HasAttrs) (hbody : f.body = count :: (text ++ setupID :: surplus))
    (htext : text.length = count.toNat) (fuel : Nat) :
    setContents (fuel + 1) f.bytes = .ok (f.antennaMessage count text setupID surplus) := by
  have hcounter : assignByte (f.message []) =
      .ok (count.toNat, { f.message [] with data := text ++ setupID :: surplus }) := by
    rw [RawFrame.body] at hbody
    simp only [assignByte, RawFrame.message, List.append_nil, hbody]
  have hdescriptor : readWords (text ++ setupID :: surplus) count.toNat = text := by
    rw [← htext]
    exact readWords_append text _
  have herase : eraseData { f.message [] with data := text ++ setupID :: surplus } count.toNat =
      .ok { f.message [] with data := setupID :: surplus } := by
    have hle : count.toNat ≤ (text ++ setupID :: surplus).length := by simp [htext]
    have hdrop : (text ++ setupID :: surplus).drop count.toNat = setupID :: surplus :=
      List.drop_left' htext
    rw [eraseData, if_pos hle]
    simp only [hdrop]
  rw [setContents, decode_bytes f h]
  simp only [hcounter, bind, Except.bind, hdescriptor, herase]
  rfl

/-- Without room for the descriptor it announces, an antenna message cannot be read. -/
theorem setContents_truncated (h : f.HasAttrs) (hroom : ¬ f.descriptorLength ≤ f.body.length)
    (fuel : Nat) : ∃ failure, setContents (fuel + 1) f.bytes = .error failure := by
  have hdata : (f.message []).data = f.body := List.append_nil _
  rw [setContents, decode_bytes f h]
  cases hbody : f.body with
  | nil =>
      have hassign : assignByte (f.message []) = .error .thrown := by
        rw [assignByte, hdata, hbody]
      simp only [hassign, bind, Except.bind]
      exact ⟨_, rfl⟩
  | cons count tail =>
      rw [RawFrame.descriptorLength, hbody, List.getD_cons_zero, List.length_cons] at hroom
      have hassign : assignByte (f.message []) =
          .ok (count.toNat, { f.message [] with data := tail }) := by
        rw [assignByte, hdata, hbody]
      simp only [hassign, bind, Except.bind]
      -- the bytes of the text are missing, or only the setup id is
      by_cases hle : count.toNat ≤ tail.length
      · have hnil : tail.drop count.toNat = [] := List.drop_eq_nil_of_le (by omega)
        have herase : eraseData { f.message [] with data := tail } count.toNat =
            .ok { f.message [] with data := [] } := by
          rw [eraseData, if_pos hle]
          simp only [hnil]
        simp only [herase]
        exact ⟨.thrown, rfl⟩
      · have herase : eraseData { f.message [] with data := tail } count.toNat =
            .error .undefined := by
          rw [eraseData, if_neg hle]
        simp only [herase]
        exact ⟨_, rfl⟩

/-- Loading the attributes puts the descriptor behind the words that are there. -/
theorem rebuild_antennaMessage (data : List UInt8) :
    (f.antennaMessage count text setupID data).rebuild =
      f.antennaMessage count text setupID (data ++ count :: (text ++ [setupID])) := by
  simp [rebuild, RawFrame.antennaMessage, splitWords_byte]

/-- The contents of an antenna message have the first of its words as their body. -/
theorem getContents_base (h : f.HasAttrs) {data : List UInt8}
    (hlength : data.length = f.body.length) (extra : List UInt8) :
    (f.antennaMessage count text setupID (data ++ extra)).base.getContents =
      some (f.withBody data) := by
  rw [f.length_body] at hlength
  rw [Rtcm3Message.getContents_of_attrs f [] h
    (m := (f.antennaMessage count text setupID (data ++ extra)).base) rfl rfl rfl
    (by simp [RawFrame.antennaMessage, hlength])]
  simp only [RawFrame.antennaMessage]
  rw [List.take_left' hlength]
  rfl

theorem length_rebuiltBody : f.rebuiltBody.length = f.body.length := by
  rw [RawFrame.rebuiltBody, List.length_append, List.length_drop, List.length_take]
  omega

/-- `is_Valid` checks the CRC on the body it has rebuilt. -/
theorem isValid_antennaMessage (h : f.HasAttrs)
    (hrebuilt : f.rebuiltBody = surplus ++ count :: (text ++ [setupID])) :
    (f.antennaMessage count text setupID surplus).isValid =
      (decide (f.Accepts f.rebuiltBody), f.antennaMessage count text setupID f.rebuiltBody) := by
  have hcontents : (f.antennaMessage count text setupID (f.rebuiltBody ++ [])).base.getContents =
      some (f.withBody f.rebuiltBody) := getContents_base h length_rebuiltBody []
  rw [List.append_nil] at hcontents
  have hvalid := Rtcm3Message.isValid_withBody h rfl rfl rfl rfl hcontents length_rebuiltBody
  have hnot : (f.antennaMessage count text setupID surplus).base.notInvalidated = true := rfl
  rw [isValid, if_pos hnot, rebuild_antennaMessage, ← hrebuilt, hvalid]

/-- After `is_Valid` has rebuilt the data, `get_contents` rebuilds it once more. -/
theorem getContents_antennaMessage (h : f.HasAttrs) :
    (f.antennaMessage count text setupID f.rebuiltBody).getContents =
      some (f.withBody f.rebuiltBody) := by
  rw [getContents, rebuild_antennaMessage]
  exact getContents_base h length_rebuiltBody _

end AntennaDescriptorMessage

/-! ## Making a message specific to its type -/

section
variable {α : Type} (rtcm2 : Rtcm2Decoder α) {f : RawFrame} (rest : List UInt8)

/-- A message in the container that stands for a frame, with these contents. -/
structure Delivers (m : TmxRtcmMessage α) (f : RawFrame) (contents : List UInt8) : Prop where
  version : m.version = .sc10403_3
  size : m.size rtcm2 = f.bytes.length
  contents : m.getContents rtcm2 = some contents

theorem delivers_rtcm3 (h : f.HasAttrs) :
    Delivers rtcm2 (.rtcm3 (f.message rest)) f f.bytes := by
  refine ⟨rfl, ?_, Rtcm3Message.getContents_raw f rest [] h⟩
  rw [f.length_bytes]
  rfl

theorem delivers_antenna (h : f.HasAttrs) (count : UInt8) (text : List UInt8) (setupID : UInt8) :
    Delivers rtcm2 (.antenna (f.antennaMessage count text setupID f.rebuiltBody)) f
      (f.withBody f.rebuiltBody) := by
  refine ⟨rfl, ?_, AntennaDescriptorMessage.getContents_antennaMessage h⟩
  rw [f.length_bytes]
  rfl

/-- An antenna message is used in place of the generic one if the CRC is right for its body. -/
theorem retype_antenna (h : f.HasAttrs) (hnumber : numberOf f.payload = antennaDescriptor)
    (hroom : f.descriptorLength ≤ f.body.length) (fuel : Nat) :
    ∃ m, (TmxRtcmMessage.rtcm3 (f.message rest)).retype rtcm2 (fuel + 1) = .ok m ∧
      Delivers rtcm2 m f
        (if f.Accepts f.rebuiltBody then f.withBody f.rebuiltBody else f.bytes) := by
  obtain ⟨count, text, setupID, surplus, hbody, htext, hrebuilt⟩ := f.exists_descriptor hroom
  have hnumber : (f.message rest).messageNumber = antennaDescriptor := hnumber
  have hne : (f.message rest).messageNumber ≠ 0 := by
    rw [hnumber]
    decide
  have hretype : (TmxRtcmMessage.rtcm3 (f.message rest)).retype rtcm2 (fuel + 1) =
      .ok (if f.Accepts f.rebuiltBody then
        .antenna (f.antennaMessage count text setupID f.rebuiltBody)
        else .rtcm3 (f.message rest)) := by
    rw [TmxRtcmMessage.retype, if_neg hne, Rtcm3Message.getContents_raw f rest [] h]
    simp only
    rw [if_pos hnumber, AntennaDescriptorMessage.setContents_frame h hbody htext]
    simp only [bind, Except.bind, AntennaDescriptorMessage.isValid_antennaMessage h hrebuilt,
      decide_eq_true_eq]
    rfl
  refine ⟨_, hretype, ?_⟩
  split
  · exact delivers_antenna rtcm2 h count text setupID
  · exact delivers_rtcm3 rtcm2 rest h

theorem retype_truncated (h : f.HasAttrs) (hnumber : numberOf f.payload = antennaDescriptor)
    (hroom : ¬ f.descriptorLength ≤ f.body.length) (fuel : Nat) :
    ∃ failure, (TmxRtcmMessage.rtcm3 (f.message rest)).retype rtcm2 (fuel + 1) =
      .error failure := by
  obtain ⟨failure, hfailure⟩ := AntennaDescriptorMessage.setContents_truncated h hroom fuel
  have hnumber : (f.message rest).messageNumber = antennaDescriptor := hnumber
  have hne : (f.message rest).messageNumber ≠ 0 := by
    rw [hnumber]
    decide
  refine ⟨failure, ?_⟩
  rw [TmxRtcmMessage.retype, if_neg hne, Rtcm3Message.getContents_raw f rest [] h]
  simp only
  rw [if_pos hnumber, hfailure]
  rfl

theorem retype_frame (h : f.HasAttrs) (hintact : f.Intact) (fuel : Nat) :
    ∃ m, (TmxRtcmMessage.rtcm3 (f.message rest)).retype rtcm2 (fuel + 1) = .ok m ∧
      Delivers rtcm2 m f f.bytes := by
  -- number 0 is kept as it is, 1007 becomes an antenna message, all others are decoded once more
  by_cases hzero : (f.message rest).messageNumber = 0
  · refine ⟨_, ?_, delivers_rtcm3 rtcm2 rest h⟩
    rw [TmxRtcmMessage.retype, if_pos hzero]
    rfl
  by_cases hantenna : (f.message rest).messageNumber = antennaDescriptor
  · obtain ⟨hroom, hsame⟩ := hintact hantenna
    obtain ⟨m, hretype, hdelivers⟩ := retype_antenna rtcm2 rest h hantenna hroom fuel
    refine ⟨m, hretype, ?_⟩
    split at hdelivers
    · rename_i haccepts
      rwa [hsame haccepts, f.withBody_body] at hdelivers
    · exact hdelivers
  · refine ⟨_, ?_, delivers_rtcm3 rtcm2 [] h⟩
    rw [TmxRtcmMessage.retype, if_neg hzero, Rtcm3Message.getContents_raw f rest [] h]
    simp only
    rw [if_neg hantenna, decode_bytes f h]
    simp only [bind, Except.bind, Rtcm3Message.isValid_raw f [] [] h]
    rfl

/-- A frame that is not intact ends the decoding, or comes out as another one. -/
theorem retype_of_not_intact (h : f.HasAttrs) (hintact : ¬ f.Intact) (fuel : Nat) :
    (∃ failure, (TmxRtcmMessage.rtcm3 (f.message rest)).retype rtcm2 (fuel + 1) = .error failure) ∨
      ∃ m contents, (TmxRtcmMessage.rtcm3 (f.message rest)).retype rtcm2 (fuel + 1) = .ok m ∧
        Delivers rtcm2 m f contents ∧ contents ≠ f.bytes := by
  rw [RawFrame.Intact] at hintact
  push Not at hintact
  obtain ⟨hnumber, hlost⟩ := hintact
  by_cases hroom : f.descriptorLength ≤ f.body.length
  · obtain ⟨haccepts, hne⟩ := hlost hroom
    obtain ⟨m, hretype, hdelivers⟩ := retype_antenna rtcm2 rest h hnumber hroom fuel
    rw [if_pos haccepts] at hdelivers
    refine Or.inr ⟨m, _, hretype, hdelivers, ?_⟩
    rw [← f.withBody_body]
    intro heq
    exact hne (f.withBody_injective heq)
  · exact Or.inl (retype_truncated rtcm2 rest h hnumber hroom fuel)

/-! ## One round of the filling loop -/

theorem copy_nonempty {garbage : List UInt8} {s : Filling α}
    (hcopy : s.copy = garbage ++ (f.bytes ++ rest)) : ¬ s.copy.isEmpty := by
  have hlength := congrArg List.length hcopy
  rw [List.length_append, List.length_append, f.length_bytes, headerBytes] at hlength
  rw [List.isEmpty_iff, ← List.length_eq_zero_iff]
  omega

theorem find_of_find3 {copy : List UInt8} {version : RtcmVersion} {fuel : Nat}
    {m : TmxRtcmMessage α} (h : find3 fuel copy = .ok (some m)) (hversion : version ≠ .sc10402_3) :
    find rtcm2 fuel copy version = .ok (some m) := by
  cases version with
  | sc10402_3 => exact absurd rfl hversion
  | sc10403_3 => exact h
  | unknown =>
      rw [find, h]
      rfl

/-- A version that is not known is tried as RTCM 2 too. -/
theorem find_of_not_find3 {copy : List UInt8} {version : RtcmVersion} {fuel : Nat}
    (h : find3 (α := α) fuel copy = .ok none) (hversion : version ≠ .sc10402_3) :
    find rtcm2 fuel copy version =
      .ok (if version = .unknown then find2 rtcm2 copy else none) := by
  cases version with
  | sc10402_3 => exact absurd rfl hversion
  | sc10403_3 => exact h
  | unknown =>
      rw [find, h]
      rfl

theorem find3_frame {garbage : List UInt8} (hattrs : f.HasAttrs) (h : preambleByte ∉ garbage)
    (fuel : Nat) :
    find3 (α := α) (fuel + 1) (garbage ++ (f.bytes ++ rest)) =
      .ok (some (.rtcm3 (f.message rest))) := by
  rw [find3, decode_frame f rest hattrs h]
  simp only [bind, Except.bind, Rtcm3Message.isValid_raw f rest [] hattrs]
  rfl

theorem find3_of_decode {copy : List UInt8} {fuel : Nat}
    (h : ∃ m, decode fuel copy = .ok m ∧ ¬ m.isValid) : find3 (α := α) fuel copy = .ok none := by
  obtain ⟨m, hm, hvalid⟩ := h
  rw [find3, hm]
  simp only [bind, Except.bind, hvalid]
  rfl

/-- A frame that is made specific to its type is appended, and as many bytes as it has are dropped
from the front of the copy. -/
theorem fillRound_of_retype {garbage : List UInt8} {s : Filling α} (hattrs : f.HasAttrs)
    (hcopy : s.copy = garbage ++ (f.bytes ++ rest)) (h : preambleByte ∉ garbage)
    (hversion : s.version ≠ .sc10402_3) {fuel : Nat} {m : TmxRtcmMessage α} {contents : List UInt8}
    (hretype : (TmxRtcmMessage.rtcm3 (f.message rest)).retype rtcm2 (fuel + 1) = .ok m)
    (hdelivers : Delivers rtcm2 m f contents) :
    fillRound rtcm2 (fuel + 1) s = .again
      ⟨.sc10403_3, (garbage ++ f.bytes).drop f.bytes.length ++ rest, s.messages ++ [m]⟩ := by
  have hlength : f.bytes.length ≤ (garbage ++ f.bytes).length := by simp
  have hle : m.size rtcm2 ≤ s.copy.length := by
    rw [hdelivers.size, hcopy, List.length_append, List.length_append]
    omega
  have hdrop : s.copy.drop (m.size rtcm2) = (garbage ++ f.bytes).drop f.bytes.length ++ rest := by
    rw [hdelivers.size, hcopy, ← List.append_assoc, List.drop_append_of_le_length hlength]
  have hfind : find rtcm2 (fuel + 1) s.copy s.version = .ok (some (.rtcm3 (f.message rest))) := by
    rw [hcopy]
    exact find_of_find3 rtcm2 (find3_frame rest hattrs h fuel) hversion
  rw [fillRound, if_neg (copy_nonempty rest hcopy), fillOnce, hfind]
  simp only [bind, Except.bind, hretype]
  rw [if_pos hle, hdrop]
  rfl

/-- **A frame is delivered.** -/
theorem fillRound_frame {garbage : List UInt8} {s : Filling α} (hattrs : f.HasAttrs)
    (hintact : f.Intact) (hcopy : s.copy = garbage ++ (f.bytes ++ rest))
    (h : preambleByte ∉ garbage) (hversion : s.version ≠ .sc10402_3) (fuel : Nat) :
    ∃ m, Delivers rtcm2 m f f.bytes ∧
      fillRound rtcm2 (fuel + 1) s = .again
        ⟨.sc10403_3, (garbage ++ f.bytes).drop f.bytes.length ++ rest, s.messages ++ [m]⟩ := by
  obtain ⟨m, hretype, hdelivers⟩ := retype_frame rtcm2 rest hattrs hintact fuel
  exact ⟨m, hdelivers, fillRound_of_retype rtcm2 rest hattrs hcopy h hversion hretype hdelivers⟩

/-- **Nothing is delivered**, and the copy is empty. -/
theorem fillRound_of_find {s : Filling α} (hnonempty : ¬ s.copy.isEmpty) {fuel : Nat}
    (hfind : find rtcm2 fuel s.copy s.version = .ok none) :
    fillRound rtcm2 fuel s = .again { s with copy := [] } := by
  rw [fillRound, if_neg hnonempty, fillOnce, hfind]
  rfl

theorem fillRound_of_not_mem {s : Filling α} (hnonempty : ¬ s.copy.isEmpty)
    (h : preambleByte ∉ s.copy) (hversion : s.version ≠ .sc10402_3)
    (hrtcm2 : s.version = .unknown → find2 rtcm2 s.copy = none) (fuel : Nat) :
    fillRound rtcm2 (fuel + 1) s = .again { s with copy := [] } := by
  apply fillRound_of_find rtcm2 hnonempty
  rw [find_of_not_find3 rtcm2 (find3_of_decode (decode_of_not_mem h fuel)) hversion]
  split
  · rename_i hunknown
    rw [hrtcm2 hunknown]
  · rfl

/-- **What a round does** when it goes round again: nothing was found and the copy is empty, or one
message was found, made specific to its type, and appended. -/
theorem fillRound_again {fuel : Nat} {s s' : Filling α}
    (h : fillRound rtcm2 fuel s = .again s') :
    s' = { s with copy := [] } ∨
      ∃ m ptr, find rtcm2 fuel s.copy s.version = .ok (some m) ∧ m.retype rtcm2 fuel = .ok ptr ∧
        s' = ⟨m.version, s.copy.drop
          (if ptr.size rtcm2 ≤ s.copy.length then ptr.size rtcm2 else s.copy.length),
          s.messages ++ [ptr]⟩ := by
  have hfill : fillOnce rtcm2 fuel s = .ok s' := by
    rw [fillRound] at h
    split at h
    · cases h
    · split at h
      · cases h
      · rename_i hfill
        cases h
        exact hfill
  rw [fillOnce] at hfill
  cases hfind : find rtcm2 fuel s.copy s.version with
  | error failure =>
      rw [hfind] at hfill
      cases hfill
  | ok found =>
      rw [hfind] at hfill
      cases found with
      | none =>
          cases hfill
          exact Or.inl rfl
      | some m =>
          simp only [bind, Except.bind] at hfill
          split at hfill
          · cases hfill
          · rename_i ptr hretype
            cases hfill
            exact Or.inr ⟨m, ptr, rfl, hretype, rfl⟩

theorem fillRound_done {fuel : Nat} {s s' : Filling α}
    (h : fillRound rtcm2 fuel s = .done (.ok s')) : s' = s := by
  rw [fillRound] at h
  split at h
  · cases h
    rfl
  · split at h <;> cases h

/-! ## Frames right behind each other -/

def streamOf (frames : List RawFrame) : List UInt8 := (frames.map RawFrame.bytes).flatten

@[simp] theorem streamOf_append (frames frames' : List RawFrame) :
    streamOf (frames ++ frames') = streamOf frames ++ streamOf frames' := by
  simp [streamOf]

@[simp] theorem streamOf_cons (f : RawFrame) (frames : List RawFrame) :
    streamOf (f :: frames) = f.bytes ++ streamOf frames := rfl

/-- Each frame is delivered by the message in its place. -/
def DeliversAll (messages : List (TmxRtcmMessage α)) (frames : List RawFrame) : Prop :=
  List.Forall₂ (fun m f => Delivers rtcm2 m f f.bytes) messages frames

/-- The frames at the front of the copy come out one by one. -/
theorem loop_intact {frames : List RawFrame} (hframes : ∀ f ∈ frames, f.HasAttrs ∧ f.Intact)
    {rest : List UInt8} {s : Filling α} (hcopy : s.copy = streamOf frames ++ rest)
    (hversion : s.version ≠ .sc10402_3) (fuel : Nat) :
    ∃ s' messages, (∀ rounds, loop (fillRound rtcm2 (fuel + 1)) (rounds + frames.length) s =
        loop (fillRound rtcm2 (fuel + 1)) rounds s') ∧
      s'.copy = rest ∧ s'.version ≠ .sc10402_3 ∧ s'.messages = s.messages ++ messages ∧
      DeliversAll rtcm2 messages frames := by
  induction frames generalizing s with
  | nil => exact ⟨s, [], fun _ => rfl, by simpa [streamOf] using hcopy, hversion, by simp, .nil⟩
  | cons f frames ih =>
      obtain ⟨⟨hattrs, hintact⟩, hframes⟩ := List.forall_mem_cons.mp hframes
      have hcopy' : s.copy = [] ++ (f.bytes ++ (streamOf frames ++ rest)) := by
        simpa using hcopy
      obtain ⟨m, hdelivers, hround⟩ := fillRound_frame rtcm2 (streamOf frames ++ rest) hattrs
        hintact hcopy' List.not_mem_nil hversion fuel
      rw [List.nil_append, List.drop_length, List.nil_append] at hround
      obtain ⟨s', messages, hloop, hrest, hversion', hmessages, hall⟩ :=
        ih hframes (s := ⟨.sc10403_3, streamOf frames ++ rest, s.messages ++ [m]⟩) rfl nofun
      refine ⟨s', m :: messages, ?_, hrest, hversion', ?_, .cons hdelivers hall⟩
      · intro rounds
        exact (loop_again hround _).trans (hloop rounds)
      · rw [hmessages, List.append_assoc]
        rfl

/-! ## From the loop to the container -/

variable {e : TmxRtcmEncodedMessage α}

/-- Where the filling loop starts. -/
def start (e : TmxRtcmEncodedMessage α) : Filling α :=
  { version := RtcmVersion.ofName e.subtype, copy := e.payload }

theorem getContainer_eq_ok (hfirst : e.myMessages = []) {fuel : Nat} {s : Filling α}
    (hloop : loop (fillRound rtcm2 fuel) fuel (start e) = some (.ok s)) :
    ∃ e', getContainer rtcm2 fuel e = .ok e' ∧ e'.myMessages = s.messages := by
  have hnone : ¬ e.myMessages.length > 0 := by simp [hfirst]
  rw [start] at hloop
  refine ⟨_, by rw [getContainer, if_neg hnone, hloop], ?_⟩
  rfl

theorem exists_loop_of_getContainer (hfirst : e.myMessages = []) {fuel : Nat}
    {e' : TmxRtcmEncodedMessage α} (h : getContainer rtcm2 fuel e = .ok e') :
    ∃ s, loop (fillRound rtcm2 fuel) fuel (start e) = some (.ok s) ∧
      e'.myMessages = s.messages := by
  have hnone : ¬ e.myMessages.length > 0 := by simp [hfirst]
  rw [getContainer, if_neg hnone] at h
  cases hloop : loop (fillRound rtcm2 fuel) fuel (start e) with
  | none =>
      rw [start] at hloop
      rw [hloop] at h
      cases h
  | some result =>
      cases result with
      | error failure =>
          rw [start] at hloop
          rw [hloop] at h
          cases h
      | ok s =>
          obtain ⟨e'', he, hmessages⟩ := getContainer_eq_ok rtcm2 hfirst hloop
          rw [getContainer, if_neg hnone] at he
          obtain rfl : e' = e'' := Except.ok.inj (h.symm.trans he)
          exact ⟨s, rfl, hmessages⟩

end

/-! ## Streams -/

/-- Frames, each behind its separator, and what follows the last. -/
def stream : List (List UInt8 × Frame) → List UInt8 → List UInt8
  | [], tail => tail
  | (separator, f) :: pieces, tail => separator ++ (f.bytes ++ stream pieces tail)

/-- The last `lag` bytes contain no preamble. -/
def Clear (bytes : List UInt8) (lag : Nat) : Prop :=
  preambleByte ∉ bytes.drop (bytes.length - lag)

instance (bytes : List UInt8) (lag : Nat) : Decidable (Clear bytes lag) :=
  inferInstanceAs (Decidable (preambleByte ∉ _))

/-- In front of every frame, and at the end, as many bytes as there were in separators up to there
contain no preamble. `before` is what has gone by, with `lag` bytes of separators. -/
def StaysClear (before : List UInt8) (lag : Nat) :
    List (List UInt8 × Frame) → List UInt8 → Prop
  | [], tail => Clear (before ++ tail) (lag + tail.length)
  | (separator, f) :: pieces, tail =>
      Clear (before ++ separator) (lag + separator.length) ∧
        StaysClear (before ++ separator ++ f.bytes) (lag + separator.length) pieces tail

instance decidableStaysClear (before : List UInt8) (lag : Nat) :
    ∀ pieces tail, Decidable (StaysClear before lag pieces tail)
  | [], tail => inferInstanceAs (Decidable (Clear (before ++ tail) (lag + tail.length)))
  | (separator, f) :: pieces, tail =>
      haveI := decidableStaysClear (before ++ separator ++ f.bytes) (lag + separator.length)
        pieces tail
      inferInstanceAs (Decidable (Clear (before ++ separator) (lag + separator.length) ∧ _))

/-- Frames right behind each other stay clear: there is nothing to lag behind. -/
theorem staysClear_of_no_separators {pieces : List (List UInt8 × Frame)} {tail : List UInt8}
    (hpieces : ∀ piece ∈ pieces, piece.1 = []) (htail : preambleByte ∉ tail)
    (before : List UInt8) : StaysClear before 0 pieces tail := by
  induction pieces generalizing before with
  | nil => simpa [StaysClear, Clear] using htail
  | cons piece pieces ih =>
      obtain ⟨separator, f⟩ := piece
      obtain rfl : separator = [] := hpieces (separator, f) List.mem_cons_self
      refine ⟨by simp [Clear], ?_⟩
      exact ih (fun piece hmem => hpieces piece (List.mem_cons_of_mem _ hmem)) _

section
variable {α : Type} (rtcm2 : Rtcm2Decoder α)

theorem clear_append_iff {before : List UInt8} {lag : Nat} (h : lag ≤ before.length)
    (bytes : List UInt8) :
    Clear (before ++ bytes) (lag + bytes.length) ↔
      preambleByte ∉ before.drop (before.length - lag) ++ bytes := by
  have hlag : (before ++ bytes).length - (lag + bytes.length) = before.length - lag := by
    rw [List.length_append]
    omega
  rw [Clear, hlag, List.drop_append_of_le_length (Nat.sub_le _ _)]

/-- What is left of a past that lags, when a frame is dropped from its front. -/
theorem drop_frame {before : List UInt8} {lag : Nat} (h : lag ≤ before.length)
    (separator frame : List UInt8) :
    (before.drop (before.length - lag) ++ separator ++ frame).drop frame.length =
      (before ++ separator ++ frame).drop
        ((before ++ separator ++ frame).length - (lag + separator.length)) := by
  rw [List.append_assoc, ← List.drop_append_of_le_length (Nat.sub_le _ _), List.drop_drop,
    List.append_assoc]
  congr 1
  simp only [List.length_append]
  omega

/-- **The filling loop**: started on the last `lag` bytes of the past and the rest of a stream that
stays clear, it delivers the frames of the stream in order. -/
theorem loop_fillRound {pieces : List (List UInt8 × Frame)} {tail before : List UInt8} {lag : Nat}
    {s : Filling α} (hlag : lag ≤ before.length)
    (hcopy : s.copy = before.drop (before.length - lag) ++ stream pieces tail)
    (hversion : s.version ≠ .sc10402_3)
    (hrtcm2 : s.version = .unknown → pieces = [] → s.copy ≠ [] → find2 rtcm2 s.copy = none)
    (hclear : StaysClear before lag pieces tail) (fuel rounds : Nat) :
    ∃ s' messages,
      loop (fillRound rtcm2 (fuel + 1)) (rounds + pieces.length + 2) s = some (.ok s') ∧
      s'.messages = s.messages ++ messages ∧
      messages.map (TmxRtcmMessage.getContents rtcm2) = pieces.map (some ·.2.bytes) := by
  induction pieces generalizing s before lag with
  | nil =>
      by_cases hempty : s.copy.isEmpty
      · have hdone : fillRound rtcm2 (fuel + 1) s = .done (.ok s) := by
          rw [fillRound, if_pos hempty]
        exact ⟨s, [], loop_done hdone _, by simp, rfl⟩
      · -- what is left contains no frame, and one round drops it
        have hnot : preambleByte ∉ s.copy := by
          rw [hcopy]
          exact (clear_append_iff hlag tail).mp hclear
        have hround := fillRound_of_not_mem rtcm2 hempty hnot hversion
          (fun h => hrtcm2 h rfl (fun h' => hempty (by simp [h']))) fuel
        refine ⟨{ s with copy := [] }, [], ?_, by simp, rfl⟩
        rw [loop_again hround]
        exact loop_done rfl rounds
  | cons piece pieces ih =>
      obtain ⟨separator, f⟩ := piece
      obtain ⟨hseparator, hclear⟩ := hclear
      have hnot := (clear_append_iff hlag separator).mp hseparator
      have hcopy' : s.copy = (before.drop (before.length - lag) ++ separator) ++
          (f.bytes ++ stream pieces tail) := by
        rw [hcopy, stream, List.append_assoc]
      obtain ⟨m, hdelivers, hround⟩ := fillRound_frame rtcm2 _ f.raw_hasAttrs f.raw_intact hcopy'
        hnot hversion fuel
      have hlag' : lag + separator.length ≤ (before ++ separator ++ f.bytes).length := by
        simp only [List.length_append]
        omega
      -- the copy lags behind by this separator too
      rw [drop_frame hlag] at hround
      obtain ⟨s', messages, hloop, hmessages, hcontents⟩ :=
        ih (s := ⟨.sc10403_3, _, s.messages ++ [m]⟩) hlag' rfl nofun nofun hclear
      refine ⟨s', m :: messages, ?_, ?_, ?_⟩
      · exact (loop_again hround _).trans hloop
      · rw [hmessages, List.append_assoc]
        rfl
      · rw [List.map_cons, List.map_cons, hcontents, hdelivers.contents]
        rfl

/-- `get_container` returns, and its messages have these frames as their contents, each once and in
this order. -/
def SplitsInto (e : TmxRtcmEncodedMessage α) (frames : List Frame) : Prop :=
  ∃ rounds, ∀ fuel, rounds ≤ fuel → ∃ e', getContainer rtcm2 fuel e = .ok e' ∧
    e'.myMessages.map (TmxRtcmMessage.getContents rtcm2) = frames.map (some ·.bytes)

/-- **Splitting**: a payload that stays clear is split into its frames. A message without frames
whose version is not known is also given to the RTCM 2 decoder, which has to find nothing. -/
theorem splitsInto_stream (pieces : List (List UInt8 × Frame)) (tail : List UInt8)
    {e : TmxRtcmEncodedMessage α} (hfirst : e.myMessages = [])
    (hpayload : e.payload = stream pieces tail)
    (hversion : RtcmVersion.ofName e.subtype ≠ .sc10402_3)
    (hrtcm2 : RtcmVersion.ofName e.subtype = .unknown → pieces = [] → tail ≠ [] →
      find2 rtcm2 tail = none)
    (hclear : StaysClear [] 0 pieces tail) : SplitsInto rtcm2 e (pieces.map Prod.snd) := by
  refine ⟨pieces.length + 2, ?_⟩
  intro fuel hfuel
  obtain ⟨rounds, rfl⟩ : ∃ rounds, fuel = rounds + pieces.length + 2 :=
    ⟨fuel - (pieces.length + 2), by omega⟩
  obtain ⟨s', messages, hloop, hmessages, hcontents⟩ :=
    loop_fillRound rtcm2
      (s := { version := RtcmVersion.ofName e.subtype, copy := e.payload }) (Nat.zero_le _)
      (by simpa using hpayload) hversion
      (by
        rintro hunknown rfl hne
        simp only [hpayload, stream] at hne ⊢
        exact hrtcm2 hunknown rfl hne)
      hclear (rounds + pieces.length + 1) rounds
  obtain ⟨e', he', hmine⟩ := getContainer_eq_ok rtcm2 hfirst hloop
  refine ⟨e', he', ?_⟩
  rw [hmine, hmessages, List.nil_append, hcontents, List.map_map]
  rfl

/-- **A frame twice**: a separator as long as the frame behind it is dropped in its place, and the
frame is still there. -/
theorem splitsInto_twice {f : Frame} {separator : List UInt8} {e : TmxRtcmEncodedMessage α}
    (hfirst : e.myMessages = []) (hpayload : e.payload = stream [(separator, f)] [])
    (hversion : RtcmVersion.ofName e.subtype ≠ .sc10402_3)
    (hseparator : preambleByte ∉ separator) (hlength : separator.length = f.bytes.length) :
    SplitsInto rtcm2 e [f, f] := by
  refine ⟨4, ?_⟩
  intro fuel hfuel
  obtain ⟨rounds, rfl⟩ : ∃ rounds, fuel = rounds + 4 := ⟨fuel - 4, by omega⟩
  obtain ⟨m, hdelivers, hround⟩ := fillRound_frame rtcm2 [] f.raw_hasAttrs f.raw_intact
    (s := { version := RtcmVersion.ofName e.subtype, copy := e.payload })
    (by simpa [stream] using hpayload) hseparator hversion (rounds + 3)
  -- exactly the separator is dropped
  rw [f.raw_bytes, List.drop_left' hlength] at hround
  obtain ⟨s', messages, hloop, hmessages, hcontents⟩ :=
    loop_fillRound rtcm2 (s := ⟨.sc10403_3, f.bytes ++ [], [] ++ [m]⟩) (Nat.zero_le _)
      (by simp [stream]) nofun nofun
      (staysClear_of_no_separators (by simp) List.not_mem_nil [] : StaysClear [] 0 [([], f)] [])
      (rounds + 3) rounds
  obtain ⟨e', he', hmine⟩ :=
    getContainer_eq_ok rtcm2 hfirst ((loop_again hround (rounds + 3)).trans hloop)
  refine ⟨e', he', ?_⟩
  rw [hmine, hmessages, List.map_append, hcontents]
  simp only [List.nil_append, List.map_cons, List.map_nil, hdelivers.contents]
  rfl

end

/-! ## Two streams -/

/-- An RTCM 2 decoder that finds nothing. -/
def silentRtcm2 : Rtcm2Decoder Unit where
  setContents _ := ()
  isValid _ := false
  retype _ := ()
  size _ := 0
  getContents _ := none

/-- A station message (number 1005) without a body. -/
def stationFrame : Frame where
  reserved := 0
  payload := [0x3E, 0xD0, 0x00]
  reserved_lt := by decide
  le_length := by decide
  length_lt := by decide
  wellFormed := by decide

/-- An antenna descriptor (number 1007) of one byte. -/
def antennaFrame : Frame where
  reserved := 0
  payload := [0x3E, 0xF0, 0x00, 0x01, 0x41, 0x05]
  reserved_lt := by decide
  le_length := by decide
  length_lt := by decide
  wellFormed := by decide

theorem splitsInto_stream_two_frames :
    SplitsInto silentRtcm2
      { subtype := "Unknown"
        payload := stream [([0x00], stationFrame), ([], antennaFrame)] [0x01] }
      [stationFrame, antennaFrame] :=
  splitsInto_stream silentRtcm2 [([0x00], stationFrame), ([], antennaFrame)] [0x01]
    (e := { subtype := "Unknown"
            payload := stream [([0x00], stationFrame), ([], antennaFrame)] [0x01] })
    rfl rfl (by decide) nofun (by decide +kernel)

/-- Nine bytes in front of a frame of nine bytes. -/
theorem station_frame_not_delivered_once :
    ¬ SplitsInto silentRtcm2
      { subtype := "3.3", payload := stream [(List.replicate 9 0x00, stationFrame)] [] }
      [stationFrame] := by
  rintro ⟨rounds, honce⟩
  obtain ⟨rounds', htwice⟩ := splitsInto_twice silentRtcm2 (f := stationFrame)
    (e := { subtype := "3.3", payload := stream [(List.replicate 9 0x00, stationFrame)] [] })
    rfl rfl (by decide) (by decide) (by decide +kernel)
  obtain ⟨e, he, hcontents⟩ := honce (max rounds rounds') (Nat.le_max_left _ _)
  obtain ⟨e', he', hcontents'⟩ := htwice (max rounds rounds') (Nat.le_max_right _ _)
  obtain rfl : e = e' := Except.ok.inj (he.symm.trans he')
  have hlengths := congrArg List.length (hcontents.symm.trans hcontents')
  simp at hlengths

end V2XHub.Rtcm
