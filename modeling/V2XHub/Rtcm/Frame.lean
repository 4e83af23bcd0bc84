import V2XHub.Rtcm.Rtcm3
import Mathlib.Data.Nat.Bitwise
import Mathlib.Data.List.Induction

/-!
# RTCM 3 frames

`RawFrame` is a frame on the wire, independent of the decoder, whose length and CRC are right by
construction; `Frame` is one that also holds what its message number promises. The main results are
what the decoder makes of them: behind bytes without a preamble a frame is found in the first round
(`attempt_frame`). If it is long enough for the leading attributes, the message is valid and
`get_contents` is the frame again (`getContents_message`); if not, it is invalidated
(`setContents_short`).
-/

namespace V2XHub.Rtcm

open Lib

/-! ## Words and attributes -/

theorem combineWords_concat (words : List UInt8) (word : UInt8) :
    combineWords (words ++ [word]) = combineWords words * 2 ^ 8 + word.toNat := by
  simp only [combineWords, List.foldl_append, List.foldl_cons, List.foldl_nil]

theorem combineWords_append (words words' : List UInt8) :
    combineWords (words ++ words') =
      combineWords words * 2 ^ (8 * words'.length) + combineWords words' := by
  -- from the right, as the fold adds the least significant word last
  induction words' using List.reverseRecOn with
  | nil => simp [combineWords]
  | append_singleton words' word ih =>
      rw [← List.append_assoc, combineWords_concat, combineWords_concat, ih, List.length_append,
        List.length_singleton, Nat.mul_add, Nat.pow_add]
      ring

theorem combineWords_lt (words : List UInt8) : combineWords words < 2 ^ (8 * words.length) := by
  induction words using List.reverseRecOn with
  | nil => simp [combineWords]
  | append_singleton words word ih =>
      have hword : word.toNat < 2 ^ 8 := word.toNat_lt
      rw [combineWords_concat, List.length_append, List.length_singleton, Nat.mul_add, Nat.pow_add]
      omega

theorem splitWords_succ (value n : Nat) :
    splitWords value (n + 1) = splitWords (value / 2 ^ 8) n ++ [UInt8.ofNat value] := by
  simp only [splitWords, List.range_succ, List.map_append, List.map_cons, List.map_nil]
  congr 1
  · apply List.map_congr_left
    intro w hw
    have hw : w < n := List.mem_range.mp hw
    have hshift : 8 * (n + 1 - w - 1) = 8 + 8 * (n - w - 1) := by omega
    rw [hshift, Nat.shiftRight_add, Nat.shiftRight_eq_div_pow value 8]
  · simp

@[simp] theorem length_splitWords (value n : Nat) : (splitWords value n).length = n := by
  simp [splitWords]

theorem combineWords_splitWords (value n : Nat) :
    combineWords (splitWords value n) = value % 2 ^ (8 * n) := by
  induction n generalizing value with
  | zero => simp [splitWords, combineWords, Nat.mod_one]
  | succ n ih =>
      have hword : (UInt8.ofNat value).toNat = value % 2 ^ 8 := UInt8.toNat_ofNat'
      rw [splitWords_succ, combineWords_concat, ih, hword, Nat.mul_succ, Nat.add_comm (8 * n),
        Nat.pow_add, Nat.mod_mul]
      ring

theorem splitWords_combineWords (words : List UInt8) :
    splitWords (combineWords words) words.length = words := by
  induction words using List.reverseRecOn with
  | nil => rfl
  | append_singleton words word ih =>
      have hlt : word.toNat < 2 ^ 8 := word.toNat_lt
      have hdiv : (combineWords words * 2 ^ 8 + word.toNat) / 2 ^ 8 = combineWords words := by omega
      have hword : UInt8.ofNat (combineWords words * 2 ^ 8 + word.toNat) = word := by
        apply UInt8.toNat_inj.mp
        rw [UInt8.toNat_ofNat']
        omega
      rw [List.length_append, List.length_singleton, combineWords_concat, splitWords_succ, hdiv,
        hword, ih]

theorem readWords_append (bytes rest : List UInt8) :
    readWords (bytes ++ rest) bytes.length = bytes := by
  apply List.ext_getElem
  · simp [readWords]
  · intro i hi hi'
    simp [readWords, List.getD_eq_getElem?_getD, List.getElem?_append_left hi',
      List.getElem?_eq_getElem hi']

/-- Every attribute fits in its width. -/
def Fits (attrs : List (Nat × Nat)) : Prop := ∀ attr ∈ attrs, attr.2 < 2 ^ attr.1

@[simp] theorem fits_cons {attr : Nat × Nat} {attrs : List (Nat × Nat)} :
    Fits (attr :: attrs) ↔ attr.2 < 2 ^ attr.1 ∧ Fits attrs := by
  simp [Fits]

@[simp] theorem fits_nil : Fits [] := by simp [Fits]

theorem extractFrom_lt {attrs : List (Nat × Nat)} (h : Fits attrs) :
    extractFrom attrs < 2 ^ countBits attrs := by
  induction attrs with
  | nil => simp [extractFrom, countBits]
  | cons attr rest ih =>
      obtain ⟨size, value⟩ := attr
      obtain ⟨hvalue, hrest⟩ := fits_cons.mp h
      -- the first attribute is below its own bits, the others are below it
      have hbits : countBits ((size, value) :: rest) = size + countBits rest := by
        simp [countBits]
      rw [extractFrom, List.tail_cons, hbits]
      apply Nat.or_lt_two_pow
      · rw [Nat.shiftLeft_eq, Nat.pow_add]
        exact Nat.mul_lt_mul_of_pos_right hvalue (Nat.two_pow_pos _)
      · exact (ih hrest).trans_le (Nat.pow_le_pow_right (by decide) (Nat.le_add_left _ _))

/-- Attributes that fit do not overlap. -/
theorem extractFrom_cons {size value : Nat} {rest : List (Nat × Nat)} (h : Fits rest) :
    extractFrom ((size, value) :: rest) = value * 2 ^ countBits rest + extractFrom rest := by
  rw [extractFrom, List.tail_cons, ← Nat.shiftLeft_add_eq_or_of_lt (extractFrom_lt h),
    Nat.shiftLeft_eq]

/-- Attributes side by side, as a sum. -/
def packed : List (Nat × Nat) → Nat
  | [] => 0
  | (_, value) :: rest => value * 2 ^ countBits rest + packed rest

theorem extractFrom_eq_packed {attrs : List (Nat × Nat)} (h : Fits attrs) :
    extractFrom attrs = packed attrs := by
  induction attrs with
  | nil => rfl
  | cons attr attrs ih =>
      have hattrs := (fits_cons.mp h).2
      rw [extractFrom_cons hattrs, ih hattrs]
      rfl

/-! ## Frames -/

/-- The number of the antenna descriptor message. -/
def antennaDescriptor : Nat := 1007

/-- The 24 bits at the front of a payload: message number and reference station. -/
def leadingAttrs (payload : List UInt8) : Nat := combineWords (payload.take attrBytes)

def numberOf (payload : List UInt8) : Nat := leadingAttrs payload / 2 ^ 12

/-- A frame on the wire, with a payload of any length. -/
structure RawFrame where
  reserved : Nat
  payload : List UInt8
  reserved_lt : reserved < 2 ^ 6
  length_lt : payload.length < 2 ^ 10

namespace RawFrame

variable (f : RawFrame)

def header : List UInt8 :=
  splitWords (0xD3 * 2 ^ 16 + f.reserved * 2 ^ 10 + f.payload.length) headerBytes

def crc : Nat := (crc24qHash (f.header ++ f.payload)).toNat

def bytes : List UInt8 := f.header ++ f.payload ++ splitWords f.crc crcBytes

/-- The frame has the leading attributes. -/
def HasAttrs : Prop := attrBytes ≤ f.payload.length

instance : Decidable f.HasAttrs := inferInstanceAs (Decidable (_ ≤ _))

/-- The message a decoder makes of a frame with `rest` behind it, later with `extra` words loaded
behind the payload. -/
def message (rest : List UInt8) (extra : List UInt8 := []) : Rtcm3Message where
  bytes := f.payload ++ splitWords f.crc crcBytes ++ rest
  data := f.payload.drop attrBytes ++ extra
  reserved := f.reserved
  messageLength := f.payload.length
  messageNumber := numberOf f.payload
  referenceStationID := leadingAttrs f.payload % 2 ^ 12
  crc := f.crc

@[simp] theorem length_header : f.header.length = headerBytes := by simp [header]

theorem length_bytes : f.bytes.length = headerBytes + crcBytes + f.payload.length := by
  simp only [bytes, List.length_append, length_header, length_splitWords]
  omega

theorem combineWords_header :
    combineWords f.header = 0xD3 * 2 ^ 16 + f.reserved * 2 ^ 10 + f.payload.length := by
  have hreserved := f.reserved_lt
  have hlength := f.length_lt
  rw [header, combineWords_splitWords]
  simp only [headerBytes]
  omega

theorem crc_lt : f.crc < 2 ^ 24 := by
  have hmask : crc24qHash (f.header ++ f.payload) ≤ 0x00ffffff := by
    rw [crc24qHash]
    exact UInt32.and_le_right
  have : f.crc ≤ (0x00ffffff : UInt32).toNat := UInt32.le_iff_toNat_le.mp hmask
  have hmax : (0x00ffffff : UInt32).toNat = 2 ^ 24 - 1 := by decide
  omega

theorem combineWords_crc : combineWords (splitWords f.crc crcBytes) = f.crc := by
  rw [combineWords_splitWords]
  exact Nat.mod_eq_of_lt f.crc_lt

/-- A frame starts with the preamble. -/
theorem exists_header_eq : ∃ rest, f.header = preambleByte :: rest := by
  have hreserved := f.reserved_lt
  have hlength := f.length_lt
  have hvalue : (0xD3 * 2 ^ 16 + f.reserved * 2 ^ 10 + f.payload.length) / 2 ^ 8 / 2 ^ 8 =
      0xD3 := by
    omega
  rw [header, headerBytes, splitWords_succ, splitWords_succ, splitWords_succ, hvalue]
  exact ⟨_, rfl⟩

theorem leadingAttrs_lt : leadingAttrs f.payload < 2 ^ 24 := by
  have h := combineWords_lt (f.payload.take attrBytes)
  have hlength : 8 * (f.payload.take attrBytes).length ≤ 24 := by
    rw [List.length_take, attrBytes]
    omega
  exact h.trans_le (Nat.pow_le_pow_right (by decide) hlength)

end RawFrame

/-! ## Decoding a frame -/

namespace Rtcm3Message

variable (f : RawFrame) {garbage : List UInt8} (rest extra : List UInt8)

theorem search_append (h : preambleByte ∉ garbage) (bytes : List UInt8) :
    search (garbage ++ bytes) = search bytes := by
  apply List.dropWhile_append_of_pos
  intro b hb
  have hne : b ≠ preambleByte := fun heq => h (heq ▸ hb)
  simp [hne]

theorem search_eq_nil (h : preambleByte ∉ garbage) : search garbage = [] := by
  simpa [search] using search_append h []

theorem search_frame (h : preambleByte ∉ garbage) :
    search (garbage ++ (f.bytes ++ rest)) = f.bytes ++ rest := by
  obtain ⟨tail, htail⟩ := f.exists_header_eq
  rw [search_append h, RawFrame.bytes, htail]
  simp [search]

/-- The state at the head of the first round of a new message. -/
theorem header_frame (input : List UInt8) :
    ({ bytes := input } : Rtcm3Message).header (f.bytes ++ rest) =
      { bytes := f.bytes ++ rest, reserved := f.reserved, messageLength := f.payload.length } := by
  have hreserved := f.reserved_lt
  have hlength := f.length_lt
  have hwords : readWords (f.bytes ++ rest) headerBytes = f.header := by
    rw [RawFrame.bytes, List.append_assoc, List.append_assoc, ← f.length_header]
    exact readWords_append _ _
  have htake : f.header.take headerBytes = f.header := List.take_of_length_le (by simp)
  have hdrop : f.header.drop headerBytes = [] := List.drop_eq_nil_of_le (by simp)
  simp only [header, assignHeader, List.nil_append, hwords, htake, hdrop, f.combineWords_header,
    Rtcm3Message.mk.injEq, and_true, true_and]
  omega

theorem crcOf_frame (input : List UInt8) :
    ({ bytes := input } : Rtcm3Message).crcOf (f.bytes ++ rest) = splitWords f.crc crcBytes := by
  have hstart : headerBytes + f.payload.length = (f.header ++ f.payload).length := by simp
  rw [crcOf, crcStart, header_frame, hstart, RawFrame.bytes, List.append_assoc, List.drop_left]
  exact List.take_left' (by simp)

theorem readCandidate_frame (input : List UInt8) :
    ({ bytes := input } : Rtcm3Message).readCandidate (f.bytes ++ rest) =
      { bytes := f.bytes ++ rest, reserved := f.reserved, messageLength := f.payload.length,
        crc := f.crc } := by
  have hwords : readWords (splitWords f.crc crcBytes) crcBytes = splitWords f.crc crcBytes := by
    simpa using readWords_append (splitWords f.crc crcBytes) []
  have htake : (splitWords f.crc crcBytes).take crcBytes = splitWords f.crc crcBytes :=
    List.take_of_length_le (by simp)
  have hdrop : (splitWords f.crc crcBytes).drop crcBytes = [] := List.drop_eq_nil_of_le (by simp)
  simp only [readCandidate, crcOf_frame, header_frame, assignCRC, List.nil_append, hwords, htake,
    hdrop, f.combineWords_crc]

/-- With enough bytes, the parity is that of all but the CRC. -/
theorem checkParity_iff {m : Rtcm3Message} {bytes : List UInt8} (h : m.size ≤ bytes.length) :
    m.checkParity bytes ↔ m.crc = (crc24qHash (bytes.take (m.size - crcBytes))).toNat := by
  rw [checkParity, if_neg (Nat.not_lt.mpr h), decide_eq_true_eq, getParity, if_pos h]

/-- A message with length and CRC of a frame checks the parity of the frame. -/
theorem checkParity_frame {m : Rtcm3Message} (hlength : m.messageLength = f.payload.length)
    (hcrc : m.crc = f.crc) : m.checkParity (f.bytes ++ rest) := by
  have hsize : m.size = f.bytes.length := by rw [f.length_bytes, size, hlength]
  have hle : m.size ≤ (f.bytes ++ rest).length := by
    rw [hsize, List.length_append]
    exact Nat.le_add_right _ _
  have hfront : m.size - crcBytes = (f.header ++ f.payload).length := by
    rw [hsize, f.length_bytes, List.length_append, f.length_header]
    omega
  rw [checkParity_iff hle, hcrc, hfront, RawFrame.bytes, List.append_assoc, List.take_left]
  rfl

theorem attempt_frame (h : preambleByte ∉ garbage) :
    attempt { bytes := garbage ++ (f.bytes ++ rest) } =
      .done ({ bytes := f.bytes ++ rest, reserved := f.reserved,
               messageLength := f.payload.length, crc := f.crc }, true) := by
  have hlength : (f.bytes ++ rest).length = f.payload.length + 6 + rest.length := by
    rw [List.length_append, f.length_bytes, headerBytes, crcBytes]
    omega
  have hheader : ¬ headerBytes > (f.bytes ++ rest).length := by
    rw [headerBytes, hlength]
    omega
  have hroom (input : List UInt8) :
      ({ bytes := input } : Rtcm3Message).hasRoom (f.bytes ++ rest) = true := by
    rw [hasRoom, header_frame, Bool.and_eq_true, decide_eq_true_eq, decide_eq_true_eq, hlength]
    simp only [headerBytes, crcBytes]
    omega
  have hcrc (input : List UInt8) :
      ({ bytes := input } : Rtcm3Message).crcMatches (f.bytes ++ rest) = true := by
    rw [crcMatches, readCandidate_frame, checkParity_frame f rest rfl rfl]
    rfl
  simp only [attempt, search_frame f rest h]
  rw [if_neg hheader, if_neg (not_not.mpr (hroom _)), if_pos (hcrc _), readCandidate_frame]

theorem finish_frame (h : f.HasAttrs) :
    ({ bytes := f.bytes ++ rest, reserved := f.reserved,
       messageLength := f.payload.length, crc := f.crc } : Rtcm3Message).finish =
      f.message rest := by
  have hbytes : (f.bytes ++ rest).drop headerBytes =
      f.payload ++ (splitWords f.crc crcBytes ++ rest) := by
    rw [RawFrame.bytes, List.append_assoc, List.append_assoc, ← f.length_header, List.drop_left]
  have hlt : leadingAttrs f.payload / 2 ^ 12 % 2 ^ 12 = leadingAttrs f.payload / 2 ^ 12 :=
    Nat.mod_eq_of_lt (by have := f.leadingAttrs_lt; omega)
  simp only [finish, hbytes, List.nil_append, readWords_append]
  rw [if_neg (Nat.not_lt.mpr h)]
  simp only [RawFrame.message, numberOf, Rtcm3Message.mk.injEq, List.append_assoc, List.append_nil,
    and_true, true_and]
  exact ⟨hlt, rfl⟩

/-- **Decoding**: behind bytes without a preamble, a frame is found in the first round. -/
theorem setContents_raw (hattrs : f.HasAttrs) (h : preambleByte ∉ garbage) (fuel : Nat) :
    setContents (fuel + 1) {} (garbage ++ (f.bytes ++ rest)) = some (f.message rest) := by
  rw [setContents, loop_done (attempt_frame f rest h), ← finish_frame f rest hattrs]
  rfl

/-- **A short frame**: it is found too, but the leading attributes cannot be assigned. -/
theorem setContents_short (hattrs : ¬ f.HasAttrs) (h : preambleByte ∉ garbage) (fuel : Nat) :
    ∃ m, setContents (fuel + 1) {} (garbage ++ (f.bytes ++ rest)) = some m ∧ ¬ m.isValid := by
  have hbytes : (f.bytes ++ rest).drop headerBytes =
      f.payload ++ (splitWords f.crc crcBytes ++ rest) := by
    rw [RawFrame.bytes, List.append_assoc, List.append_assoc, ← f.length_header, List.drop_left]
  have hlt : f.payload.length < attrBytes := Nat.lt_of_not_le hattrs
  refine ⟨_, by rw [setContents, loop_done (attempt_frame f rest h)]; rfl, ?_⟩
  simp only [if_true, finish, hbytes, List.nil_append, readWords_append]
  rw [if_pos hlt]
  simp [isValid, invalidate]

/-- Without a preamble, the message is invalidated. -/
theorem setContents_of_not_mem {bytes : List UInt8} (h : preambleByte ∉ bytes) (fuel : Nat) :
    ∃ m, setContents (fuel + 1) {} bytes = some m ∧ ¬ m.isValid := by
  have hattempt : attempt { bytes := bytes } = .done (({} : Rtcm3Message).invalidate, false) := by
    simp [attempt, search_eq_nil h, headerBytes]
  refine ⟨({} : Rtcm3Message).invalidate, ?_, by decide⟩
  rw [setContents, loop_done hattempt]
  rfl

/-! ## Encoding it again -/

theorem extractFrom_headerAttrs (h : f.HasAttrs) :
    extractFrom (f.message rest extra).headerAttrs =
      combineWords (f.header ++ f.payload.take attrBytes) := by
  have hreserved := f.reserved_lt
  have hlength := f.length_lt
  have hattrs := f.leadingAttrs_lt
  have hnumber : numberOf f.payload < 2 ^ 12 := by rw [numberOf]; omega
  have htake : (f.payload.take attrBytes).length = 3 := List.length_take_of_le h
  have hsplit : numberOf f.payload * 2 ^ 12 + leadingAttrs f.payload % 2 ^ 12 =
      leadingAttrs f.payload := by
    rw [numberOf]
    omega
  rw [combineWords_append, f.combineWords_header, htake, ← leadingAttrs, ← hsplit]
  have hstation : leadingAttrs f.payload % 2 ^ 12 < 2 ^ 12 := Nat.mod_lt _ (by decide)
  have hfits : Fits (f.message rest extra).headerAttrs := by
    simp only [headerAttrs, RawFrame.message, fits_cons]
    exact ⟨by decide, hreserved, hlength, hnumber, hstation, fits_nil⟩
  rw [extractFrom_eq_packed hfits]
  simp only [headerAttrs, RawFrame.message, packed, countBits, List.map_cons, List.map_nil,
    List.sum_cons, List.sum_nil]
  ring

/-- The contents of a message with the attributes of a frame, whatever words its manager has. -/
theorem getContents_of_attrs (h : f.HasAttrs) {m : Rtcm3Message}
    (hattrs : m.headerAttrs = (f.message rest).headerAttrs)
    (hlength : m.messageLength = f.payload.length) (hcrc : m.crc = f.crc)
    (hdata : f.payload.length - attrBytes ≤ m.data.length) :
    m.getContents = some (f.header ++ f.payload.take attrBytes ++
      m.data.take (f.payload.length - attrBytes) ++ splitWords f.crc crcBytes) := by
  have hnot : ¬ (f.payload.length < attrBytes ∨ f.payload.length - attrBytes > m.data.length) :=
    not_or.mpr ⟨Nat.not_lt.mpr h, Nat.not_lt.mpr hdata⟩
  have hwords : (f.header ++ f.payload.take attrBytes).length = 6 := by
    rw [List.length_append, f.length_header, List.length_take_of_le h, headerBytes, attrBytes]
  have hextract : extractFrom [(24, f.crc)] = f.crc := by simp [extractFrom, countBits]
  rw [getContents, hlength, if_neg hnot, hcrc, hextract, hattrs,
    extractFrom_headerAttrs f rest [] h, ← hwords, splitWords_combineWords]
  rfl

/-- **Encoding**: the message of a frame has the frame as its contents. -/
theorem getContents_raw (h : f.HasAttrs) :
    (f.message rest extra).getContents = some f.bytes := by
  -- the extra words are not read
  have hdata : (f.payload.drop attrBytes ++ extra).take (f.payload.length - attrBytes) =
      f.payload.drop attrBytes := List.take_left' (by simp)
  rw [getContents_of_attrs f rest h (m := f.message rest extra) rfl rfl rfl
    (by simp [RawFrame.message])]
  simp only [RawFrame.message]
  rw [hdata, List.append_assoc f.header, List.take_append_drop]
  rfl

theorem isValid_raw (h : f.HasAttrs) : (f.message rest extra).isValid := by
  have hparity : (f.message rest extra).checkParity f.bytes := by
    simpa using checkParity_frame f [] (m := f.message rest extra) rfl rfl
  rw [isValid, getContents_raw f rest extra h]
  simp only [hparity]
  rfl

end Rtcm3Message

/-! ## The fields of a frame -/

/-- Values for the fields of a frame that has the leading attributes, and the bytes behind them. -/
structure FrameFields where
  reserved : Nat
  messageNumber : Nat
  referenceStationID : Nat
  body : List UInt8
  reserved_lt : reserved < 2 ^ 6
  messageNumber_lt : messageNumber < 2 ^ 12
  referenceStationID_lt : referenceStationID < 2 ^ 12
  length_lt : attrBytes + body.length < 2 ^ 10

namespace FrameFields

variable (v : FrameFields)

def payload : List UInt8 :=
  splitWords (v.messageNumber * 2 ^ 12 + v.referenceStationID) attrBytes ++ v.body

theorem length_payload : v.payload.length = attrBytes + v.body.length := by
  simp [payload]

def frame : RawFrame where
  reserved := v.reserved
  payload := v.payload
  reserved_lt := v.reserved_lt
  length_lt := by
    rw [length_payload]
    exact v.length_lt

theorem frame_hasAttrs : v.frame.HasAttrs := by
  rw [RawFrame.HasAttrs, frame, length_payload]
  exact Nat.le_add_right _ _

theorem leadingAttrs_payload :
    leadingAttrs v.payload = v.messageNumber * 2 ^ 12 + v.referenceStationID := by
  have hnumber := v.messageNumber_lt
  have hstation := v.referenceStationID_lt
  have htake : v.payload.take attrBytes =
      splitWords (v.messageNumber * 2 ^ 12 + v.referenceStationID) attrBytes :=
    List.take_left' (by simp)
  rw [leadingAttrs, htake, combineWords_splitWords, attrBytes]
  omega

end FrameFields

namespace Rtcm3Message

/-- The message has these values in its attributes, the bytes behind them as its data, and the
length and the CRC of their frame. -/
structure Holds (m : Rtcm3Message) (v : FrameFields) : Prop where
  preamble : m.preamble = 0xD3
  reserved : m.reserved = v.reserved
  messageLength : m.messageLength = attrBytes + v.body.length
  messageNumber : m.messageNumber = v.messageNumber
  referenceStationID : m.referenceStationID = v.referenceStationID
  data : m.data = v.body
  crc : m.crc = v.frame.crc

theorem message_holds (v : FrameFields) (rest : List UInt8) : (v.frame.message rest).Holds v := by
  have hnumber := v.messageNumber_lt
  have hstation := v.referenceStationID_lt
  have hattrs := v.leadingAttrs_payload
  refine ⟨rfl, rfl, v.length_payload, ?_, ?_, ?_, rfl⟩
  · show leadingAttrs v.payload / 2 ^ 12 = v.messageNumber
    rw [hattrs]
    omega
  · show leadingAttrs v.payload % 2 ^ 12 = v.referenceStationID
    rw [hattrs]
    omega
  · show v.payload.drop attrBytes ++ [] = v.body
    rw [List.append_nil, FrameFields.payload]
    exact List.drop_left' (by simp)

/-- **The codec**: from a frame behind bytes without a preamble and in front of any others, a new
message recovers the value of every field, is valid and as long as the frame, and encodes to it. -/
theorem setContents_recovers (v : FrameFields) {garbage : List UInt8} (rest : List UInt8)
    (h : preambleByte ∉ garbage) :
    ∃ m, (∀ fuel, setContents (fuel + 1) {} (garbage ++ (v.frame.bytes ++ rest)) = some m) ∧
      m.Holds v ∧ m.isValid ∧ m.size = attrBytes + v.body.length + 6 ∧
      m.getContents = some v.frame.bytes := by
  refine ⟨v.frame.message rest, ?_, message_holds v rest, ?_, ?_, ?_⟩
  · intro fuel
    exact setContents_raw v.frame rest v.frame_hasAttrs h fuel
  · exact isValid_raw v.frame rest [] v.frame_hasAttrs
  · rw [size, (message_holds v rest).messageLength, headerBytes, crcBytes]
    omega
  · exact getContents_raw v.frame rest [] v.frame_hasAttrs

/-- A station message (number 1005 of station 7) of one byte behind its attributes, with its
reserved bits set. -/
def stationFields : FrameFields where
  reserved := 63
  messageNumber := 1005
  referenceStationID := 7
  body := [0xD3]
  reserved_lt := by decide
  messageNumber_lt := by decide
  referenceStationID_lt := by decide
  length_lt := by decide

theorem setContents_recovers_station :
    ∃ m, (∀ fuel, setContents (fuel + 1) {} ([0x00] ++ (stationFields.frame.bytes ++ [0xD3])) =
        some m) ∧
      m.Holds stationFields ∧ m.isValid ∧ m.size = attrBytes + stationFields.body.length + 6 ∧
      m.getContents = some stationFields.frame.bytes :=
  setContents_recovers stationFields [0xD3] (by decide)

end Rtcm3Message

/-! ## Well-formed frames -/

/-- A frame on the wire. An antenna descriptor message is well formed: behind the leading
attributes it has a count, that many bytes of text, and a setup id. -/
structure Frame where
  reserved : Nat
  payload : List UInt8
  reserved_lt : reserved < 2 ^ 6
  le_length : attrBytes ≤ payload.length
  length_lt : payload.length < 2 ^ 10
  wellFormed : numberOf payload = antennaDescriptor →
    payload.length = attrBytes + 1 + (payload.getD attrBytes 0).toNat + 1

namespace Frame

variable (f : Frame)

def header : List UInt8 :=
  splitWords (0xD3 * 2 ^ 16 + f.reserved * 2 ^ 10 + f.payload.length) headerBytes

def crc : Nat := (crc24qHash (f.header ++ f.payload)).toNat

def bytes : List UInt8 := f.header ++ f.payload ++ splitWords f.crc crcBytes

/-- The message a decoder makes of a frame with `rest` behind it, later with `extra` words loaded
behind the payload. -/
def message (rest : List UInt8) (extra : List UInt8 := []) : Rtcm3Message where
  bytes := f.payload ++ splitWords f.crc crcBytes ++ rest
  data := f.payload.drop attrBytes ++ extra
  reserved := f.reserved
  messageLength := f.payload.length
  messageNumber := numberOf f.payload
  referenceStationID := leadingAttrs f.payload % 2 ^ 12
  crc := f.crc

/-- The frame without the promise. -/
def raw : RawFrame := ⟨f.reserved, f.payload, f.reserved_lt, f.length_lt⟩

@[simp] theorem raw_bytes : f.raw.bytes = f.bytes := rfl

theorem raw_hasAttrs : f.raw.HasAttrs := f.le_length

theorem length_bytes : f.bytes.length = headerBytes + crcBytes + f.payload.length :=
  f.raw.length_bytes

end Frame

namespace Rtcm3Message

variable (f : Frame) {garbage : List UInt8} (rest extra : List UInt8)

theorem setContents_frame (h : preambleByte ∉ garbage) (fuel : Nat) :
    setContents (fuel + 1) {} (garbage ++ (f.bytes ++ rest)) = some (f.message rest) :=
  setContents_raw f.raw rest f.raw_hasAttrs h fuel

theorem getContents_message : (f.message rest extra).getContents = some f.bytes :=
  getContents_raw f.raw rest extra f.raw_hasAttrs

end Rtcm3Message

end V2XHub.Rtcm
