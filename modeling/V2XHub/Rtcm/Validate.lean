import V2XHub.Rtcm.Container
import V2XHub.Rtcm.Rtcm2Codec

/-!
# Validate and is_Valid

Before a message is sent, `Validate` computes what `is_Valid` will check: the two parities of an
RTCM 2 header, the CRC of an RTCM 3 message. Of the RTCM 2 message, two more things than its
attributes matter: the words of its header are cached until an attribute is stored, and the word
sent before it, which `is_Valid` reads and `Validate` does not.

**Main result**

* `isValid_validate_iff`: exactly when a message is valid after `Validate`.
-/

namespace V2XHub.Rtcm

open Lib

/-! ## The RTCM 2 object -/

/-- An RTCM 2 message with its cache. -/
structure Rtcm2Object where
  message : Rtcm2Message := {}
  /-- `rtcm2Hdr`. -/
  rtcm2Hdr : List Nat := []
  /-- `headerVersion` is the storage version of the container: nothing was stored since. -/
  headerCurrent : Bool := true
  deriving DecidableEq, Repr

namespace Rtcm2Object

/-- Make the cache current, with zeros for words it does not have. -/
def getRtcm2Header (o : Rtcm2Object) : Rtcm2Object :=
  let rtcm2Hdr :=
    if o.headerCurrent then o.rtcm2Hdr else rtcm2Format.extractWords o.message.headerAttrs
  { o with
    rtcm2Hdr := rtcm2Hdr ++ List.replicate (2 - rtcm2Hdr.length) 0
    headerCurrent := true }

def getHeader1 (o : Rtcm2Object) : Nat := o.getRtcm2Header.rtcm2Hdr.getD 0 0

def getHeader2 (o : Rtcm2Object) : Nat := o.getRtcm2Header.rtcm2Hdr.getD 1 0

/-- Storing an attribute makes the cache out of date. -/
def store (o : Rtcm2Object) (f : Rtcm2Message → Rtcm2Message) : Rtcm2Object :=
  { o with message := f o.message, headerCurrent := false }

/-- `Parity1::bitmask()`, and `Parity2::bitmask()`. -/
def parityBitmask : Nat := 0x3F

def validate (o : Rtcm2Object) : Rtcm2Object :=
  let parity1 := addParity o.getHeader1 0 &&& parityBitmask
  let o := o.getRtcm2Header.store fun m => { m with parity1 := parity1 }
  let parity2 := addParity o.getHeader2 o.message.parity1 &&& parityBitmask
  o.getRtcm2Header.store fun m => { m with parity2 := parity2 }

def isValid (o : Rtcm2Object) : Bool :=
  o.message.notInvalidated && o.getHeader1 >>> (30 - 8) = o.message.preamble &&
    o.message.preamble = Rtcm2Message.preambleValue &&
    parityMatches o.getHeader1 o.message.primerWord &&
    parityMatches o.getHeader2 o.message.parity1

end Rtcm2Object

/-! ## The header words -/

theorem length_extractWords (m : Rtcm2Message) :
    (rtcm2Format.extractWords m.headerAttrs).length = 2 := by
  simp [WordFormat.extractWords, countBits, Rtcm2Message.headerAttrs, rtcm2Format]

namespace Rtcm2Object

@[simp] theorem message_getRtcm2Header (o : Rtcm2Object) :
    o.getRtcm2Header.message = o.message := rfl

@[simp] theorem getHeader1_store (o : Rtcm2Object) (f : Rtcm2Message → Rtcm2Message) :
    (o.store f).getHeader1 = (f o.message).header1 := by
  simp [getHeader1, getRtcm2Header, store, Rtcm2Message.header1, length_extractWords]

@[simp] theorem getHeader2_store (o : Rtcm2Object) (f : Rtcm2Message → Rtcm2Message) :
    (o.store f).getHeader2 = (f o.message).header2 := by
  simp [getHeader2, getRtcm2Header, store, Rtcm2Message.header2, length_extractWords]

end Rtcm2Object

namespace Rtcm2Message

/-- What stands before the parity of the first word. -/
def leadBits (m : Rtcm2Message) : Nat :=
  extractFrom [(8, m.preamble), (6, m.frameID), (10, m.stationID)]

/-- What stands before the parity of the second. -/
def tailBits (m : Rtcm2Message) : Nat :=
  extractFrom [(13, m.modifiedZCount), (3, m.sequenceNumber), (5, m.numberDataWords),
    (3, m.stationHealth)]

/-- The first header word before its parity is put in. A Z-count wider than its field reaches into
the place of the parity. -/
def bareHeader1 (m : Rtcm2Message) : Nat :=
  (m.leadBits <<< 6 ||| (m.tailBits <<< 6) >>> 30) % 2 ^ 30

def bareHeader2 (m : Rtcm2Message) : Nat := (m.tailBits <<< 6) % 2 ^ 30

theorem extractFrom_headerAttrs (m : Rtcm2Message) :
    extractFrom m.headerAttrs =
      (m.leadBits <<< 6 ||| m.parity1) <<< 30 ||| (m.tailBits <<< 6 ||| m.parity2) := by
  simp only [headerAttrs, leadBits, tailBits, extractFrom, countBits, List.tail_cons, List.map_cons,
    List.map_nil, List.sum_cons, List.sum_nil, Nat.shiftLeft_or_distrib, ← Nat.shiftLeft_add,
    Nat.or_assoc, Nat.or_zero, Nat.reduceAdd, Nat.shiftLeft_zero]

theorem header_eq (m : Rtcm2Message) :
    m.header1 = splitWord 30 (extractFrom m.headerAttrs) 1 ∧
      m.header2 = splitWord 30 (extractFrom m.headerAttrs) 0 := by
  have hcount : countBits m.headerAttrs / rtcm2Format.wordBits = 2 := by
    simp [countBits, headerAttrs, rtcm2Format]
  simp only [header1, header2, WordFormat.extractWords, hcount]
  exact ⟨rfl, rfl⟩

/-- The second word does not depend on the first. -/
theorem header2_eq_mod (m : Rtcm2Message) :
    m.header2 = (m.tailBits <<< 6 ||| m.parity2) % 2 ^ 30 := by
  have hshift : (m.leadBits <<< 6 ||| m.parity1) <<< 30 % 2 ^ 30 = 0 := by
    rw [Nat.shiftLeft_eq, Nat.mul_mod_left]
  rw [m.header_eq.2, extractFrom_headerAttrs, splitWord, Nat.mul_zero, Nat.shiftRight_zero,
    Nat.or_mod_two_pow, hshift, Nat.zero_or]

theorem header2_eq (m : Rtcm2Message) (h : m.parity2 < 2 ^ 6) :
    m.header2 = m.bareHeader2 ||| m.parity2 := by
  have hparity : m.parity2 % 2 ^ 30 = m.parity2 := Nat.mod_eq_of_lt (h.trans (by decide))
  rw [header2_eq_mod, Nat.or_mod_two_pow, hparity, bareHeader2]

theorem header1_eq (m : Rtcm2Message) (h1 : m.parity1 < 2 ^ 6) (h2 : m.parity2 < 2 ^ 6) :
    m.header1 = m.bareHeader1 ||| m.parity1 := by
  have hshift : ∀ x : Nat, x <<< 30 >>> 30 = x := fun x => Nat.shiftLeft_shiftRight x 30
  have hparity1 : m.parity1 % 2 ^ 30 = m.parity1 := Nat.mod_eq_of_lt (h1.trans (by decide))
  have hparity2 : m.parity2 >>> 30 = 0 := by
    rw [Nat.shiftRight_eq_div_pow]
    exact Nat.div_eq_of_lt (h2.trans (by decide))
  rw [m.header_eq.1, extractFrom_headerAttrs, splitWord, Nat.mul_one, Nat.shiftRight_or_distrib,
    Nat.shiftRight_or_distrib, hshift, hparity2, Nat.or_zero, Nat.or_right_comm,
    Nat.or_mod_two_pow, hparity1, bareHeader1]

theorem bareHeader1_lt (m : Rtcm2Message) : m.bareHeader1 < 2 ^ 30 :=
  Nat.mod_lt _ (Nat.two_pow_pos 30)

theorem bareHeader2_lt (m : Rtcm2Message) : m.bareHeader2 < 2 ^ 30 :=
  Nat.mod_lt _ (Nat.two_pow_pos 30)

/-- The second word has nothing in the place of its parity. -/
theorem bareHeader2_mod (m : Rtcm2Message) : m.bareHeader2 % 2 ^ 6 = 0 := by
  rw [bareHeader2, Nat.mod_mod_of_dvd _ (by decide : (2 ^ 6 : Nat) ∣ 2 ^ 30), Nat.shiftLeft_eq,
    Nat.mul_mod_left]

end Rtcm2Message

/-! ## Putting a parity in -/

theorem or_div_of_lt {p : Nat} (h : p < 2 ^ 6) (word : Nat) :
    (word ||| p) / 2 ^ 6 = word / 2 ^ 6 := by
  have hp : p >>> 6 = 0 := by
    rw [Nat.shiftRight_eq_div_pow]
    exact Nat.div_eq_of_lt h
  rw [← Nat.shiftRight_eq_div_pow, Nat.shiftRight_or_distrib, hp, Nat.or_zero,
    Nat.shiftRight_eq_div_pow]

/-- A word with a parity put in passes the check exactly when the parity bits are the right ones. -/
theorem parityMatches_or_iff {word p : Nat} (hword : word < 2 ^ 30) (hp : p < 2 ^ 6) (prev : Nat) :
    parityMatches (word ||| p) prev ↔ word % 2 ^ 6 ||| p = addParity word prev % 2 ^ 6 := by
  have hdiv := or_div_of_lt hp word
  have hright : addParity (word ||| p) prev = addParity word prev := addParity_congr hdiv rfl
  have hdata := addParity_div hword prev
  have hmod : (word ||| p) % 2 ^ 6 = word % 2 ^ 6 ||| p := by
    rw [Nat.or_mod_two_pow, Nat.mod_eq_of_lt hp]
  rw [parityMatches_iff, hright]
  constructor
  · intro heq
    rw [← hmod, heq]
  · intro hbits
    rw [← hmod] at hbits
    omega

/-! ## Validate on RTCM 2 messages -/

namespace Rtcm2Object

variable {o : Rtcm2Object}

/-- The parity of the first word as `Validate` has it: of the word the object reads, behind a word
that ends in 00. -/
def firstParity (o : Rtcm2Object) : Nat := addParity o.getHeader1 0 % 2 ^ 6

/-- What `Validate` puts in is what `is_Valid` expects: no attribute reaches into the preamble, the
first parity is right behind the word that was sent before, and the second is that of the word it
is put into. -/
structure ParityAgrees (o : Rtcm2Object) : Prop where
  lead : o.message.bareHeader1 >>> (30 - 8) = Rtcm2Message.preambleValue
  first : o.message.bareHeader1 % 2 ^ 6 ||| o.firstParity =
    addParity o.message.bareHeader1 o.message.primerWord % 2 ^ 6
  second : addParity o.message.header2 o.firstParity % 2 ^ 6 =
    addParity o.message.bareHeader2 o.firstParity % 2 ^ 6

/-- The first header word the object reads is that of its attributes. -/
def UpToDate (o : Rtcm2Object) : Prop := o.getHeader1 = o.message.header1

theorem and_parityBitmask (word : Nat) : word &&& parityBitmask = word % 2 ^ 6 :=
  Nat.and_two_pow_sub_one_eq_mod word 6

theorem firstParity_lt (o : Rtcm2Object) : o.firstParity < 2 ^ 6 :=
  Nat.mod_lt _ (Nat.two_pow_pos 6)

/-- The message after `Validate`. -/
def validated (o : Rtcm2Object) : Rtcm2Message :=
  { o.message with
    parity1 := o.firstParity
    parity2 := addParity o.message.header2 o.firstParity % 2 ^ 6 }

theorem message_validate (o : Rtcm2Object) : o.validate.message = o.validated := by
  show ({ o.message with
    parity1 := addParity o.getHeader1 0 &&& parityBitmask
    parity2 := addParity (o.getRtcm2Header.store fun m =>
      { m with parity1 := addParity o.getHeader1 0 &&& parityBitmask }).getHeader2
        (addParity o.getHeader1 0 &&& parityBitmask) &&& parityBitmask } : Rtcm2Message) = _
  rw [getHeader2_store, Rtcm2Message.header2_eq_mod, and_parityBitmask, and_parityBitmask]
  rw [validated, Rtcm2Message.header2_eq_mod]
  rfl

/-- After `Validate` the object reads the words of its attributes. -/
theorem isValid_validate (o : Rtcm2Object) : o.validate.isValid = o.validated.isValid := by
  have h1 : o.validate.getHeader1 = o.validated.header1 := by
    rw [← message_validate]
    exact getHeader1_store _ _
  have h2 : o.validate.getHeader2 = o.validated.header2 := by
    rw [← message_validate]
    exact getHeader2_store _ _
  rw [isValid, Rtcm2Message.isValid, h1, h2, message_validate]

theorem validate_iff (o : Rtcm2Object) :
    o.validate.isValid ↔
      o.message.notInvalidated ∧ o.message.preamble = Rtcm2Message.preambleValue ∧
        o.ParityAgrees := by
  have hp1 := o.firstParity_lt
  have hp2 : addParity o.message.header2 o.firstParity % 2 ^ 6 < 2 ^ 6 :=
    Nat.mod_lt _ (Nat.two_pow_pos 6)
  have h1 : o.validated.header1 = o.message.bareHeader1 ||| o.firstParity :=
    o.validated.header1_eq hp1 hp2
  have h2 : o.validated.header2 =
      o.message.bareHeader2 ||| addParity o.message.header2 o.firstParity % 2 ^ 6 :=
    o.validated.header2_eq hp2
  have hlead : o.validated.header1 >>> (30 - 8) = o.message.bareHeader1 >>> (30 - 8) := by
    have hzero : o.firstParity >>> (30 - 8) = 0 := by
      rw [Nat.shiftRight_eq_div_pow]
      exact Nat.div_eq_of_lt (hp1.trans (by decide))
    rw [h1, Nat.shiftRight_or_distrib, hzero, Nat.or_zero]
  have hfirst := parityMatches_or_iff o.message.bareHeader1_lt hp1 o.message.primerWord
  have hsecond := parityMatches_or_iff o.message.bareHeader2_lt hp2 o.firstParity
  rw [← h1] at hfirst
  rw [← h2, o.message.bareHeader2_mod, Nat.zero_or] at hsecond
  rw [isValid_validate, Rtcm2Message.isValid]
  simp only [Bool.and_eq_true, decide_eq_true_eq, hlead]
  show (((_ ∧ _) ∧ o.message.preamble = _) ∧ parityMatches _ o.message.primerWord = true) ∧
    parityMatches _ o.firstParity = true ↔ _
  constructor
  · rintro ⟨⟨⟨⟨hnot, hpreamble⟩, hvalue⟩, hmatch1⟩, hmatch2⟩
    exact ⟨hnot, hvalue, hpreamble.trans hvalue, hfirst.mp hmatch1, hsecond.mp hmatch2⟩
  · rintro ⟨hnot, hvalue, hagrees⟩
    exact ⟨⟨⟨⟨hnot, hagrees.lead.trans hvalue.symm⟩, hvalue⟩, hfirst.mpr hagrees.first⟩,
      hsecond.mpr hagrees.second⟩

/-! ### Attributes of their widths -/

theorem leadBits_lt {m : Rtcm2Message} (h : Fits m.headerAttrs) : m.leadBits < 2 ^ 24 := by
  simp only [Rtcm2Message.headerAttrs, fits_cons] at h
  exact extractFrom_lt (fits_cons.mpr ⟨h.1, fits_cons.mpr ⟨h.2.1, fits_cons.mpr
    ⟨h.2.2.1, fits_nil⟩⟩⟩)

theorem tailBits_lt {m : Rtcm2Message} (h : Fits m.headerAttrs) : m.tailBits < 2 ^ 24 := by
  simp only [Rtcm2Message.headerAttrs, fits_cons] at h
  obtain ⟨-, -, -, -, hcount, hsequence, hwords, hhealth, -⟩ := h
  exact extractFrom_lt (fits_cons.mpr ⟨hcount, fits_cons.mpr ⟨hsequence, fits_cons.mpr
    ⟨hwords, fits_cons.mpr ⟨hhealth, fits_nil⟩⟩⟩⟩)

theorem parities_lt {m : Rtcm2Message} (h : Fits m.headerAttrs) :
    m.parity1 < 2 ^ 6 ∧ m.parity2 < 2 ^ 6 := by
  simp only [Rtcm2Message.headerAttrs, fits_cons] at h
  exact ⟨h.2.2.2.1, h.2.2.2.2.2.2.2.2.1⟩

theorem bareHeader1_of_fits {m : Rtcm2Message} (h : Fits m.headerAttrs) :
    m.bareHeader1 = m.leadBits * 2 ^ 6 := by
  have hlead := leadBits_lt h
  have htail := tailBits_lt h
  have hnone : (m.tailBits <<< 6) >>> 30 = 0 := by
    rw [Nat.shiftLeft_eq, Nat.shiftRight_eq_div_pow]
    omega
  rw [Rtcm2Message.bareHeader1, hnone, Nat.or_zero, Nat.shiftLeft_eq]
  omega

theorem bareHeader1_shiftRight {m : Rtcm2Message} (h : Fits m.headerAttrs) :
    m.bareHeader1 >>> (30 - 8) = m.preamble := by
  have hrest : Fits [(6, m.frameID), (10, m.stationID)] := by
    simp only [Rtcm2Message.headerAttrs, fits_cons] at h
    exact fits_cons.mpr ⟨h.2.1, fits_cons.mpr ⟨h.2.2.1, fits_nil⟩⟩
  have hlt : extractFrom [(6, m.frameID), (10, m.stationID)] < 2 ^ 16 := extractFrom_lt hrest
  have hlead : m.leadBits =
      m.preamble * 2 ^ 16 + extractFrom [(6, m.frameID), (10, m.stationID)] :=
    extractFrom_cons hrest
  rw [bareHeader1_of_fits h, hlead, Nat.shiftRight_eq_div_pow]
  omega

/-- With attributes of their widths and the header words up to date, the parities agree exactly
behind a word that ends in 00, as `Validate` assumes. -/
theorem parityAgrees_iff (hfits : Fits o.message.headerAttrs) (hcache : o.UpToDate)
    (hpreamble : o.message.preamble = Rtcm2Message.preambleValue) :
    o.ParityAgrees ↔ o.message.primerWord % 2 ^ 2 = 0 := by
  obtain ⟨hp1, hp2⟩ := parities_lt hfits
  have hbare : o.message.bareHeader1 % 2 ^ 6 = 0 := by
    rw [bareHeader1_of_fits hfits, Nat.mul_mod_left]
  have hfirst : o.firstParity = addParity o.message.bareHeader1 0 % 2 ^ 6 := by
    have hword : addParity o.getHeader1 0 = addParity o.message.bareHeader1 0 := by
      rw [hcache, o.message.header1_eq hp1 hp2]
      exact addParity_congr (or_div_of_lt hp1 _) rfl
    rw [firstParity, hword]
  have hsecond : addParity o.message.header2 o.firstParity =
      addParity o.message.bareHeader2 o.firstParity := by
    rw [o.message.header2_eq hp2]
    exact addParity_congr (or_div_of_lt hp2 _) rfl
  constructor
  · intro hagrees
    have hbits := hagrees.first
    rw [hbare, Nat.zero_or, hfirst] at hbits
    have hdata := addParity_div o.message.bareHeader1_lt 0
    have hdata' := addParity_div o.message.bareHeader1_lt o.message.primerWord
    have hsame : addParity o.message.bareHeader1 0 =
        addParity o.message.bareHeader1 o.message.primerWord := by omega
    exact (mod_eq_of_addParity_eq hsame).symm
  · intro hending
    refine ⟨(bareHeader1_shiftRight hfits).trans hpreamble, ?_, by rw [hsecond]⟩
    have hsame : addParity o.message.bareHeader1 0 =
        addParity o.message.bareHeader1 o.message.primerWord :=
      addParity_congr rfl hending.symm
    rw [hbare, Nat.zero_or, hfirst, hsame]

end Rtcm2Object

/-! ## Validate on RTCM 3 messages -/

namespace Rtcm3Message

/-- `Validate`; `none` when `get_contents` throws. -/
def validate (m : Rtcm3Message) : Option Rtcm3Message :=
  m.getContents.map fun data => { m with crc := m.getParity data }

/-- The frame up to its CRC. -/
def crcRange (m : Rtcm3Message) : List UInt8 :=
  splitWords (extractFrom m.headerAttrs) 6 ++ m.data.take (m.messageLength - attrBytes)

/-- The message length covers the leading attributes, and the rest of the payload is loaded. -/
structure Loaded (m : Rtcm3Message) : Prop where
  attrs : attrBytes ≤ m.messageLength
  payload : m.messageLength - attrBytes ≤ m.data.length

variable {m : Rtcm3Message}

theorem Loaded.getContents (h : m.Loaded) :
    m.getContents = some (m.crcRange ++ splitWords (extractFrom [(24, m.crc)]) 3) := by
  have hnot : ¬ (m.messageLength < attrBytes ∨ m.messageLength - attrBytes > m.data.length) := by
    rintro (hshort | hfew)
    · exact absurd hshort (Nat.not_lt.mpr h.attrs)
    · exact absurd hfew (Nat.not_lt.mpr h.payload)
  rw [Rtcm3Message.getContents, if_neg hnot]
  rfl

theorem Loaded.length_crcRange (h : m.Loaded) : m.crcRange.length = m.size - crcBytes := by
  have hattrs : 3 ≤ m.messageLength := h.attrs
  rw [crcRange, List.length_append, List.length_take_of_le h.payload]
  show 6 + (m.messageLength - 3) = 3 + 3 + m.messageLength - 3
  omega

/-- The CRC is computed over the bytes before it, whatever stands in its place. -/
theorem Loaded.getParity (h : m.Loaded) {crc : List UInt8} (hcrc : crc.length = crcBytes) :
    m.getParity (m.crcRange ++ crc) = (crc24qHash m.crcRange).toNat := by
  have hsize : m.size = m.crcRange.length + crcBytes := by
    rw [h.length_crcRange]
    exact (Nat.sub_add_cancel (Nat.le_add_right_of_le (Nat.le_add_left _ _))).symm
  have hlength : m.size ≤ (m.crcRange ++ crc).length := by
    rw [List.length_append, hcrc, hsize]
  rw [Rtcm3Message.getParity, if_pos hlength, ← h.length_crcRange, List.take_left]

/-- Validity is the CRC of the bytes before it. -/
theorem Loaded.isValid_iff (h : m.Loaded) :
    m.isValid ↔ m.notInvalidated ∧ m.preamble = preambleByte.toNat ∧
      m.crc = (crc24qHash m.crcRange).toNat := by
  have hcrc : (splitWords (extractFrom [(24, m.crc)]) 3).length = crcBytes :=
    length_splitWords _ 3
  have hlength : ¬ m.size > (m.crcRange ++ splitWords (extractFrom [(24, m.crc)]) 3).length := by
    rw [List.length_append, hcrc, h.length_crcRange]
    show ¬ 3 + 3 + m.messageLength > 3 + 3 + m.messageLength - 3 + 3
    omega
  simp only [isValid, h.getContents, checkParity]
  rw [if_neg hlength, h.getParity hcrc]
  simp only [Bool.and_eq_true, decide_eq_true_eq]

theorem Loaded.validate (h : m.Loaded) :
    m.validate = some { m with crc := (crc24qHash m.crcRange).toNat } := by
  have hcrc : (splitWords (extractFrom [(24, m.crc)]) 3).length = crcBytes :=
    length_splitWords _ 3
  rw [Rtcm3Message.validate, h.getContents, Option.map_some, h.getParity hcrc]

/-- **Validate** makes a loaded message valid, unless it was invalidated or has another preamble. -/
theorem Loaded.isValid_validate (h : m.Loaded) :
    ∃ m', m.validate = some m' ∧
      (m'.isValid ↔ m.notInvalidated ∧ m.preamble = preambleByte.toNat) := by
  have hloaded : ({ m with crc := (crc24qHash m.crcRange).toNat } : Rtcm3Message).Loaded :=
    ⟨h.attrs, h.payload⟩
  refine ⟨_, h.validate, ?_⟩
  rw [hloaded.isValid_iff]
  exact ⟨fun hvalid => ⟨hvalid.1, hvalid.2.1⟩, fun hvalid => ⟨hvalid.1, hvalid.2, rfl⟩⟩

end Rtcm3Message

namespace AntennaDescriptorMessage

/-- `Validate` is inherited too. It rebuilds the data buffer, as `is_Valid` does once more. -/
def validate (m : AntennaDescriptorMessage) : Option AntennaDescriptorMessage :=
  m.getContents.map fun data =>
    { m.rebuild with
      base := { m.rebuild.base with crc := m.rebuild.base.getParity data } }

/-- Rebuilding the buffer again appends to it, behind what the contents take. -/
theorem isValid_validate {m : AntennaDescriptorMessage} (h : m.rebuild.base.Loaded) :
    ∃ m', m.validate = some m' ∧
      (m'.isValid.1 ↔ m.base.notInvalidated ∧ m.base.preamble = preambleByte.toNat) := by
  let crc := (crc24qHash m.rebuild.base.crcRange).toNat
  let m' : AntennaDescriptorMessage :=
    { m.rebuild with base := { m.rebuild.base with crc := crc } }
  have hvalidate : m.validate = some m' := by
    have hcrc : (splitWords (extractFrom [(24, m.rebuild.base.crc)]) 3).length = crcBytes :=
      length_splitWords _ 3
    rw [validate, getContents, h.getContents, Option.map_some, h.getParity hcrc]
  refine ⟨m', hvalidate, ?_⟩
  have hsame : m'.rebuild.base.data.take (m.base.messageLength - attrBytes) =
      m.rebuild.base.data.take (m.base.messageLength - attrBytes) := by
    show (m.rebuild.base.data ++ _ ++ _).take _ = _
    rw [List.append_assoc]
    exact List.take_append_of_le_length h.payload
  have hloaded : m'.rebuild.base.Loaded := by
    refine ⟨h.attrs, h.payload.trans ?_⟩
    show m.rebuild.base.data.length ≤ (m.rebuild.base.data ++ _ ++ _).length
    rw [List.append_assoc, List.length_append]
    exact Nat.le_add_right _ _
  have hrange : m'.rebuild.base.crcRange = m.rebuild.base.crcRange := by
    show splitWords _ 6 ++ m'.rebuild.base.data.take (m.base.messageLength - attrBytes) = _
    rw [hsame]
    rfl
  by_cases hnot : m.base.notInvalidated = true
  · have hvalid : m'.isValid.1 = m'.rebuild.base.isValid := by
      rw [isValid]
      exact congrArg Prod.fst (if_pos hnot)
    rw [hvalid, hloaded.isValid_iff, hrange]
    exact ⟨fun hv => ⟨hnot, hv.2.1⟩, fun hv => ⟨hnot, hv.2, rfl⟩⟩
  · have hvalid : m'.isValid.1 = false := by
      rw [isValid]
      exact congrArg Prod.fst (if_neg hnot)
    rw [hvalid]
    exact iff_of_false Bool.false_ne_true fun hv => hnot hv.1

end AntennaDescriptorMessage

/-- **Validate and is_Valid**: an RTCM 2 message is valid after `Validate` exactly when it was not
invalidated, has its preamble, and the parities agree; with attributes of their widths these agree
exactly behind a word that ends in 00. An RTCM 3 message with its payload loaded is valid exactly
when it was not invalidated and has its preamble. -/
theorem isValid_validate_iff (o : Rtcm2Object) (m : Rtcm3Message)
    (antenna : AntennaDescriptorMessage) :
    (o.validate.isValid ↔
      o.message.notInvalidated ∧ o.message.preamble = Rtcm2Message.preambleValue ∧
        o.ParityAgrees) ∧
      (Fits o.message.headerAttrs → o.UpToDate →
        o.message.preamble = Rtcm2Message.preambleValue →
          (o.ParityAgrees ↔ o.message.primerWord % 2 ^ 2 = 0)) ∧
      (m.Loaded → ∃ m', m.validate = some m' ∧
        (m'.isValid ↔ m.notInvalidated ∧ m.preamble = preambleByte.toNat)) ∧
      (antenna.rebuild.base.Loaded → ∃ m', antenna.validate = some m' ∧
        (m'.isValid.1 ↔
          antenna.base.notInvalidated ∧ antenna.base.preamble = preambleByte.toNat)) :=
  ⟨o.validate_iff, Rtcm2Object.parityAgrees_iff, Rtcm3Message.Loaded.isValid_validate,
    AntennaDescriptorMessage.isValid_validate⟩

/-! ### A message behind a word that ends in 01 -/

/-- The object that holds `m` and has read its header. -/
def Rtcm2Object.reading (m : Rtcm2Message) : Rtcm2Object where
  message := m
  rtcm2Hdr := [m.header1, m.header2]

/-- A header without data words, sent behind a word that ends in 01. -/
def oddFrame : Rtcm2Frame where
  frameID := 6
  stationID := 1
  modifiedZCount := 100
  sequenceNumber := 2
  stationHealth := 1
  words := []
  ending := 1
  frameID_lt := Nat.le_of_ble_eq_true rfl
  stationID_lt := Nat.le_of_ble_eq_true rfl
  modifiedZCount_lt := Nat.le_of_ble_eq_true rfl
  sequenceNumber_lt := Nat.le_of_ble_eq_true rfl
  stationHealth_lt := Nat.le_of_ble_eq_true rfl
  words_lt := List.forall_mem_nil _
  length_lt := Nat.le_of_ble_eq_true rfl
  ending_lt := Nat.le_of_ble_eq_true rfl

/-- The message is valid as it was received, and no longer after `Validate`. Nor is a new message to
which nothing was stored. -/
theorem not_isValid_validate_oddFrame :
    (Rtcm2Message.setContents {} oddFrame.bytes).isValid = true ∧
      (Rtcm2Object.reading (Rtcm2Message.setContents {} oddFrame.bytes)).validate.isValid =
        false ∧
      ({} : Rtcm2Object).validate.isValid = false := by
  have hdecoded : Rtcm2Message.setContents {} oddFrame.bytes =
      Rtcm2Message.decoded oddFrame [] := by
    rw [← Rtcm2Message.setContents_frame, List.append_nil]
  rw [hdecoded]
  refine ⟨Rtcm2Message.isValid_decoded oddFrame [], ?_, ?_⟩
  · rw [Bool.eq_false_iff]
    intro hvalid
    obtain ⟨-, hpreamble, hagrees⟩ := (Rtcm2Object.validate_iff _).mp hvalid
    have hfits : Fits (Rtcm2Message.decoded oddFrame []).headerAttrs := oddFrame.fits_attrs
    have hcache : (Rtcm2Object.reading (Rtcm2Message.decoded oddFrame [])).UpToDate := rfl
    have hending := (Rtcm2Object.parityAgrees_iff hfits hcache hpreamble).mp hagrees
    exact absurd hending (by decide)
  · rw [Bool.eq_false_iff]
    intro hvalid
    obtain ⟨-, -, hagrees⟩ := (Rtcm2Object.validate_iff _).mp hvalid
    exact absurd hagrees.first (by decide)

end V2XHub.Rtcm
