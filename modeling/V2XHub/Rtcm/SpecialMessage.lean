import V2XHub.Rtcm.Rtcm2Decoder
import V2XHub.Rtcm.Validate

/-!
# Special messages

`RTCM2GPSSpecialMessage` carries a text, three characters in the data bits of a word, the words
chained by their parities. `set_SpecialMessage` packs the characters with shifts of `char`. Whether
that type is signed is up to the compiler: where it is, a character from 0x80 on is negative, and
its sign fills the bits of the characters before it in the word.

**Main result**

* `specialMessage_roundTrip_iff`: exactly when a text survives `get_contents` and `set_contents`.
-/

namespace V2XHub.Rtcm

open Lib

/-! ## Packing and unpacking characters -/

/-- The value of a `char`. -/
def charValue (charSigned : Bool) (c : UInt8) : Int :=
  if charSigned && c.toNat ≥ 0x80 then c.toNat - 0x100 else c.toNat

/-- `c << n`, converted to the type of a word. -/
def shiftChar (charSigned : Bool) (c : UInt8) (n : Nat) : Nat :=
  (charValue charSigned c * 2 ^ n % 2 ^ 32).toNat

/-- The word of three characters; a character the text does not have is 0. -/
def packWord (charSigned : Bool) (a b c : UInt8) : Nat :=
  shiftChar charSigned a 22 ||| shiftChar charSigned b 14 ||| shiftChar charSigned c 6

/-- The loop of `assignMessage`: one word for three characters, with its parity behind the word
before it. -/
def packText (charSigned : Bool) : Nat → List UInt8 → List Nat
  | _, [] => []
  | prevWord, [a] => [addParity (packWord charSigned a 0 0) prevWord]
  | prevWord, [a, b] => [addParity (packWord charSigned a b 0) prevWord]
  | prevWord, a :: b :: c :: text =>
      let word := addParity (packWord charSigned a b c) prevWord
      word :: packText charSigned word text

/-- Character `n` of a word. -/
def charOf (word n : Nat) : UInt8 := UInt8.ofNat ((word >>> 6) >>> (8 * (2 - n)) % 2 ^ 8)

/-- The characters of a word, the second and third only if they are not 0. -/
def unpackWord (word : Nat) : List UInt8 :=
  (List.range 3).filterMap fun n =>
    if n > 0 ∧ charOf word n = 0 then none else some (charOf word n)

/-! ## The message object -/

/-- An RTCM 2 message with its cache, and `SpecialMessage`. -/
structure GpsSpecialMessage where
  object : Rtcm2Object
  specialMessage : List UInt8 := []

namespace Rtcm2Object

def getContents (o : Rtcm2Object) : List UInt8 :=
  let hdr1 := complementAfter o.message.primerWord o.getHeader1
  let hdr2 := complementAfter hdr1 o.getHeader2
  rtcm2Format.writeWord hdr1 ++ rtcm2Format.writeWord hdr2 ++
    Rtcm2Message.writeData hdr2 o.message.data

/-- `assignMessage`. -/
def assignMessage (charSigned : Bool) (o : Rtcm2Object) (text : List UInt8) : Rtcm2Object :=
  let o := { o with message := { o.message with data := [] } }
  let o := o.store fun m =>
    { m with numberDataWords := text.length / 3 + if text.length % 3 = 0 then 0 else 1 }
  let o := o.validate.getRtcm2Header
  { o with message := { o.message with data := packText charSigned o.getHeader2 text } }

end Rtcm2Object

namespace GpsSpecialMessage

/-- A new message: its constructor stores the frame id. -/
def new : GpsSpecialMessage where
  object := ({} : Rtcm2Object).store fun m => { m with frameID := Rtcm2Message.gpsSpecialMessage }

/-- `set_SpecialMessage`: the words are made first, then the text is stored. -/
def setSpecialMessage (charSigned : Bool) (s : GpsSpecialMessage) (text : List UInt8) :
    GpsSpecialMessage where
  object := (s.object.assignMessage charSigned text).store id
  specialMessage := text

/-- `set_contents`: check the parity of each data word and collect the characters. The header was
stored anew, so the cache is out of date. -/
def setContents (s : GpsSpecialMessage) (input : List UInt8) : GpsSpecialMessage :=
  let m := Rtcm2Message.setContents s.object.message input
  if Rtcm2Message.wordsMatch m.parity2 m.data then
    { object := s.object.store fun _ => m, specialMessage := m.data.flatMap unpackWord }
  else { s with object := s.object.store fun _ => m.invalidate }

end GpsSpecialMessage

/-! ## What becomes of a character -/

/-- What the sign of a character leaves in the characters before it. -/
def signByte (charSigned : Bool) (c : UInt8) : UInt8 :=
  if charSigned && c.toNat ≥ 0x80 then 0xFF else 0

theorem charValue_cases (charSigned : Bool) (c : UInt8) :
    charValue charSigned c = c.toNat ∧ signByte charSigned c = 0 ∨
      charValue charSigned c = c.toNat - 0x100 ∧ signByte charSigned c = 0xFF := by
  unfold charValue signByte
  split_ifs
  · exact .inr ⟨rfl, rfl⟩
  · exact .inl ⟨rfl, rfl⟩

/-- A shifted character, read in its own place, behind it and in front of it. -/
theorem shiftChar_div (charSigned : Bool) (c : UInt8) :
    shiftChar charSigned c 22 / 2 ^ 22 % 2 ^ 8 = c.toNat ∧
      shiftChar charSigned c 22 / 2 ^ 14 % 2 ^ 8 = 0 ∧
      shiftChar charSigned c 22 / 2 ^ 6 % 2 ^ 8 = 0 ∧
      shiftChar charSigned c 14 / 2 ^ 22 % 2 ^ 8 = (signByte charSigned c).toNat ∧
      shiftChar charSigned c 14 / 2 ^ 14 % 2 ^ 8 = c.toNat ∧
      shiftChar charSigned c 14 / 2 ^ 6 % 2 ^ 8 = 0 ∧
      shiftChar charSigned c 6 / 2 ^ 22 % 2 ^ 8 = (signByte charSigned c).toNat ∧
      shiftChar charSigned c 6 / 2 ^ 14 % 2 ^ 8 = (signByte charSigned c).toNat ∧
      shiftChar charSigned c 6 / 2 ^ 6 % 2 ^ 8 = c.toNat := by
  have hlt := c.toNat_lt
  unfold shiftChar
  obtain ⟨hvalue, hsign⟩ | ⟨hvalue, hsign⟩ := charValue_cases charSigned c
  · rw [hvalue, hsign]
    show _ ∧ _ ∧ _ ∧ _ = 0 ∧ _ ∧ _ ∧ _ = 0 ∧ _ = 0 ∧ _
    omega
  · rw [hvalue, hsign]
    show _ ∧ _ ∧ _ ∧ _ = 255 ∧ _ ∧ _ ∧ _ = 255 ∧ _ = 255 ∧ _
    omega

theorem packWord_div (charSigned : Bool) (a b c : UInt8) (n : Nat) :
    packWord charSigned a b c / 2 ^ n % 2 ^ 8 =
      shiftChar charSigned a 22 / 2 ^ n % 2 ^ 8 ||| shiftChar charSigned b 14 / 2 ^ n % 2 ^ 8 |||
        shiftChar charSigned c 6 / 2 ^ n % 2 ^ 8 := by
  simp only [packWord, ← Nat.shiftRight_eq_div_pow, Nat.shiftRight_or_distrib, Nat.or_mod_two_pow]

/-! ### Words wider than thirty bits

A negative character sets the bits above the word as well; `add_Parity` drops them. -/

theorem xorBits_ext {positions : List Nat} {word word' : Nat}
    (h : ∀ k ∈ positions, getBit k word = getBit k word') :
    xorBits positions word = xorBits positions word' := by
  induction positions with
  | nil => rfl
  | cons k positions ih =>
      obtain ⟨hk, hpositions⟩ := List.forall_mem_cons.mp h
      have hrest : xorBits positions word = xorBits positions word' := ih hpositions
      rw [xorBits, List.foldr_cons, ← xorBits, hk, hrest, xorBits, xorBits, List.foldr_cons]

theorem parityEquation_pos {i n : Nat} {positions : List Nat}
    (h : parityEquation i = some (n, positions)) : ∀ k ∈ positions, 0 < k := by
  unfold parityEquation at h
  split at h <;> cases h <;> decide

theorem addParity_mod (word prev : Nat) : addParity (word % 2 ^ 30) prev = addParity word prev := by
  rw [addParity, addParity]
  congr 1
  funext i
  cases hrow : parityEquation i with
  | none => rw [Nat.testBit_mod_two_pow, decide_eq_true i.isLt, Bool.true_and]
  | some row =>
      obtain ⟨n, positions⟩ := row
      have hbits : xorBits positions (word % 2 ^ 30) = xorBits positions word := by
        apply xorBits_ext
        intro k hk
        have hlt : 30 - k < 30 := by
          have hpos := parityEquation_pos hrow k hk
          omega
        rw [getBit, getBit, Nat.testBit_mod_two_pow, decide_eq_true hlt, Bool.true_and]
      simp only [hbits]

theorem parityMatches_addParity_any (word : Nat) {prev prev' : Nat}
    (h : prev % 2 ^ 2 = prev' % 2 ^ 2) : parityMatches (addParity word prev) prev' := by
  rw [← addParity_mod]
  exact parityMatches_addParity (Nat.mod_lt _ (Nat.two_pow_pos 30)) h

/-- The eight bits of a character are below the thirtieth and above the parity. -/
theorem addParity_char (word prev : Nat) {n : Nat} (hn : 6 ≤ n) (hn' : n ≤ 22) :
    addParity word prev / 2 ^ n % 2 ^ 8 = word / 2 ^ n % 2 ^ 8 := by
  have hdiv : addParity word prev / 2 ^ 6 = word % 2 ^ 30 / 2 ^ 6 := by
    rw [← addParity_mod]
    exact addParity_div (Nat.mod_lt _ (Nat.two_pow_pos 30)) prev
  apply Nat.eq_of_testBit_eq
  intro i
  have hbit : ∀ w : Nat, (w / 2 ^ n).testBit i = (w / 2 ^ 6).testBit (n - 6 + i) := by
    intro w
    rw [← Nat.shiftRight_eq_div_pow, ← Nat.shiftRight_eq_div_pow, Nat.testBit_shiftRight,
      Nat.testBit_shiftRight]
    congr 1
    omega
  rw [Nat.testBit_mod_two_pow, Nat.testBit_mod_two_pow, hbit, hbit, hdiv]
  by_cases hi : i < 8
  · have hlt : n - 6 + i + 6 < 30 := by omega
    rw [← Nat.shiftRight_eq_div_pow, ← Nat.shiftRight_eq_div_pow, Nat.testBit_shiftRight,
      Nat.testBit_shiftRight, Nat.testBit_mod_two_pow, Nat.add_comm 6, decide_eq_true hlt,
      Bool.true_and]
  · simp [hi]

/-! ### The characters of a packed word -/

theorem charOf_addParity (charSigned : Bool) (a b c : UInt8) (prev : Nat) :
    charOf (addParity (packWord charSigned a b c) prev) 0 =
        a ||| signByte charSigned b ||| signByte charSigned c ∧
      charOf (addParity (packWord charSigned a b c) prev) 1 = b ||| signByte charSigned c ∧
      charOf (addParity (packWord charSigned a b c) prev) 2 = c := by
  have hchar : ∀ n shift : Nat, shift = 6 + 8 * (2 - n) →
      (charOf (addParity (packWord charSigned a b c) prev) n).toNat =
        packWord charSigned a b c / 2 ^ shift % 2 ^ 8 := by
    rintro n shift rfl
    rw [charOf, UInt8.toNat_ofNat', Nat.mod_mod, ← Nat.shiftRight_add, Nat.shiftRight_eq_div_pow]
    exact addParity_char _ prev (by omega) (by omega)
  obtain ⟨a1, a2, a3, -⟩ := shiftChar_div charSigned a
  obtain ⟨-, -, -, b1, b2, b3, -⟩ := shiftChar_div charSigned b
  obtain ⟨-, -, -, -, -, -, c1, c2, c3⟩ := shiftChar_div charSigned c
  refine ⟨?_, ?_, ?_⟩
  · apply UInt8.toNat_inj.mp
    rw [hchar 0 22 rfl, packWord_div, a1, b1, c1, UInt8.toNat_or, UInt8.toNat_or]
  · apply UInt8.toNat_inj.mp
    rw [hchar 1 14 rfl, packWord_div, a2, b2, c2, Nat.zero_or, UInt8.toNat_or]
  · apply UInt8.toNat_inj.mp
    rw [hchar 2 6 rfl, packWord_div, a3, b3, c3, Nat.zero_or, Nat.zero_or]

theorem unpackWord_eq (word : Nat) :
    unpackWord word = charOf word 0 ::
      ((if charOf word 1 = 0 then [] else [charOf word 1]) ++
        if charOf word 2 = 0 then [] else [charOf word 2]) := by
  have hrange : List.range 3 = [0, 1, 2] := rfl
  rw [unpackWord, hrange]
  by_cases h1 : charOf word 1 = 0 <;> by_cases h2 : charOf word 2 = 0 <;> simp [h1, h2]

@[simp] theorem signByte_zero (charSigned : Bool) : signByte charSigned 0 = 0 := by
  cases charSigned <;> rfl

/-- A sign fills a character, unless it has all its bits. -/
theorem or_signByte_eq_self_iff {charSigned : Bool} {b c : UInt8} :
    b ||| signByte charSigned c = b ↔ (charSigned = true → 0x80 ≤ c → b = 0xFF) := by
  have hfull : b ||| 0xFF = 0xFF := by
    apply UInt8.toBitVec_inj.mp
    exact BitVec.or_allOnes
  have hle : 0x80 ≤ c ↔ c.toNat ≥ 0x80 := UInt8.le_iff_toNat_le
  unfold signByte
  rw [hle]
  cases charSigned with
  | false => simp
  | true =>
      by_cases hneg : c.toNat ≥ 0x80
      · simp only [hneg, decide_true, Bool.and_true, if_true, true_imp_iff, hfull]
        exact eq_comm
      · simp [hneg]

theorem or_signBytes_eq_self_iff {charSigned : Bool} {a b c : UInt8} :
    a ||| signByte charSigned b ||| signByte charSigned c = a ↔
      a ||| signByte charSigned b = a ∧ a ||| signByte charSigned c = a := by
  obtain ⟨-, hb⟩ | ⟨-, hb⟩ := charValue_cases charSigned b
  · rw [hb, UInt8.or_zero]
    simp
  · obtain ⟨-, hc⟩ | ⟨-, hc⟩ := charValue_cases charSigned c
    · rw [hc, UInt8.or_zero]
      simp
    · rw [hb, hc, UInt8.or_assoc, UInt8.or_self, and_self]

/-- In each group of three characters, one from 0x80 on stands behind 0xFF only. -/
def NegativesCovered : List UInt8 → Prop
  | a :: b :: c :: text =>
      (0x80 ≤ b → a = 0xFF) ∧ (0x80 ≤ c → a = 0xFF ∧ b = 0xFF) ∧ NegativesCovered text
  | [a, b] => 0x80 ≤ b → a = 0xFF
  | _ => True

/-- The characters of a word of three that are not 0. -/
theorem unpackWord_packWord {charSigned : Bool} {b c : UInt8} (hb : b ≠ 0) (hc : c ≠ 0) (a : UInt8)
    (prev : Nat) :
    unpackWord (addParity (packWord charSigned a b c) prev) =
      [a ||| signByte charSigned b ||| signByte charSigned c, b ||| signByte charSigned c, c] := by
  obtain ⟨h0, h1, h2⟩ := charOf_addParity charSigned a b c prev
  have hne : ¬ b ||| signByte charSigned c = 0 := fun h => hb (UInt8.or_eq_zero_iff.mp h).1
  rw [unpackWord_eq, h0, h1, h2, if_neg hne, if_neg hc]
  rfl

theorem unpackWord_packWord_two {charSigned : Bool} {b : UInt8} (hb : b ≠ 0) (a : UInt8)
    (prev : Nat) :
    unpackWord (addParity (packWord charSigned a b 0) prev) =
      [a ||| signByte charSigned b, b] := by
  obtain ⟨h0, h1, h2⟩ := charOf_addParity charSigned a b 0 prev
  rw [signByte_zero, UInt8.or_zero] at h0 h1
  rw [unpackWord_eq, h0, h1, h2, if_neg hb]
  rfl

theorem unpackWord_packWord_one (charSigned : Bool) (a : UInt8) (prev : Nat) :
    unpackWord (addParity (packWord charSigned a 0 0) prev) = [a] := by
  obtain ⟨h0, h1, h2⟩ := charOf_addParity charSigned a 0 0 prev
  rw [signByte_zero, UInt8.or_zero] at h0 h1
  rw [unpackWord_eq, h0, h1, h2, UInt8.or_zero]
  rfl

/-- **The text of the words** is the text they were made of exactly when no sign shows. -/
theorem flatMap_unpackWord_iff {charSigned : Bool} {text : List UInt8} (h : 0 ∉ text)
    (prev : Nat) :
    (packText charSigned prev text).flatMap unpackWord = text ↔
      (charSigned = true → NegativesCovered text) := by
  fun_induction packText charSigned prev text with
  | case1 prev => exact iff_of_true rfl fun _ => trivial
  | case2 prev a =>
      rw [List.flatMap_singleton, unpackWord_packWord_one]
      exact iff_of_true rfl fun _ => trivial
  | case3 prev a b =>
      have hb : b ≠ 0 := fun hzero => h (by simp [hzero])
      rw [List.flatMap_singleton, unpackWord_packWord_two hb]
      simp only [List.cons.injEq, and_true, or_signByte_eq_self_iff, NegativesCovered]
  | case4 prev a b c text word ih =>
      have hb : b ≠ 0 := fun hzero => h (by simp [hzero])
      have hc : c ≠ 0 := fun hzero => h (by simp [hzero])
      have htext : 0 ∉ text := fun hmem => h (by simp [hmem])
      rw [List.flatMap_cons, unpackWord_packWord hb hc]
      simp only [List.cons_append, List.nil_append, List.cons.injEq, true_and, ih htext,
        NegativesCovered]
      -- the sign of the third character is in the first two, that of the second in the first
      rw [or_signBytes_eq_self_iff, or_signByte_eq_self_iff, or_signByte_eq_self_iff,
        or_signByte_eq_self_iff]
      grind

/-! ## The message on the wire -/

/-- The number of words for a text. -/
def wordCount (text : List UInt8) : Nat :=
  text.length / 3 + if text.length % 3 = 0 then 0 else 1

theorem wordCount_lt {text : List UInt8} (h : text.length ≤ 93) : wordCount text < 2 ^ 5 := by
  unfold wordCount
  split_ifs <;> omega

theorem length_packText (charSigned : Bool) (prev : Nat) (text : List UInt8) :
    (packText charSigned prev text).length = wordCount text := by
  unfold wordCount
  fun_induction packText charSigned prev text with
  | case1 => rfl
  | case2 => simp
  | case3 => simp
  | case4 prev a b c text word ih =>
      rw [List.length_cons, ih]
      simp only [List.length_cons]
      split_ifs <;> omega

theorem length_packText_lt {text : List UInt8} (h : text.length ≤ 93) (charSigned : Bool)
    (prev : Nat) : (packText charSigned prev text).length < 2 ^ 5 := by
  rw [length_packText]
  exact wordCount_lt h

theorem packText_lt (charSigned : Bool) (prev : Nat) (text : List UInt8) :
    ∀ word ∈ packText charSigned prev text, word < 2 ^ 30 := by
  fun_induction packText charSigned prev text with
  | case1 => exact List.forall_mem_nil _
  | case2 => exact List.forall_mem_singleton.mpr (addParity_lt _ _)
  | case3 => exact List.forall_mem_singleton.mpr (addParity_lt _ _)
  | case4 prev a b c text word ih => exact List.forall_mem_cons.mpr ⟨addParity_lt _ _, ih⟩

/-- Every packed word has its parity behind the word before it. -/
theorem wordsMatch_packText (charSigned : Bool) (prev' : Nat) (text : List UInt8) :
    ∀ prev, prev' % 2 ^ 2 = prev % 2 ^ 2 →
      Rtcm2Message.wordsMatch prev (packText charSigned prev' text) := by
  fun_induction packText charSigned prev' text with
  | case1 => exact fun _ _ => rfl
  | case2 | case3 =>
      intro prev h
      rw [Rtcm2Message.wordsMatch, parityMatches_addParity_any _ h]
      rfl
  | case4 prev' a b c text word ih =>
      intro prev h
      rw [Rtcm2Message.wordsMatch, parityMatches_addParity_any _ h, ih word rfl]
      rfl

/-- The first header word of a special message. -/
def specialWord1 : Nat := addParity (0x66 * 2 ^ 22 + 16 * 2 ^ 16) 0

/-- The second, for `count` data words. -/
def specialWord2 (count : Nat) : Nat := addParity (count * 2 ^ 9) specialWord1

/-- The special message of a text, as a frame. -/
def specialFrame (charSigned : Bool) (text : List UInt8) (h : text.length ≤ 93) : Rtcm2Frame where
  frameID := 16
  stationID := 0
  modifiedZCount := 0
  sequenceNumber := 0
  stationHealth := 0
  words := packText charSigned (specialWord2 (wordCount text)) text
  ending := 0
  frameID_lt := Nat.le_of_ble_eq_true rfl
  stationID_lt := Nat.le_of_ble_eq_true rfl
  modifiedZCount_lt := Nat.le_of_ble_eq_true rfl
  sequenceNumber_lt := Nat.le_of_ble_eq_true rfl
  stationHealth_lt := Nat.le_of_ble_eq_true rfl
  words_lt := packText_lt charSigned (specialWord2 (wordCount text)) text
  length_lt := length_packText_lt h charSigned (specialWord2 (wordCount text))
  ending_lt := Nat.le_of_ble_eq_true rfl

section

variable {charSigned : Bool} {text : List UInt8} (h : text.length ≤ 93)

theorem length_specialFrame : (specialFrame charSigned text h).words.length = wordCount text :=
  length_packText charSigned _ text

theorem word1_specialFrame : (specialFrame charSigned text h).word1 = specialWord1 := by
  show addParity (0x66 * 2 ^ 22 + 16 * 2 ^ 16 + 0 * 2 ^ 6) 0 = _
  rw [Nat.zero_mul, Nat.add_zero, specialWord1]

theorem word2_specialFrame :
    (specialFrame charSigned text h).word2 = specialWord2 (wordCount text) := by
  show addParity (0 * 2 ^ 17 + 0 * 2 ^ 14 +
    (specialFrame charSigned text h).words.length * 2 ^ 9 + 0 * 2 ^ 6) _ = _
  rw [length_specialFrame, word1_specialFrame, specialWord2]
  simp only [Nat.zero_mul, Nat.zero_add, Nat.add_zero]

namespace Rtcm2Object

@[simp] theorem isValid_store (o : Rtcm2Object) (f : Rtcm2Message → Rtcm2Message) :
    (o.store f).isValid = (f o.message).isValid := by
  rw [isValid, Rtcm2Message.isValid, getHeader1_store, getHeader2_store]
  rfl

theorem getContents_store (o : Rtcm2Object) (f : Rtcm2Message → Rtcm2Message) :
    (o.store f).getContents = (f o.message).getContents := by
  rw [getContents, Rtcm2Message.getContents, getHeader1_store, getHeader2_store]
  rfl

theorem getHeader2_getRtcm2Header (o : Rtcm2Object) :
    o.getRtcm2Header.getHeader2 = o.getHeader2 := by
  have hlength : 2 - o.getRtcm2Header.rtcm2Hdr.length = 0 := by
    simp only [getRtcm2Header, List.length_append, List.length_replicate]
    omega
  show (o.getRtcm2Header.rtcm2Hdr ++
    List.replicate (2 - o.getRtcm2Header.rtcm2Hdr.length) 0).getD 1 0 = _
  rw [hlength, List.replicate_zero, List.append_nil]
  rfl

end Rtcm2Object

/-- The header of a special message before its parities are put in. -/
def unparitied (text : List UInt8) : Rtcm2Message where
  frameID := 16
  numberDataWords := wordCount text

theorem fits_unparitied (h : text.length ≤ 93) : Fits (unparitied text).headerAttrs := by
  simp only [Rtcm2Message.headerAttrs, unparitied, fits_cons, fits_nil, and_true]
  exact ⟨by decide, by decide, by decide, by decide, by decide, by decide, wordCount_lt h,
    by decide, by decide⟩

theorem header1_unparitied (h : text.length ≤ 93) :
    (unparitied text).header1 = 0x66 * 2 ^ 22 + 16 * 2 ^ 16 := by
  have hzero : 0 < 2 ^ 6 := Nat.two_pow_pos 6
  rw [Rtcm2Message.header1_eq _ hzero hzero, Rtcm2Object.bareHeader1_of_fits (fits_unparitied h)]
  show (0x66 <<< 16 ||| (16 <<< 10 ||| (0 ||| 0))) * 2 ^ 6 ||| 0 = _
  rfl

theorem header2_unparitied (h : text.length ≤ 93) :
    (unparitied text).header2 = wordCount text * 2 ^ 9 := by
  have hcount := wordCount_lt h
  have htail : (unparitied text).tailBits = wordCount text * 2 ^ 3 := by
    show 0 ||| (0 ||| (wordCount text <<< 3 ||| (0 ||| 0))) = _
    rw [Nat.zero_or, Nat.zero_or, Nat.zero_or, Nat.or_zero, Nat.shiftLeft_eq]
  rw [Rtcm2Message.header2_eq_mod, htail]
  show (_ ||| 0) % _ = _
  rw [Nat.or_zero, Nat.shiftLeft_eq]
  omega

/-- A new message after `set_SpecialMessage` is the one of the frame. -/
theorem message_setSpecialMessage :
    (GpsSpecialMessage.new.setSpecialMessage charSigned text).object.message =
      { Rtcm2Message.headed (specialFrame charSigned text h) [] with
        data := (specialFrame charSigned text h).words } := by
  let o := GpsSpecialMessage.new.object.store fun _ => unparitied text
  have h1 : o.getHeader1 = 0x66 * 2 ^ 22 + 16 * 2 ^ 16 := by
    rw [Rtcm2Object.getHeader1_store, header1_unparitied h]
  have hparity : o.firstParity = (specialFrame charSigned text h).word1 % 2 ^ 6 := by
    rw [Rtcm2Object.firstParity, h1, word1_specialFrame, specialWord1]
  have hword2 : addParity (unparitied text).header2 o.firstParity =
      (specialFrame charSigned text h).word2 := by
    rw [header2_unparitied h, hparity, word2_specialFrame, word1_specialFrame, specialWord2]
    exact addParity_congr rfl (Nat.mod_mod_of_dvd specialWord1 (by decide))
  have hvalidated : o.validated = Rtcm2Message.headed (specialFrame charSigned text h) [] := by
    show ({ unparitied text with
      parity1 := o.firstParity
      parity2 := addParity (unparitied text).header2 o.firstParity % 2 ^ 6 } : Rtcm2Message) = _
    rw [hparity] at hword2 ⊢
    rw [hword2]
    simp only [Rtcm2Message.headed, length_specialFrame]
    rfl
  have hheader2 : o.validate.getRtcm2Header.getHeader2 = specialWord2 (wordCount text) := by
    rw [Rtcm2Object.getHeader2_getRtcm2Header, Rtcm2Object.validate, Rtcm2Object.getHeader2_store]
    show o.validate.message.header2 = _
    rw [Rtcm2Object.message_validate, hvalidated, Rtcm2Message.header2_headed, word2_specialFrame]
  show ({ o.validate.message with
    data := packText charSigned o.validate.getRtcm2Header.getHeader2 text } : Rtcm2Message) = _
  rw [hheader2, Rtcm2Object.message_validate, hvalidated]
  rfl

/-- On the wire it is the frame. -/
theorem getContents_setSpecialMessage :
    (GpsSpecialMessage.new.setSpecialMessage charSigned text).object.getContents =
      (specialFrame charSigned text h).bytes := by
  have hstored : (GpsSpecialMessage.new.setSpecialMessage charSigned text).object.getContents =
      (GpsSpecialMessage.new.setSpecialMessage charSigned text).object.message.getContents :=
    Rtcm2Object.getContents_store _ id
  rw [hstored, message_setSpecialMessage h]
  exact Rtcm2Message.getContents_decoded (specialFrame charSigned text h) []

end

/-! ## Receiving it -/

/-- The instance that receives what a new message sends of a text. -/
def received (charSigned : Bool) (text : List UInt8) : GpsSpecialMessage :=
  GpsSpecialMessage.new.setContents
    (GpsSpecialMessage.new.setSpecialMessage charSigned text).object.getContents

/-- What comes back of a text is valid and has the text. -/
def RoundTrips (charSigned : Bool) (text : List UInt8) : Prop :=
  (received charSigned text).object.isValid = true ∧
    (received charSigned text).specialMessage = text

/-- The message arrives whole: it is valid, and its text is that of the words. -/
theorem received_eq (charSigned : Bool) {text : List UInt8} (h : text.length ≤ 93) :
    (received charSigned text).object.isValid = true ∧
      (received charSigned text).specialMessage =
        (packText charSigned (specialWord2 (wordCount text)) text).flatMap unpackWord := by
  let f := specialFrame charSigned text h
  have hdecoded : Rtcm2Message.setContents GpsSpecialMessage.new.object.message f.bytes =
      Rtcm2Message.decoded f [] := by
    have hframe := Rtcm2Message.setContents_numbered f [] Rtcm2Message.gpsSpecialMessage
    rw [List.append_nil] at hframe
    exact hframe
  have hmatch : Rtcm2Message.wordsMatch (Rtcm2Message.decoded f []).parity2
      (Rtcm2Message.decoded f []).data := by
    have hlast : specialWord2 (wordCount text) % 2 ^ 2 = f.word2 % 2 ^ 6 % 2 ^ 2 := by
      rw [word2_specialFrame]
      exact (Nat.mod_mod_of_dvd _ (by decide)).symm
    exact wordsMatch_packText charSigned _ text _ hlast
  rw [received, getContents_setSpecialMessage h, GpsSpecialMessage.setContents, hdecoded,
    if_pos hmatch]
  refine ⟨?_, rfl⟩
  rw [Rtcm2Object.isValid_store]
  exact Rtcm2Message.isValid_decoded f []

/-- **Special messages**: a text of at most 93 characters other than 0 comes back valid and the same
exactly when `char` is unsigned or no sign shows in the characters before it. -/
theorem specialMessage_roundTrip_iff (charSigned : Bool) {text : List UInt8}
    (hlength : text.length ≤ 93) (hchars : 0 ∉ text) :
    RoundTrips charSigned text ↔ (charSigned = true → NegativesCovered text) := by
  obtain ⟨hvalid, htext⟩ := received_eq charSigned hlength
  rw [RoundTrips, htext, flatMap_unpackWord_iff hchars]
  exact and_iff_right hvalid

/-- "Hey!", where `char` is signed: two words, the second of one character. -/
theorem roundTrips_hey : RoundTrips true [0x48, 0x65, 0x79, 0x21] := by
  apply (specialMessage_roundTrip_iff true (Nat.le_of_ble_eq_true rfl) (by decide)).mpr
  intro _
  exact ⟨fun h => absurd h (by decide), fun h => absurd h (by decide), trivial⟩

/-- An accented letter behind an "A", where `char` is signed: the message is valid, and the "A" is
gone. -/
theorem not_roundTrips_accented :
    (received true [0x41, 0xE9]).object.isValid = true ∧
      (received true [0x41, 0xE9]).specialMessage = [0xFF, 0xE9] ∧
      ¬ RoundTrips true [0x41, 0xE9] := by
  have hlength : [(0x41 : UInt8), 0xE9].length ≤ 93 := Nat.le_of_ble_eq_true rfl
  obtain ⟨hvalid, htext⟩ := received_eq true hlength
  have hsign : (0x41 : UInt8) ||| signByte true 0xE9 = 0xFF := by decide
  rw [packText, List.flatMap_singleton, unpackWord_packWord_two (by decide), hsign] at htext
  refine ⟨hvalid, htext, ?_⟩
  rintro ⟨-, hsame⟩
  rw [htext] at hsame
  exact absurd hsame (by decide)

end V2XHub.Rtcm
