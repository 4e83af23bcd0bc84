import V2XHub.Rtcm.Frame
import Mathlib.Data.List.Basic

/-!
# The data manager

`RtcmDataManager` keeps a buffer of words and moves them to and from byte streams and attributes. It
is generic: a word has so many bits, each byte on the wire carries so many of them, and when there
is a mask the bits of a byte are rolled (their order is turned round) and the mask is set in it.

Words are natural numbers here. The attributes of one call have at most sixty bits, so nothing is
lost in the 64-bit value they are packed into. The manager of `RTCM3.h` has words of one byte and no
mask; the functions of `Rtcm3` are this one there (`readWords_eq_loadData` and what follows).
-/

namespace V2XHub.Rtcm

/-- `rollByte`: bit `i` becomes bit `bits - i - 1`. -/
def rollByte (bits byte : Nat) : Nat := Nat.ofBits fun i : Fin bits => byte.testBit (bits - i - 1)

def combineWord (bits word value : Nat) : Nat :=
  (if value > 0 then value <<< bits else value) ||| word % 2 ^ bits

def splitWord (bits value pos : Nat) : Nat := (value >>> (bits * pos)) % 2 ^ bits

/-- The template arguments of a data manager, and its mask. -/
structure WordFormat where
  wordBits : Nat
  byteBits : Nat
  mask : UInt8 := 0

namespace WordFormat

variable (fmt : WordFormat)

/-- Bytes in a word. -/
def wordSize : Nat := fmt.wordBits / fmt.byteBits

/-- A byte as it is read: rolled, if it has the mask. -/
def readByte (byte : UInt8) : Nat :=
  if fmt.mask > 0 ∧ byte &&& fmt.mask = fmt.mask then rollByte fmt.byteBits byte.toNat
  else byte.toNat

def readWord (bytes : List UInt8) (pos : Nat) : Nat :=
  ((bytes.drop pos).take fmt.wordSize).foldl
    (fun val byte => combineWord fmt.byteBits (fmt.readByte byte) val) 0

def writeByte (byte : Nat) : UInt8 :=
  if fmt.mask > 0 then UInt8.ofNat (rollByte fmt.byteBits byte) ||| fmt.mask else UInt8.ofNat byte

def writeWord (word : Nat) : List UInt8 :=
  (List.range fmt.wordSize).map fun i =>
    fmt.writeByte (splitWord fmt.byteBits word (fmt.wordSize - i - 1))

/-- `loadData`: append words to the buffer. -/
def loadData (data : List Nat) (bytes : List UInt8) (numWords : Nat) : List Nat :=
  data ++ (List.range numWords).map fun i => fmt.readWord bytes (i * fmt.wordSize)

/-- `assignFrom`: the values of attributes of these widths, the first in the most significant
bits. -/
def assignFrom (value : Nat) : List Nat → List Nat
  | [] => []
  | size :: sizes => (value >>> sizes.sum) % 2 ^ size :: assignFrom value sizes

/-- `assignData`: the values taken from the front of the buffer, and what is left of it; `none` when
there are too few words and it throws. -/
def assignData (data : List Nat) (sizes : List Nat) : Option (List Nat × List Nat) :=
  let numWords := sizes.sum / fmt.wordBits
  if numWords > data.length then none
  else
    let value := (data.take numWords).foldl (fun val word => combineWord fmt.wordBits word val) 0
    some (assignFrom value sizes, data.drop numWords)

/-- `extractWords`. -/
def extractWords (attrs : List (Nat × Nat)) : List Nat :=
  let numWords := countBits attrs / fmt.wordBits
  (List.range numWords).map fun w => splitWord fmt.wordBits (extractFrom attrs) (numWords - w - 1)

end WordFormat

/-! ## Splitting and combining -/

variable {bits : Nat}

theorem combineWord_eq (word value : Nat) :
    combineWord bits word value = value * 2 ^ bits + word % 2 ^ bits := by
  have hlt : word % 2 ^ bits < 2 ^ bits := Nat.mod_lt _ (Nat.two_pow_pos bits)
  rw [combineWord]
  split
  · rw [← Nat.shiftLeft_add_eq_or_of_lt hlt, Nat.shiftLeft_eq]
  · rename_i hzero
    obtain rfl : value = 0 := by omega
    simp

theorem splitWord_lt (value pos : Nat) : splitWord bits value pos < 2 ^ bits :=
  Nat.mod_lt _ (Nat.two_pow_pos bits)

/-- The words of a value, the most significant first. -/
def splits (bits value n : Nat) : List Nat :=
  (List.range n).map fun w => splitWord bits value (n - w - 1)

/-- The value of some words. -/
def combine (bits : Nat) (words : List Nat) : Nat :=
  words.foldl (fun value word => combineWord bits word value) 0

theorem splits_succ (value n : Nat) :
    splits bits value (n + 1) = splits bits (value / 2 ^ bits) n ++ [value % 2 ^ bits] := by
  simp only [splits, List.range_succ, List.map_append, List.map_cons, List.map_nil]
  congr 1
  · apply List.map_congr_left
    intro w hw
    have hw : w < n := List.mem_range.mp hw
    have hpos : n + 1 - w - 1 = 1 + (n - w - 1) := by omega
    rw [splitWord, splitWord, hpos, Nat.mul_add, Nat.mul_one, Nat.shiftRight_add,
      Nat.shiftRight_eq_div_pow value bits]
  · simp [splitWord]

@[simp] theorem length_splits (value n : Nat) : (splits bits value n).length = n := by
  simp [splits]

theorem combine_concat (words : List Nat) (word : Nat) :
    combine bits (words ++ [word]) = combine bits words * 2 ^ bits + word % 2 ^ bits := by
  rw [combine, List.foldl_append, List.foldl_cons, List.foldl_nil, combineWord_eq, combine]

/-- Combining the words of a value gives it back. -/
theorem combine_splits (value n : Nat) :
    combine bits (splits bits value n) = value % 2 ^ (bits * n) := by
  induction n generalizing value with
  | zero => simp [splits, combine, Nat.mod_one]
  | succ n ih =>
      rw [splits_succ, combine_concat, ih, Nat.mod_mod, Nat.mul_succ, Nat.add_comm (bits * n),
        Nat.pow_add, Nat.mod_mul]
      ring

/-! ## Rolling -/

theorem testBit_rollByte (byte i : Nat) :
    (rollByte bits byte).testBit i = (decide (i < bits) && byte.testBit (bits - i - 1)) := by
  rw [rollByte, Nat.testBit_ofBits]
  split <;> simp_all

theorem rollByte_lt (byte : Nat) : rollByte bits byte < 2 ^ bits := Nat.ofBits_lt_two_pow _

/-- Rolling twice is no change, whatever stands above the rolled bits. -/
theorem rollByte_rollByte {byte above : Nat} (h : byte < 2 ^ bits) :
    rollByte bits (above * 2 ^ bits + rollByte bits byte) = byte := by
  apply Nat.eq_of_testBit_eq
  intro i
  rw [testBit_rollByte]
  by_cases hi : i < bits
  · have hlow : bits - i - 1 < bits := by omega
    have hback : bits - (bits - i - 1) - 1 = i := by omega
    rw [Nat.mul_comm, Nat.testBit_two_pow_mul_add _ (rollByte_lt byte), if_pos hlow,
      testBit_rollByte, hback]
    simp [hi, hlow]
  · have hle : 2 ^ bits ≤ 2 ^ i := Nat.pow_le_pow_right (by decide) (Nat.le_of_not_lt hi)
    rw [Nat.testBit_lt_two_pow (h.trans_le hle)]
    simp [hi]

/-! ## Words on the wire -/

namespace WordFormat

/-- A word is made of whole bytes, and the mask stands above the bits of a byte. -/
structure Lawful (fmt : WordFormat) : Prop where
  wordSize_mul : fmt.byteBits * fmt.wordSize = fmt.wordBits
  byteBits_le : fmt.byteBits ≤ 8
  mask_above : ∃ above, fmt.mask.toNat = above * 2 ^ fmt.byteBits

variable {fmt : WordFormat} (h : fmt.Lawful)

theorem writeWord_eq (word : Nat) :
    fmt.writeWord word = (splits fmt.byteBits word fmt.wordSize).map fmt.writeByte := by
  simp [writeWord, splits]

@[simp] theorem length_writeWord (word : Nat) : (fmt.writeWord word).length = fmt.wordSize := by
  simp [writeWord]

include h

theorem readByte_writeByte {byte : Nat} (hbyte : byte < 2 ^ fmt.byteBits) :
    fmt.readByte (fmt.writeByte byte) = byte := by
  have hle : 2 ^ fmt.byteBits ≤ 2 ^ 8 := Nat.pow_le_pow_right (by decide) h.byteBits_le
  rw [writeByte]
  split
  · rename_i hmask
    obtain ⟨above, habove⟩ := h.mask_above
    have hroll : rollByte fmt.byteBits byte < 2 ^ fmt.byteBits := rollByte_lt byte
    have hset : (UInt8.ofNat (rollByte fmt.byteBits byte) ||| fmt.mask) &&& fmt.mask =
        fmt.mask := by
      apply UInt8.toNat_inj.mp
      apply Nat.eq_of_testBit_eq
      intro i
      rw [UInt8.toNat_and, UInt8.toNat_or, Nat.testBit_and, Nat.testBit_or]
      cases fmt.mask.toNat.testBit i <;> simp
    have hvalue : (UInt8.ofNat (rollByte fmt.byteBits byte) ||| fmt.mask).toNat =
        above * 2 ^ fmt.byteBits + rollByte fmt.byteBits byte := by
      rw [UInt8.toNat_or, UInt8.toNat_ofNat', Nat.mod_eq_of_lt (hroll.trans_le hle), habove,
        Nat.or_comm, ← Nat.shiftLeft_eq, ← Nat.shiftLeft_add_eq_or_of_lt hroll]
    rw [readByte, if_pos ⟨hmask, hset⟩, hvalue, rollByte_rollByte hbyte]
  · rename_i hmask
    rw [readByte, if_neg (fun hboth => hmask hboth.1), UInt8.toNat_ofNat',
      Nat.mod_eq_of_lt (hbyte.trans_le hle)]

/-- **A word on the wire** is read as it was written. -/
theorem readWord_writeWord {word : Nat} (hword : word < 2 ^ fmt.wordBits)
    (before rest : List UInt8) :
    fmt.readWord (before ++ (fmt.writeWord word ++ rest)) before.length = word := by
  have hbytes : ∀ val, ∀ byte ∈ splits fmt.byteBits word fmt.wordSize,
      combineWord fmt.byteBits (fmt.readByte (fmt.writeByte byte)) val =
        combineWord fmt.byteBits byte val := by
    intro val byte hbyte
    obtain ⟨w, -, rfl⟩ := List.mem_map.mp hbyte
    rw [readByte_writeByte h (splitWord_lt word _)]
  rw [readWord, List.drop_left, List.take_left' (length_writeWord word), writeWord_eq,
    List.foldl_map, List.foldl_ext _ _ 0 hbytes, ← combine, combine_splits, h.wordSize_mul,
    Nat.mod_eq_of_lt hword]

theorem readWord_all {words : List Nat} (hwords : ∀ w ∈ words, w < 2 ^ fmt.wordBits)
    (before rest : List UInt8) :
    (List.range words.length).map (fun i => fmt.readWord
      (before ++ ((words.map fmt.writeWord).flatten ++ rest)) (before.length + i * fmt.wordSize)) =
      words := by
  induction words generalizing before with
  | nil => rfl
  | cons word words ih =>
      obtain ⟨hword, hwords⟩ := List.forall_mem_cons.mp hwords
      have hlater := ih hwords (before ++ fmt.writeWord word)
      rw [List.length_cons, List.range_succ_eq_map, List.map_cons, List.map_map, List.map_cons,
        List.flatten_cons, List.append_assoc, Nat.zero_mul, Nat.add_zero,
        readWord_writeWord h hword]
      congr 1
      rw [List.append_assoc, List.length_append, length_writeWord] at hlater
      nth_rewrite 3 [← hlater]
      apply List.map_congr_left
      intro i _
      rw [Function.comp_apply, Nat.succ_mul, Nat.add_comm (i * fmt.wordSize), Nat.add_assoc]

/-- Words are loaded as they were written. -/
theorem loadData_writeWord {words : List Nat} (hwords : ∀ w ∈ words, w < 2 ^ fmt.wordBits)
    (data : List Nat) (rest : List UInt8) :
    fmt.loadData data ((words.map fmt.writeWord).flatten ++ rest) words.length = data ++ words := by
  have hall := readWord_all h hwords [] rest
  simp only [List.nil_append, List.length_nil, Nat.zero_add] at hall
  rw [loadData, hall]

end WordFormat

/-! ## Attributes -/

namespace WordFormat

/-- The bits above the attributes are not assigned. -/
theorem assignFrom_mod {sizes : List Nat} {n : Nat} (h : sizes.sum ≤ n) (value : Nat) :
    assignFrom (value % 2 ^ n) sizes = assignFrom value sizes := by
  induction sizes with
  | nil => rfl
  | cons size sizes ih =>
      rw [List.sum_cons] at h
      rw [assignFrom, assignFrom, ih (by omega)]
      congr 1
      apply Nat.eq_of_testBit_eq
      intro i
      simp only [Nat.testBit_mod_two_pow, Nat.testBit_shiftRight]
      by_cases hi : i < size
      · have hlt : sizes.sum + i < n := by omega
        simp [hi, hlt]
      · simp [hi]

/-- Attributes that fit are assigned the values they were extracted from. -/
theorem assignFrom_extractFrom {attrs : List (Nat × Nat)} (h : Fits attrs) :
    assignFrom (extractFrom attrs) (attrs.map Prod.fst) = attrs.map Prod.snd := by
  induction attrs with
  | nil => rfl
  | cons attr attrs ih =>
      obtain ⟨size, value⟩ := attr
      obtain ⟨hvalue, hattrs⟩ := fits_cons.mp h
      have hlt := extractFrom_lt hattrs
      have hsum : (attrs.map Prod.fst).sum = countBits attrs := rfl
      rw [extractFrom_cons hattrs, List.map_cons, List.map_cons, assignFrom, hsum]
      congr 1
      · rw [Nat.shiftRight_eq_div_pow, Nat.mul_comm, Nat.mul_add_div (Nat.two_pow_pos _),
          Nat.div_eq_of_lt hlt, Nat.add_zero, Nat.mod_eq_of_lt hvalue]
      · rw [← ih hattrs, ← assignFrom_mod hsum.le, Nat.mul_comm, Nat.mul_add_mod,
          Nat.mod_eq_of_lt hlt]

end WordFormat

/-! ## Words of one byte -/

/-- The manager of an RTCM 3 message. -/
def byteFormat : WordFormat := { wordBits := 8, byteBits := 8 }

theorem byteFormat_readWord (bytes : List UInt8) (pos : Nat) :
    byteFormat.readWord bytes pos = (bytes.getD pos 0).toNat := by
  have hread : ∀ byte : UInt8, byteFormat.readByte byte = byte.toNat :=
    fun _ => if_neg fun h => absurd h.1 (by decide)
  have hsize : byteFormat.wordSize = 1 := rfl
  rw [WordFormat.readWord, hsize, List.getD_eq_getElem?_getD, ← List.head?_drop]
  cases bytes.drop pos with
  | nil => rfl
  | cons byte rest =>
      have hlt : byte.toNat < 2 ^ 8 := byte.toNat_lt
      rw [List.take_one, List.head?_cons, Option.toList_some, List.foldl_cons, List.foldl_nil,
        combineWord_eq, hread]
      show 0 * 2 ^ 8 + byte.toNat % 2 ^ 8 = byte.toNat
      omega

/-- What the RTCM 3 messages load. -/
theorem loadData_byteFormat (data bytes : List UInt8) (n : Nat) :
    byteFormat.loadData (data.map UInt8.toNat) bytes n =
      (data ++ readWords bytes n).map UInt8.toNat := by
  have hsize : byteFormat.wordSize = 1 := rfl
  rw [WordFormat.loadData, List.map_append, readWords, List.map_map]
  congr 1
  apply List.map_congr_left
  intro i _
  rw [byteFormat_readWord, hsize, Nat.mul_one, Function.comp_apply]

theorem combineWords_eq_combine (words : List UInt8) :
    combineWords words = combine 8 (words.map UInt8.toNat) := by
  rw [combineWords, combine, List.foldl_map]
  apply List.foldl_ext
  intro value word _
  have hlt : word.toNat < 2 ^ 8 := word.toNat_lt
  rw [combineWord_eq, Nat.mod_eq_of_lt hlt]

/-- What they assign. -/
theorem assignData_byteFormat {words : List UInt8} {sizes : List Nat} {n : Nat}
    (hsizes : sizes.sum = 8 * n) (hn : n ≤ words.length) :
    byteFormat.assignData (words.map UInt8.toNat) sizes =
      some (WordFormat.assignFrom (combineWords (words.take n)) sizes,
        (words.drop n).map UInt8.toNat) := by
  have hwords : sizes.sum / byteFormat.wordBits = n := by
    rw [hsizes]
    exact Nat.mul_div_cancel_left n (by decide)
  simp only [WordFormat.assignData, hwords, List.length_map]
  rw [if_neg (Nat.not_lt.mpr hn), combineWords_eq_combine, combine, List.map_take, List.map_drop]
  rfl

theorem byteFormat_writeWord (word : Nat) : byteFormat.writeWord word = [UInt8.ofNat word] := by
  have hbyte : byteFormat.writeWord word = [UInt8.ofNat (word % 2 ^ 8)] := rfl
  rw [hbyte]
  congr 1
  apply UInt8.toNat_inj.mp
  rw [UInt8.toNat_ofNat', UInt8.toNat_ofNat', Nat.mod_mod]

/-- What they extract, and write to the wire. -/
theorem extractWords_byteFormat {attrs : List (Nat × Nat)} {n : Nat} (h : countBits attrs = 8 * n) :
    ((byteFormat.extractWords attrs).map byteFormat.writeWord).flatten =
      splitWords (extractFrom attrs) n := by
  have hwords : countBits attrs / byteFormat.wordBits = n := by
    rw [h]
    exact Nat.mul_div_cancel_left n (by decide)
  have hword : ∀ w, byteFormat.writeWord (splitWord 8 (extractFrom attrs) (n - w - 1)) =
      [UInt8.ofNat (extractFrom attrs >>> (8 * (n - w - 1)))] := by
    intro w
    rw [byteFormat_writeWord, splitWord]
    congr 1
    apply UInt8.toNat_inj.mp
    rw [UInt8.toNat_ofNat', UInt8.toNat_ofNat', Nat.mod_mod]
  simp only [WordFormat.extractWords, hwords, List.map_map]
  rw [← List.flatMap_def]
  show (List.range n).flatMap
    (fun w => byteFormat.writeWord (splitWord 8 (extractFrom attrs) (n - w - 1))) = _
  simp only [hword]
  rw [← List.map_eq_flatMap, splitWords]

/-- The header of an RTCM 3 message is what the manager assigns. -/
theorem assignHeader_eq_assignData (m : Rtcm3Message) (bytes : List UInt8) :
    byteFormat.assignData (byteFormat.loadData (m.data.map UInt8.toNat) bytes headerBytes)
        [8, 6, 10] =
      some ([(m.assignHeader bytes).preamble, (m.assignHeader bytes).reserved,
        (m.assignHeader bytes).messageLength], (m.assignHeader bytes).data.map UInt8.toNat) := by
  rw [loadData_byteFormat, assignData_byteFormat (n := headerBytes) rfl
    (by simp [readWords])]
  simp [WordFormat.assignFrom, Rtcm3Message.assignHeader, Nat.shiftRight_eq_div_pow]

/-- The contents of an RTCM 3 message are what it writes: its attributes, words of its buffer, and
the CRC. -/
theorem getContents_eq_writeWord {m : Rtcm3Message} {contents : List UInt8}
    (h : m.getContents = some contents) :
    contents = ((byteFormat.extractWords m.headerAttrs ++
      (m.data.take (m.messageLength - attrBytes)).map UInt8.toNat ++
      byteFormat.extractWords [(24, m.crc)]).map byteFormat.writeWord).flatten := by
  have hdata : ∀ words : List UInt8,
      ((words.map UInt8.toNat).map byteFormat.writeWord).flatten = words := by
    intro words
    simp [Function.comp_def, byteFormat_writeWord, ← List.flatMap_def]
  rw [Rtcm3Message.getContents] at h
  split at h
  · cases h
  · cases h
    rw [List.map_append, List.map_append, List.flatten_append, List.flatten_append, hdata,
      extractWords_byteFormat (n := 6) rfl, extractWords_byteFormat (n := 3) rfl]

end V2XHub.Rtcm
