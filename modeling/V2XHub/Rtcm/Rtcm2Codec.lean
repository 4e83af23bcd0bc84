import V2XHub.Rtcm.Rtcm2

/-!
# The RTCM 2 codec

`Rtcm2Frame` is a message on the wire, independent of the decoder: header fields, data words, and
the ending of the word that went before, which the receiver does not see. The main result is that a
new message recovers all of it (`setContents_recovers_frame`). The trial of the four endings finds
the right one: with a wrong last bit the preamble is the complement of what it should be, and with a
wrong bit before it a parity bit is wrong.
-/

namespace V2XHub.Rtcm

open Lib

/-! ## Parity -/

theorem parityEquation_some {i n : Nat} {positions : List Nat}
    (h : parityEquation i = some (n, positions)) :
    (n = 29 ∨ n = 30) ∧ ∀ k ∈ positions, k ≤ 24 := by
  unfold parityEquation at h
  split at h <;> cases h <;> decide

theorem parityEquation_eq_none_iff {i : Nat} : parityEquation i = none ↔ 6 ≤ i := by
  match i with
  | 0 | 1 | 2 | 3 | 4 | 5 => exact iff_of_false nofun (by decide)
  | i + 6 => exact iff_of_true rfl (Nat.le_add_left 6 i)

theorem testBit_of_div_eq {word word' i : Nat} (h : word / 2 ^ 6 = word' / 2 ^ 6) (hi : 6 ≤ i) :
    word.testBit i = word'.testBit i := by
  have hbit : ∀ w : Nat, w.testBit i = (w / 2 ^ 6).testBit (i - 6) := by
    intro w
    rw [← Nat.shiftRight_eq_div_pow, Nat.testBit_shiftRight]
    congr 1
    omega
  rw [hbit word, hbit word', h]

theorem xorBits_congr {positions : List Nat} (hpositions : ∀ k ∈ positions, k ≤ 24)
    {word word' : Nat} (h : word / 2 ^ 6 = word' / 2 ^ 6) :
    xorBits positions word = xorBits positions word' := by
  induction positions with
  | nil => rfl
  | cons k positions ih =>
      obtain ⟨hk, hpositions⟩ := List.forall_mem_cons.mp hpositions
      have hbit : getBit k word = getBit k word' := testBit_of_div_eq h (by omega)
      have hrest : xorBits positions word = xorBits positions word' := ih hpositions
      rw [xorBits, List.foldr_cons, ← xorBits, hbit, hrest, xorBits, xorBits, List.foldr_cons]

/-- Parity depends on the data bits, and on the last two bits of the previous word. -/
theorem addParity_congr {word word' prev prev' : Nat} (h : word / 2 ^ 6 = word' / 2 ^ 6)
    (hprev : prev % 2 ^ 2 = prev' % 2 ^ 2) : addParity word prev = addParity word' prev' := by
  have hlast : ∀ n, n = 29 ∨ n = 30 → getBit n prev = getBit n prev' := by
    intro n hn
    have hbit : ∀ w : Nat, w.testBit (30 - n) = (w % 2 ^ 2).testBit (30 - n) := by
      intro w
      have hlt : 30 - n < 2 := by omega
      rw [Nat.testBit_mod_two_pow, decide_eq_true hlt, Bool.true_and]
    rw [getBit, getBit, hbit prev, hbit prev', hprev]
  rw [addParity, addParity]
  congr 1
  funext i
  cases hrow : parityEquation i with
  | none => exact testBit_of_div_eq h (parityEquation_eq_none_iff.mp hrow)
  | some row =>
      obtain ⟨n, positions⟩ := row
      obtain ⟨hn, hpositions⟩ := parityEquation_some hrow
      simp only
      rw [hlast n hn, xorBits_congr hpositions h]

theorem addParity_lt (word prev : Nat) : addParity word prev < 2 ^ 30 := Nat.ofBits_lt_two_pow _

/-- The data bits are not changed. -/
theorem addParity_div {word : Nat} (h : word < 2 ^ 30) (prev : Nat) :
    addParity word prev / 2 ^ 6 = word / 2 ^ 6 := by
  apply Nat.eq_of_testBit_eq
  intro i
  simp only [← Nat.shiftRight_eq_div_pow, Nat.testBit_shiftRight]
  rw [addParity, Nat.testBit_ofBits]
  split
  · rw [parityEquation_eq_none_iff.mpr (Nat.le_add_right 6 i)]
  · rename_i hi
    exact (Nat.testBit_lt_two_pow (h.trans_le (Nat.pow_le_pow_right (by decide) (by omega)))).symm

theorem testBit_addParity {i n : Nat} {positions : List Nat} (hi : i < 30)
    (hrow : parityEquation i = some (n, positions)) (word prev : Nat) :
    (addParity word prev).testBit i = (getBit n prev ^^ xorBits positions word) := by
  rw [addParity, Nat.testBit_ofBits_lt _ i hi]
  simp only [hrow]

/-- **Parity tells the ending** of the previous word. -/
theorem mod_eq_of_addParity_eq {word prev prev' : Nat}
    (h : addParity word prev = addParity word prev') : prev % 2 ^ 2 = prev' % 2 ^ 2 := by
  have hbit : ∀ i n positions, i < 30 → parityEquation i = some (n, positions) →
      getBit n prev = getBit n prev' := by
    intro i n positions hi hrow
    have htest := congrArg (Nat.testBit · i) h
    simp only [testBit_addParity hi hrow] at htest
    exact Bool.xor_left_inj.mp htest
  have hlast : prev.testBit 1 = prev'.testBit 1 := hbit 5 29 _ (by decide) rfl
  have hlast' : prev.testBit 0 = prev'.testBit 0 := hbit 4 30 _ (by decide) rfl
  apply Nat.eq_of_testBit_eq
  intro i
  rw [Nat.testBit_mod_two_pow, Nat.testBit_mod_two_pow]
  by_cases hi : i < 2
  · obtain rfl | rfl : i = 0 ∨ i = 1 := by omega
    · rw [hlast']
    · rw [hlast]
  · simp [hi]

theorem parityMatches_iff {word prev : Nat} :
    parityMatches word prev ↔ word = addParity word prev :=
  decide_eq_true_iff

/-- A word with its parity added passes the check. -/
theorem parityMatches_addParity {word : Nat} (h : word < 2 ^ 30) {prev prev' : Nat}
    (hprev : prev % 2 ^ 2 = prev' % 2 ^ 2) : parityMatches (addParity word prev) prev' := by
  rw [parityMatches_iff]
  exact addParity_congr (addParity_div h prev).symm hprev

/-! ## Complements -/

theorem complement_complement (word : Nat) : word ^^^ dataBitmask ^^^ dataBitmask = word := by
  rw [Nat.xor_assoc, Nat.xor_self, Nat.xor_zero]

theorem complement_lt {word : Nat} (h : word < 2 ^ 30) : word ^^^ dataBitmask < 2 ^ 30 :=
  Nat.xor_lt_two_pow h (by decide)

/-- The parity bits are not complemented. -/
theorem complement_mod (word : Nat) : (word ^^^ dataBitmask) % 2 ^ 6 = word % 2 ^ 6 := by
  have hmask : dataBitmask % 2 ^ 6 = 0 := by decide
  rw [Nat.xor_mod_two_pow, hmask, Nat.xor_zero]

/-- The first bits are. -/
theorem complement_shiftRight (word : Nat) :
    (word ^^^ dataBitmask) >>> (30 - 8) = word >>> (30 - 8) ^^^ 0xFF := by
  have hmask : dataBitmask >>> (30 - 8) = 0xFF := by decide
  rw [Nat.shiftRight_xor_distrib, hmask]

theorem complementAfter_congr {prev prev' : Nat} (h : prev % 2 = prev' % 2) (word : Nat) :
    complementAfter prev word = complementAfter prev' word := by
  rw [complementAfter, complementAfter, h]

@[simp] theorem complementAfter_complementAfter (prev word : Nat) :
    complementAfter prev (complementAfter prev word) = word := by
  rw [complementAfter, complementAfter]
  split
  · exact complement_complement word
  · rfl

theorem complementAfter_lt (prev : Nat) {word : Nat} (h : word < 2 ^ 30) :
    complementAfter prev word < 2 ^ 30 := by
  rw [complementAfter]
  split
  · exact complement_lt h
  · exact h

@[simp] theorem complementAfter_mod (prev word : Nat) :
    complementAfter prev word % 2 = word % 2 := by
  rw [complementAfter]
  split
  · have := complement_mod word
    omega
  · rfl

/-! ## Words on the wire -/

/-- Six bits of a word in a byte: turned round, with the marker. -/
def wireByte (six : Nat) : UInt8 :=
  UInt8.ofNat (0x40 + (six % 2 * 32 + six / 2 % 2 * 16 + six / 4 % 2 * 8 + six / 8 % 2 * 4 +
    six / 16 % 2 * 2 + six / 32 % 2))

/-- A word of thirty bits in five bytes. -/
def wireWord (word : Nat) : List UInt8 :=
  [wireByte (word / 2 ^ 24), wireByte (word / 2 ^ 18), wireByte (word / 2 ^ 12),
    wireByte (word / 2 ^ 6), wireByte word]

/-- The words as they are sent behind `prev`, by the rule of GPS. -/
def transmit : Nat → List Nat → List Nat
  | _, [] => []
  | prev, word :: words => complementAfter prev word :: transmit word words

theorem rtcm2Format_lawful : rtcm2Format.Lawful := ⟨rfl, by decide, 1, by decide⟩

theorem writeByte_eq_wireByte {six : Nat} (h : six < 2 ^ 6) :
    rtcm2Format.writeByte six = wireByte six := by
  have hall : ∀ six : Fin 64, rtcm2Format.writeByte six = wireByte six := by decide +kernel
  exact hall ⟨six, h⟩

theorem wireByte_mod (six : Nat) : wireByte (six % 2 ^ 6) = wireByte six := by
  simp only [wireByte]
  congr 1
  omega

/-- The manager writes words as they are on the wire. -/
theorem writeWord_eq_wireWord (word : Nat) : rtcm2Format.writeWord word = wireWord word := by
  have hbyte : ∀ pos,
      rtcm2Format.writeByte (splitWord 6 word pos) = wireByte (word / 2 ^ (6 * pos)) := by
    intro pos
    rw [writeByte_eq_wireByte (splitWord_lt word pos), splitWord, wireByte_mod,
      Nat.shiftRight_eq_div_pow]
  show [rtcm2Format.writeByte (splitWord 6 word 4), rtcm2Format.writeByte (splitWord 6 word 3),
    rtcm2Format.writeByte (splitWord 6 word 2), rtcm2Format.writeByte (splitWord 6 word 1),
    rtcm2Format.writeByte (splitWord 6 word 0)] = wireWord word
  simp only [hbyte, wireWord, Nat.mul_zero, Nat.pow_zero, Nat.div_one]

/-! ## Frames -/

/-- A message on the wire: header fields, data words, and the last two bits of the word before. -/
structure Rtcm2Frame where
  frameID : Nat
  stationID : Nat
  modifiedZCount : Nat
  sequenceNumber : Nat
  stationHealth : Nat
  words : List Nat
  ending : Nat
  frameID_lt : frameID < 2 ^ 6
  stationID_lt : stationID < 2 ^ 10
  modifiedZCount_lt : modifiedZCount < 2 ^ 13
  sequenceNumber_lt : sequenceNumber < 2 ^ 3
  stationHealth_lt : stationHealth < 2 ^ 3
  words_lt : ∀ word ∈ words, word < 2 ^ 30
  length_lt : words.length < 2 ^ 5
  ending_lt : ending < 2 ^ 2

namespace Rtcm2Frame

variable (f : Rtcm2Frame)

/-- The data bits of the first header word. -/
def data1 : Nat := 0x66 * 2 ^ 22 + f.frameID * 2 ^ 16 + f.stationID * 2 ^ 6

/-- The data bits of the second. -/
def data2 : Nat :=
  f.modifiedZCount * 2 ^ 17 + f.sequenceNumber * 2 ^ 14 + f.words.length * 2 ^ 9 +
    f.stationHealth * 2 ^ 6

def word1 : Nat := addParity f.data1 f.ending

def word2 : Nat := addParity f.data2 f.word1

/-- All words, as they are sent. -/
def sentWords : List Nat := transmit f.ending (f.word1 :: f.word2 :: f.words)

def bytes : List UInt8 := (f.sentWords.map wireWord).flatten

/-- What a message should have in its attributes. -/
def attrs : List (Nat × Nat) :=
  [(8, 0x66), (6, f.frameID), (10, f.stationID), (6, f.word1 % 2 ^ 6), (13, f.modifiedZCount),
    (3, f.sequenceNumber), (5, f.words.length), (3, f.stationHealth), (6, f.word2 % 2 ^ 6)]

theorem fits_attrs : Fits f.attrs := by
  simp only [attrs, fits_cons, fits_nil, and_true]
  exact ⟨by decide, f.frameID_lt, f.stationID_lt, Nat.mod_lt _ (by decide), f.modifiedZCount_lt,
    f.sequenceNumber_lt, f.length_lt, f.stationHealth_lt, Nat.mod_lt _ (by decide)⟩

theorem data1_lt : f.data1 < 2 ^ 30 := by
  have hframe := f.frameID_lt
  have hstation := f.stationID_lt
  rw [data1]
  omega

theorem data2_lt : f.data2 < 2 ^ 30 := by
  have hcount := f.modifiedZCount_lt
  have hsequence := f.sequenceNumber_lt
  have hlength := f.length_lt
  have hhealth := f.stationHealth_lt
  rw [data2]
  omega

theorem word1_div : f.word1 / 2 ^ 6 = f.data1 / 2 ^ 6 := addParity_div f.data1_lt _

theorem word2_div : f.word2 / 2 ^ 6 = f.data2 / 2 ^ 6 := addParity_div f.data2_lt _

theorem word1_lt : f.word1 < 2 ^ 30 := addParity_lt _ _

theorem word2_lt : f.word2 < 2 ^ 30 := addParity_lt _ _

/-- The attributes are the two header words. -/
theorem extractFrom_attrs : extractFrom f.attrs = f.word1 * 2 ^ 30 + f.word2 := by
  have hdiv1 := f.word1_div
  have hdiv2 := f.word2_div
  rw [data1] at hdiv1
  rw [data2] at hdiv2
  rw [extractFrom_eq_packed f.fits_attrs]
  simp only [attrs, packed, countBits, List.map_cons, List.map_nil, List.sum_cons, List.sum_nil]
  omega

theorem extractWords_attrs : rtcm2Format.extractWords f.attrs = [f.word1, f.word2] := by
  have hcount : countBits f.attrs / rtcm2Format.wordBits = 2 := by
    simp [countBits, attrs, rtcm2Format]
  have hlt := f.word2_lt
  have hlt1 := f.word1_lt
  simp only [WordFormat.extractWords, hcount]
  show splits 30 (extractFrom f.attrs) 2 = [f.word1, f.word2]
  rw [f.extractFrom_attrs, splits_succ, splits_succ]
  simp only [splits, List.range_zero, List.map_nil, List.nil_append, List.singleton_append]
  congr 1
  · omega
  · congr 1
    omega

/-! ### The ending of the unseen word -/

theorem word1_shiftRight : f.word1 >>> (30 - 8) = Rtcm2Message.preambleValue := by
  have hframe := f.frameID_lt
  have hstation := f.stationID_lt
  have hdiv := f.word1_div
  rw [data1] at hdiv
  rw [Nat.shiftRight_eq_div_pow, Rtcm2Message.preambleValue]
  omega

/-- The first word, as it is sent. -/
def sent1 : Nat := complementAfter f.ending f.word1

/-- The second. -/
def sent2 : Nat := complementAfter f.word1 f.word2

theorem sent1_mod : f.sent1 % 2 = f.word1 % 2 := complementAfter_mod _ _

end Rtcm2Frame

/-- An ending of the previous word makes a first word right: it has the preamble and the parity. -/
def EndsRight (sent p : Nat) : Prop :=
  complementAfter p sent >>> (30 - 8) = Rtcm2Message.preambleValue ∧
    parityMatches (complementAfter p sent) p

/-- **One ending is right**, that of the word that was sent before. -/
theorem Rtcm2Frame.endsRight_iff (f : Rtcm2Frame) {p : Nat} (hp : p < 2 ^ 2) :
    EndsRight f.sent1 p ↔ p = f.ending := by
  constructor
  · rintro ⟨hpreamble, hparity⟩
    by_cases hlast : p % 2 = f.ending % 2
    · -- the data bits are right, so the parity tells
      have hword : complementAfter p f.sent1 = f.word1 := by
        rw [complementAfter_congr hlast, sent1, complementAfter_complementAfter]
      rw [hword, parityMatches_iff] at hparity
      have hsame : addParity f.word1 f.ending = f.word1 := addParity_congr f.word1_div rfl
      have hmod := mod_eq_of_addParity_eq (hparity.symm.trans hsame.symm)
      have hending := f.ending_lt
      omega
    · -- the preamble is complemented
      have hword : complementAfter p f.sent1 = f.word1 ^^^ dataBitmask := by
        rw [sent1, complementAfter, complementAfter]
        split <;> split
        · omega
        · rfl
        · rfl
        · omega
      rw [hword, complement_shiftRight, f.word1_shiftRight] at hpreamble
      exact absurd hpreamble (by decide)
  · rintro rfl
    rw [EndsRight, sent1, complementAfter_complementAfter]
    exact ⟨f.word1_shiftRight, parityMatches_addParity f.data1_lt rfl⟩

namespace Rtcm2Message

/-- **The trial**: complementing once more for each ending, it stops at the one that is right. -/
theorem trial_eq {sent ending : Nat} (hending : ending < 2 ^ 2)
    (h : ∀ p, p < 2 ^ 2 → (EndsRight sent p ↔ p = ending)) :
    trial [0, 1, 2, 3] sent = (ending, some (complementAfter ending sent)) := by
  have heven : ∀ p, p % 2 = 0 → complementAfter p sent = sent := fun p hp => if_neg (by omega)
  have hodd : ∀ p, p % 2 = 1 → complementAfter p sent = sent ^^^ dataBitmask :=
    fun p hp => if_pos hp
  have h0 := h 0 (by decide)
  have h1 := h 1 (by decide)
  have h2 := h 2 (by decide)
  have h3 := h 3 (by decide)
  rw [EndsRight, heven 0 rfl] at h0
  rw [EndsRight, hodd 1 rfl] at h1
  rw [EndsRight, heven 2 rfl] at h2
  rw [EndsRight, hodd 3 rfl] at h3
  obtain rfl | rfl | rfl | rfl : ending = 0 ∨ ending = 1 ∨ ending = 2 ∨ ending = 3 := by omega
  · simp [trial, h0, heven]
  · simp [trial, h0, h1, hodd]
  · simp [trial, h0, h1, h2, heven]
  · simp [trial, h0, h1, h2, h3, hodd]

/-! ## Every search ends -/

/-- A round that is not the last drops a byte. -/
theorem attempt_again {m m' : Rtcm2Message} (h : attempt m = .again m') :
    m'.bytes.length < m.bytes.length := by
  have hle : (search m.bytes).length ≤ m.bytes.length := (List.dropWhile_suffix _).length_le
  simp only [attempt] at h
  split at h
  · cases h
  · rename_i henough
    split at h
    · cases h
    · split at h
      · cases h
      · cases h
        have hpos : 0 < headerWords * rtcm2Format.wordSize := by decide
        rw [List.length_drop]
        omega

/-- **Returning**: the rounds `set_contents` has suffice. -/
theorem setContents_returns (m : Rtcm2Message) (input : List UInt8) :
    ∃ r, loop attempt (input.length + 1) { m with bytes := input } = some r :=
  loop_returns (I := fun _ => True) (fun m => m.bytes.length)
    (fun _ _ _ h => ⟨trivial, attempt_again h⟩) trivial (Nat.lt_succ_self _)

/-! ## Decoding a frame -/

variable (f : Rtcm2Frame) (rest : List UInt8)

/-- The bytes behind the header. -/
def dataBytes : List UInt8 := ((transmit f.word2 f.words).map wireWord).flatten

theorem wireWord_flatten (words : List Nat) :
    (words.map wireWord).flatten = (words.map rtcm2Format.writeWord).flatten := by
  have hword : wireWord = rtcm2Format.writeWord :=
    funext fun word => (writeWord_eq_wireWord word).symm
  rw [hword]

theorem bytes_eq : f.bytes = wireWord f.sent1 ++ (wireWord f.sent2 ++ dataBytes f) := rfl

theorem length_wireWord (word : Nat) : (wireWord word).length = 5 := rfl

theorem length_transmit (prev : Nat) (words : List Nat) :
    (transmit prev words).length = words.length := by
  induction words generalizing prev with
  | nil => rfl
  | cons word words ih => rw [transmit, List.length_cons, List.length_cons, ih]

theorem transmit_lt {words : List Nat} (h : ∀ word ∈ words, word < 2 ^ 30) (prev : Nat) :
    ∀ word ∈ transmit prev words, word < 2 ^ 30 := by
  induction words generalizing prev with
  | nil => exact fun word hword => nomatch hword
  | cons word words ih =>
      obtain ⟨hword, hwords⟩ := List.forall_mem_cons.mp h
      exact List.forall_mem_cons.mpr ⟨complementAfter_lt prev hword, ih hwords word⟩

theorem length_dataBytes : (dataBytes f).length = 5 * f.words.length := by
  have hlengths : ∀ words : List Nat, ((words.map wireWord).flatten).length = 5 * words.length := by
    intro words
    induction words with
    | nil => rfl
    | cons word words ih =>
        rw [List.map_cons, List.flatten_cons, List.length_append, ih, length_wireWord,
          List.length_cons]
        omega
  rw [dataBytes, hlengths, length_transmit]

/-- A frame starts with the preamble, or its complement. -/
theorem search_frame : search (f.bytes ++ rest) = f.bytes ++ rest := by
  have hword := f.word1_shiftRight
  have hfirst : f.sent1 / 2 ^ 24 = 0x19 ∨ f.sent1 / 2 ^ 24 = 0x26 := by
    have hshift : ∀ word : Nat, word / 2 ^ 24 = word >>> (30 - 8) / 2 ^ 2 := by
      intro word
      rw [Nat.shiftRight_eq_div_pow]
      omega
    rw [Rtcm2Frame.sent1, complementAfter]
    split
    · right
      rw [hshift, complement_shiftRight, hword]
      rfl
    · left
      rw [hshift, hword]
      rfl
  have hbytes : f.bytes ++ rest = wireByte (f.sent1 / 2 ^ 24) ::
      ((wireWord f.sent1).tail ++ (wireWord f.sent2 ++ dataBytes f) ++ rest) := rfl
  have hstart : (wireByte (f.sent1 / 2 ^ 24)).toNat = preambleValue ∨
      (wireByte (f.sent1 / 2 ^ 24)).toNat = complPreamble := by
    rcases hfirst with h | h <;> rw [h] <;> decide
  rw [hbytes, search, List.dropWhile_cons_of_neg]
  simp only [decide_eq_true_eq]
  rintro ⟨hne, hne'⟩
  exact hstart.elim hne hne'

/-- The message with the header of a frame. -/
def headed (bytes : List UInt8) : Rtcm2Message where
  bytes := bytes
  frameID := f.frameID
  stationID := f.stationID
  parity1 := f.word1 % 2 ^ 6
  modifiedZCount := f.modifiedZCount
  sequenceNumber := f.sequenceNumber
  numberDataWords := f.words.length
  stationHealth := f.stationHealth
  parity2 := f.word2 % 2 ^ 6
  primerWord := f.ending

theorem headerAttrs_headed (bytes : List UInt8) : (headed f bytes).headerAttrs = f.attrs := rfl

theorem loadData_header :
    rtcm2Format.loadData [] (f.bytes ++ rest) headerWords = [f.sent1, f.sent2] := by
  have hbytes : f.bytes ++ rest =
      ([f.sent1, f.sent2].map rtcm2Format.writeWord).flatten ++ (dataBytes f ++ rest) := by
    rw [bytes_eq, ← wireWord_flatten]
    simp
  have hwords : ∀ word ∈ [f.sent1, f.sent2], word < 2 ^ rtcm2Format.wordBits := by
    simp only [List.forall_mem_cons, List.not_mem_nil, false_implies, implies_true, and_true]
    exact ⟨complementAfter_lt _ f.word1_lt, complementAfter_lt _ f.word2_lt⟩
  rw [hbytes]
  exact WordFormat.loadData_writeWord rtcm2Format_lawful hwords [] _

theorem prime_sent : prime 0 [f.sent1, f.sent2] = (f.ending, [f.word1, f.sent2]) := by
  have htrial := trial_eq f.ending_lt fun p hp => f.endsRight_iff hp
  have hword : complementAfter f.ending f.sent1 = f.word1 := complementAfter_complementAfter _ _
  rw [hword] at htrial
  simp [prime, htrial]

theorem assignHeader_words {m : Rtcm2Message} (hdata : m.data = [f.word1, f.word2]) :
    rtcm2Format.assignData m.data headerSizes = some (f.attrs.map Prod.snd, []) := by
  have hcount : headerSizes.sum / rtcm2Format.wordBits = 2 := by decide
  have hvalue : [f.word1, f.word2].foldl
      (fun val word => combineWord rtcm2Format.wordBits word val) 0 = extractFrom f.attrs := by
    have hmod : f.word1 % 2 ^ 30 = f.word1 := Nat.mod_eq_of_lt f.word1_lt
    have hmod' : f.word2 % 2 ^ 30 = f.word2 := Nat.mod_eq_of_lt f.word2_lt
    have hbits : rtcm2Format.wordBits = 30 := rfl
    rw [f.extractFrom_attrs, hbits, List.foldl_cons, List.foldl_cons, List.foldl_nil,
      combineWord_eq, combineWord_eq, hmod, hmod', Nat.zero_mul, Nat.zero_add]
  have hsizes : headerSizes = f.attrs.map Prod.fst := rfl
  simp only [WordFormat.assignData, hcount, hdata]
  have hfew : ¬ 2 > [f.word1, f.word2].length := Nat.lt_irrefl 2
  rw [if_neg hfew, List.take_of_length_le (Nat.le_refl 2), hvalue, hsizes,
    WordFormat.assignFrom_extractFrom f.fits_attrs]
  rfl

/-- What was stored as the frame id before is overwritten by the header. -/
theorem readHeader_frame (input : List UInt8) (frameID : Nat) :
    ({ bytes := input, frameID := frameID } : Rtcm2Message).readHeader (f.bytes ++ rest) =
      some (headed f (f.bytes ++ rest)) := by
  have hsecond : complementAfter f.word1 f.sent2 = f.word2 := complementAfter_complementAfter _ _
  simp only [readHeader, loadData_header, prime_sent, List.set_cons_succ, List.set_cons_zero,
    List.getD_cons_zero, List.getD_cons_succ, hsecond]
  rw [assignHeader, assignHeader_words f rfl]
  rfl

theorem header1_headed (bytes : List UInt8) : (headed f bytes).header1 = f.word1 := by
  rw [header1, headerAttrs_headed, f.extractWords_attrs, List.getD_cons_zero]

theorem header2_headed (bytes : List UInt8) : (headed f bytes).header2 = f.word2 := by
  rw [header2, headerAttrs_headed, f.extractWords_attrs, List.getD_cons_succ, List.getD_cons_zero]

theorem isValid_headed (bytes : List UInt8) : (headed f bytes).isValid := by
  have hparity1 : parityMatches f.word1 f.ending := parityMatches_addParity f.data1_lt rfl
  have hparity2 : parityMatches f.word2 (f.word1 % 2 ^ 6) :=
    parityMatches_addParity f.data2_lt (Nat.mod_mod_of_dvd f.word1 (by decide)).symm
  rw [isValid, header1_headed, header2_headed, f.word1_shiftRight]
  simp only [headed, hparity1, hparity2]
  rfl

theorem attempt_frame (frameID : Nat) :
    attempt { bytes := f.bytes ++ rest, frameID := frameID } =
      .done (headed f (f.bytes ++ rest), true) := by
  have hlength : ¬ headerWords * rtcm2Format.wordSize > (f.bytes ++ rest).length := by
    rw [bytes_eq, List.length_append, List.length_append, length_wireWord, List.length_append,
      length_wireWord]
    show ¬ 10 > _
    omega
  simp only [attempt, search_frame]
  rw [if_neg hlength, readHeader_frame]
  simp only [isValid_headed, if_true]

/-- The message of a frame. -/
def decoded : Rtcm2Message := { headed f (dataBytes f ++ rest) with data := f.words }

/-- The rule is threaded through all words, whatever the word before is but its last bit. -/
theorem complementData_transmit {prev prev' : Nat} (h : prev % 2 = prev' % 2) (words : List Nat) :
    complementData words.length prev (transmit prev' words) = words := by
  induction words generalizing prev prev' with
  | nil => rfl
  | cons word words ih =>
      have hword : complementAfter prev (complementAfter prev' word) = word := by
        rw [complementAfter_congr h, complementAfter_complementAfter]
      rw [transmit, List.length_cons, complementData, hword, ih rfl]

theorem finish_frame : (headed f (f.bytes ++ rest)).finish = decoded f rest := by
  have hdrop : (f.bytes ++ rest).drop (headerWords * rtcm2Format.wordSize) =
      dataBytes f ++ rest := by
    rw [bytes_eq, ← List.append_assoc (wireWord _), List.append_assoc]
    exact List.drop_left' rfl
  have henough : ¬ (dataBytes f ++ rest).length < rtcm2Format.wordSize * f.words.length := by
    rw [List.length_append, length_dataBytes]
    show ¬ _ < 5 * f.words.length
    omega
  have hload : rtcm2Format.loadData [] (dataBytes f ++ rest) f.words.length =
      transmit f.word2 f.words := by
    rw [dataBytes, wireWord_flatten, ← length_transmit f.word2 f.words]
    exact WordFormat.loadData_writeWord rtcm2Format_lawful (transmit_lt f.words_lt _) [] rest
  have hdata : complementData f.words.length (f.word2 % 2 ^ 6) (transmit f.word2 f.words) =
      f.words := complementData_transmit (Nat.mod_mod_of_dvd f.word2 (by decide)) f.words
  simp only [finish, headed, hdrop]
  rw [if_neg henough, hload, hdata]
  rfl

theorem setContents_numbered (frameID : Nat) :
    setContents { frameID := frameID } (f.bytes ++ rest) = decoded f rest := by
  have hloop : loop attempt ((f.bytes ++ rest).length + 1)
      { bytes := f.bytes ++ rest, frameID := frameID } =
        some (headed f (f.bytes ++ rest), true) := loop_done (attempt_frame f rest frameID) _
  simp only [setContents, hloop, if_true, finish_frame]

theorem setContents_frame : setContents {} (f.bytes ++ rest) = decoded f rest :=
  setContents_numbered f rest 0

/-! ## Encoding it again -/

theorem writeData_eq_transmit {prev prev' : Nat} (h : prev % 2 = prev' % 2) (words : List Nat) :
    writeData prev words = ((transmit prev' words).map wireWord).flatten := by
  induction words generalizing prev prev' with
  | nil => rfl
  | cons word words ih =>
      rw [writeData, transmit, List.map_cons, List.flatten_cons, writeWord_eq_wireWord,
        complementAfter_congr h, ih (complementAfter_mod prev' word)]

/-- **Encoding**: the message of a frame has the frame as its contents. -/
theorem getContents_decoded : (decoded f rest).getContents = f.bytes := by
  have hheader1 : (decoded f rest).header1 = f.word1 :=
    header1_headed f (dataBytes f ++ rest)
  have hheader2 : (decoded f rest).header2 = f.word2 :=
    header2_headed f (dataBytes f ++ rest)
  have hsent2 : complementAfter f.sent1 f.word2 = f.sent2 := complementAfter_congr f.sent1_mod _
  have hsent2_mod : f.sent2 % 2 = f.word2 % 2 := complementAfter_mod _ _
  simp only [getContents, hheader1, hheader2]
  show rtcm2Format.writeWord f.sent1 ++
    rtcm2Format.writeWord (complementAfter f.sent1 f.word2) ++
    writeData (complementAfter f.sent1 f.word2) f.words = f.bytes
  rw [hsent2, writeData_eq_transmit hsent2_mod, writeWord_eq_wireWord, writeWord_eq_wireWord,
    List.append_assoc]
  rfl

theorem isValid_decoded : (decoded f rest).isValid := isValid_headed f (dataBytes f ++ rest)

/-- The message has the header fields and the words of a frame, and knows the ending of the word
that went before. -/
structure Holds (m : Rtcm2Message) (f : Rtcm2Frame) : Prop where
  preamble : m.preamble = 0x66
  frameID : m.frameID = f.frameID
  stationID : m.stationID = f.stationID
  parity1 : m.parity1 = f.word1 % 2 ^ 6
  modifiedZCount : m.modifiedZCount = f.modifiedZCount
  sequenceNumber : m.sequenceNumber = f.sequenceNumber
  numberDataWords : m.numberDataWords = f.words.length
  stationHealth : m.stationHealth = f.stationHealth
  parity2 : m.parity2 = f.word2 % 2 ^ 6
  data : m.data = f.words
  primerWord : m.primerWord = f.ending

theorem decoded_holds : (decoded f rest).Holds f :=
  ⟨rfl, rfl, rfl, rfl, rfl, rfl, rfl, rfl, rfl, rfl, rfl⟩

/-- **The codec**: from a frame in front of any bytes, a new message recovers the header fields, the
words and the ending of the word before the first, which is the only one of the four that makes the
first word right; it is valid, and encodes to the frame. -/
theorem setContents_recovers_frame (f : Rtcm2Frame) (rest : List UInt8) :
    (setContents {} (f.bytes ++ rest)).Holds f ∧
      (∀ p, p < 2 ^ 2 → (EndsRight f.sent1 p ↔ p = f.ending)) ∧
      (setContents {} (f.bytes ++ rest)).isValid ∧
      (setContents {} (f.bytes ++ rest)).getContents = f.bytes := by
  rw [setContents_frame]
  exact ⟨decoded_holds f rest, fun p hp => f.endsRight_iff hp, isValid_decoded f rest,
    getContents_decoded f rest⟩

end Rtcm2Message

end V2XHub.Rtcm
