import Mathlib.Algebra.Group.Nat.Defs
import Mathlib.Data.List.Basic
import Mathlib.Tactic.IntervalCases
import V2XHub.Lib.Loop
import V2XHub.Tmx.MessageManager

/-!
# Byte streams

Payload bytes travel as text, two hexadecimal digits a byte. Writing prints byte after byte. Reading
goes over the characters with an iterator that moves on twice in a round, once in the body and once
in the header of the loop, and the header asks only whether the iterator *is* the end. Behind an odd
last digit it has stepped past the end, and the next round reads there.

A string is the list of its bytes.
-/

namespace V2XHub.Tmx

open V2XHub.Lib

/-! ## Writing -/

/-- One digit of `%02x`. -/
def hexDigit (n : Nat) : UInt8 := UInt8.ofNat (if n < 10 then 48 + n else 87 + n)

/-- `snprintf(buf, 3, "%02x", b)`. -/
def printByte (b : UInt8) : List UInt8 := [hexDigit (b.toNat / 16), hexDigit (b.toNat % 16)]

def byteStreamEncode (bytes : List UInt8) : List UInt8 := bytes.flatMap printByte

/-! ## Reading -/

def isSpace (c : UInt8) : Bool := c = 32 ∨ 9 ≤ c ∧ c ≤ 13

def digitValue (c : UInt8) : Option Nat :=
  if 48 ≤ c ∧ c ≤ 57 then some (c.toNat - 48)
  else if 65 ≤ c ∧ c ≤ 70 then some (c.toNat - 55)
  else if 97 ≤ c ∧ c ≤ 102 then some (c.toNat - 87)
  else none

/-- The digits up to the first character that is none, after some with the value `n`. -/
def readDigits (n : Nat) : List UInt8 → Nat
  | [] => n
  | c :: s =>
      match digitValue c with
      | some d => readDigits (16 * n + d) s
      | none => n

/-- `0x` may come first. -/
def magnitude : List UInt8 → Nat
  | 48 :: 120 :: s => readDigits 0 s
  | 48 :: 88 :: s => readDigits 0 s
  | s => readDigits 0 s

/-- `strtoul(buf, NULL, 16)` for a text too short to overflow: white space, a sign, the digits. A
minus sign negates in `unsigned long`. -/
def strtoul (buf : List UInt8) : Nat :=
  match (buf.takeWhile (· ≠ 0)).dropWhile isSpace with
  | 45 :: s => (2 ^ 64 - magnitude s) % 2 ^ 64
  | 43 :: s => magnitude s
  | s => magnitude s

/-- `(byte_t) strtoul(buf, NULL, 16)`. -/
def readByte (digits : UInt8 × UInt8) : UInt8 := UInt8.ofNat (strtoul [digits.1, digits.2])

structure DecodeState where
  /-- the iterator, as its distance from `begin` -/
  i : Nat := 0
  bytes : List UInt8 := []
  deriving DecidableEq, Repr

/-- A round of the loop of `operator>>`. A read where there is no character has no meaning: the loop
is then over with the place of that read. -/
def decodeRound (str : List UInt8) (s : DecodeState) :
    LoopStep DecodeState (Except Nat (List UInt8)) :=
  if s.i = str.length then .done (.ok s.bytes)
  else
    match str[s.i]? with
    | none => .done (.error s.i)
    | some first =>
        let i := s.i + 1
        if i ≠ str.length then
          match str[i]? with
          | none => .done (.error i)
          | some second => .again { i := i + 1, bytes := s.bytes ++ [readByte (first, second)] }
        else
          .again { i := i + 1, bytes := s.bytes ++ [readByte (first, 48)] }

/-- `byte_stream_decode` ends with `result`. -/
def ByteStreamDecode (str : List UInt8) (result : Except Nat (List UInt8)) : Prop :=
  ∃ fuel, loop (decodeRound str) fuel {} = some result

/-- The characters two by two, the last one completed with a `0` if it is alone. -/
def paired : List UInt8 → List (UInt8 × UInt8)
  | [] => []
  | [c] => [(c, 48)]
  | c :: d :: s => (c, d) :: paired s

@[simp] theorem length_paired (s : List UInt8) : (paired s).length = (s.length + 1) / 2 := by
  fun_induction paired s with
  | case1 => rfl
  | case2 c => simp
  | case3 c d s ih =>
      rw [List.length_cons, ih]
      simp only [List.length_cons]
      omega

/-- The characters from the iterator on, seen from a round of the loop. -/
theorem decodeRound_append {before s : List UInt8} {bytes : List UInt8} :
    decodeRound (before ++ s) ⟨before.length, bytes⟩ =
      match s with
      | [] => .done (.ok bytes)
      | [c] => .again ⟨before.length + 2, bytes ++ [readByte (c, 48)]⟩
      | c :: d :: _ => .again ⟨before.length + 2, bytes ++ [readByte (c, d)]⟩ := by
  match s with
  | [] => simp [decodeRound]
  | [c] => simp [decodeRound]
  | c :: d :: s => simp [decodeRound]

/-- The loop behind some characters, if an even number of them is left. -/
theorem loop_decodeRound_even (before bytes : List UInt8) {s : List UInt8}
    (heven : s.length % 2 = 0) :
    ∃ fuel, loop (decodeRound (before ++ s)) fuel ⟨before.length, bytes⟩ =
      some (.ok (bytes ++ (paired s).map readByte)) := by
  induction s using paired.induct generalizing before bytes with
  | case1 =>
      refine ⟨1, loop_done ?_ 0⟩
      rw [decodeRound_append]
      simp [paired]
  | case2 c => simp at heven
  | case3 c d s ih =>
      have hsplit : before ++ c :: d :: s = (before ++ [c, d]) ++ s := by simp
      obtain ⟨fuel, hloop⟩ := ih (before ++ [c, d]) (bytes ++ [readByte (c, d)])
        (by simp only [List.length_cons] at heven; omega)
      refine ⟨fuel + 1, ?_⟩
      rw [loop_again decodeRound_append, hsplit]
      simpa [paired] using hloop

/-- The loop behind some characters, if an odd number of them is left. -/
theorem loop_decodeRound_odd (before bytes : List UInt8) {s : List UInt8}
    (hodd : s.length % 2 = 1) :
    ∃ fuel, loop (decodeRound (before ++ s)) fuel ⟨before.length, bytes⟩ =
      some (.error (before.length + s.length + 1)) := by
  induction s using paired.induct generalizing before bytes with
  | case1 => simp at hodd
  | case2 c =>
      -- the iterator is past the end in the next round, which reads there
      refine ⟨2, ?_⟩
      rw [loop_again decodeRound_append]
      refine loop_done ?_ 0
      simp [decodeRound]
  | case3 c d s ih =>
      have hsplit : before ++ c :: d :: s = (before ++ [c, d]) ++ s := by simp
      obtain ⟨fuel, hloop⟩ := ih (before ++ [c, d]) (bytes ++ [readByte (c, d)])
        (by simp only [List.length_cons] at hodd; omega)
      refine ⟨fuel + 1, ?_⟩
      rw [loop_again decodeRound_append, hsplit]
      have hlength : before.length + (c :: d :: s).length + 1 =
          (before ++ [c, d]).length + s.length + 1 := by simp; omega
      rw [hlength]
      simpa using hloop

theorem ByteStreamDecode.unique {str : List UInt8} {r r' : Except Nat (List UInt8)}
    (h : ByteStreamDecode str r) (h' : ByteStreamDecode str r') : r = r' := by
  obtain ⟨fuel, hloop⟩ := h
  obtain ⟨fuel', hloop'⟩ := h'
  exact loop_unique hloop hloop'

/-- **Even texts are read**, two characters a byte. -/
theorem byteStreamDecode_even {str : List UInt8} (heven : str.length % 2 = 0) :
    ByteStreamDecode str (.ok ((paired str).map readByte)) := by
  obtain ⟨fuel, hloop⟩ := loop_decodeRound_even [] [] heven
  exact ⟨fuel, hloop⟩

/-- **Odd texts are left behind**: the iterator comes to the place after the end and reads there. -/
theorem byteStreamDecode_odd {str : List UInt8} (hodd : str.length % 2 = 1) :
    ByteStreamDecode str (.error (str.length + 1)) := by
  obtain ⟨fuel, hloop⟩ := loop_decodeRound_odd [] [] hodd
  refine ⟨fuel, ?_⟩
  simpa using hloop

/-! ## There and back -/

theorem length_byteStreamEncode (bytes : List UInt8) :
    (byteStreamEncode bytes).length = 2 * bytes.length := by
  induction bytes with
  | nil => rfl
  | cons b bytes ih =>
      show (printByte b ++ byteStreamEncode bytes).length = 2 * (bytes.length + 1)
      rw [List.length_append, ih, printByte]
      simp only [List.length_cons, List.length_nil]
      omega

theorem digitValue_hexDigit {n : Nat} (h : n < 16) : digitValue (hexDigit n) = some n := by
  interval_cases n <;> rfl

/-- No digit is a sign, white space, an `x` or the end of the text. -/
theorem hexDigit_range {n : Nat} (h : n < 16) :
    48 ≤ (hexDigit n).toNat ∧ (hexDigit n).toNat < 103 ∧ hexDigit n ≠ 88 := by
  interval_cases n <;> decide

theorem strtoul_digits {c d : UInt8} (hc : 48 ≤ c.toNat) (hd : 48 ≤ d.toNat)
    (hlt : d.toNat < 103) (hx : d ≠ 88) : strtoul [c, d] = readDigits 0 [c, d] := by
  have hzero : ∀ e : UInt8, 48 ≤ e.toNat → e ≠ 0 := fun e he h => by simp [h] at he
  have hspace : isSpace c = false := by
    simp only [isSpace, UInt8.le_iff_toNat_le, ← UInt8.toNat_inj, decide_eq_false_iff_not]
    simp
    omega
  have htext : (([c, d].takeWhile (· ≠ 0)).dropWhile isSpace) = [c, d] := by
    simp [hzero c hc, hzero d hd, hspace]
  have hminus : c ≠ 45 := fun h => by simp [h] at hc
  have hplus : c ≠ 43 := fun h => by simp [h] at hc
  have hx' : d ≠ 120 := fun h => by simp [h] at hlt
  unfold strtoul
  rw [htext]
  split
  · next h => exact absurd (List.cons.inj h).1 hminus
  · next h => exact absurd (List.cons.inj h).1 hplus
  · unfold magnitude
    split
    · next h => exact absurd (List.cons.inj (List.cons.inj h).2).1 hx'
    · next h => exact absurd (List.cons.inj (List.cons.inj h).2).1 hx
    · rfl

/-- What is printed for a byte is read as it. -/
theorem readByte_printByte (b : UInt8) :
    readByte (hexDigit (b.toNat / 16), hexDigit (b.toNat % 16)) = b := by
  have hb : b.toNat < 256 := b.toNat_lt
  have hhigh : b.toNat / 16 < 16 := by omega
  have hlow : b.toNat % 16 < 16 := by omega
  obtain ⟨hc, -, -⟩ := hexDigit_range hhigh
  obtain ⟨hd, hlt, hx⟩ := hexDigit_range hlow
  have hvalue : strtoul [hexDigit (b.toNat / 16), hexDigit (b.toNat % 16)] = b.toNat := by
    rw [strtoul_digits hc hd hlt hx]
    simp only [readDigits, digitValue_hexDigit hhigh, digitValue_hexDigit hlow]
    omega
  show UInt8.ofNat (strtoul [hexDigit (b.toNat / 16), hexDigit (b.toNat % 16)]) = b
  rw [hvalue, UInt8.ofNat_toNat]

theorem paired_byteStreamEncode (bytes : List UInt8) :
    paired (byteStreamEncode bytes) =
      bytes.map fun b => (hexDigit (b.toNat / 16), hexDigit (b.toNat % 16)) := by
  induction bytes with
  | nil => rfl
  | cons b bytes ih =>
      show paired (hexDigit (b.toNat / 16) :: hexDigit (b.toNat % 16) :: byteStreamEncode bytes) = _
      rw [paired, ih, List.map_cons]

theorem byteStreamDecode_encode (bytes : List UInt8) :
    ByteStreamDecode (byteStreamEncode bytes) (.ok bytes) := by
  have heven : (byteStreamEncode bytes).length % 2 = 0 := by
    rw [length_byteStreamEncode]
    omega
  have hdecode := byteStreamDecode_even heven
  rw [paired_byteStreamEncode, List.map_map] at hdecode
  have hbytes : bytes.map (readByte ∘ fun b => (hexDigit (b.toNat / 16), hexDigit (b.toNat % 16))) =
      bytes := by
    refine (List.map_congr_left fun b _ => ?_).trans (List.map_id bytes)
    exact readByte_printByte b
  rwa [hbytes] at hdecode

/-- The text is read to its end and no further, a byte for every two characters. -/
def ReadsAll (str : List UInt8) : Prop :=
  ∃ bytes, ByteStreamDecode str (.ok bytes) ∧ bytes.length = (str.length + 1) / 2 ∧
    bytes = (paired str).map readByte

theorem ByteStreamDecode.even {str bytes : List UInt8} (h : ByteStreamDecode str (.ok bytes)) :
    str.length % 2 = 0 := by
  by_contra hne
  have hodd : str.length % 2 = 1 := by omega
  cases h.unique (byteStreamDecode_odd hodd)

theorem readsAll_iff (str : List UInt8) : ReadsAll str ↔ str.length % 2 = 0 := by
  constructor
  · rintro ⟨bytes, hdecode, -, -⟩
    exact hdecode.even
  · intro heven
    refine ⟨_, byteStreamDecode_even heven, ?_, rfl⟩
    rw [List.length_map, length_paired]

/-- **Reading payload text**: it ends in the text exactly if the text has an even number of
characters, and whatever was written is read back. -/
theorem byteStreamDecode_readsAll_iff (str bytes : List UInt8) :
    (ReadsAll str ↔ str.length % 2 = 0) ∧
      ByteStreamDecode (byteStreamEncode bytes) (.ok bytes) :=
  ⟨readsAll_iff str, byteStreamDecode_encode bytes⟩

/-- `abc` is read beyond its terminator. -/
theorem byteStreamDecode_three_digits :
    ByteStreamDecode [97, 98, 99] (.error 4) ∧ ¬ ReadsAll [97, 98, 99] := by
  refine ⟨byteStreamDecode_odd rfl, ?_⟩
  rw [readsAll_iff]
  decide

example : paired [97, 98, 99] = [(97, 98), (99, 48)] := rfl

/-! ## Messages that come as text -/

/-- What `IncomingMessage` hands to a worker for raw bytes. -/
structure RawBytes where
  bytes : List UInt8
  encoding : String
  deriving DecidableEq, Repr

namespace MessageManager

variable {n : Nat}

/-- `IncomingMessage` of bytes. An empty vector has no data, and is not a message. -/
def incomingBytes (s : MessageManager n RawBytes) (message : RawBytes) (groupId uniqId : UInt8)
    (random : Nat) : MessageManager n RawBytes :=
  if message.bytes = [] then s else s.assign groupId uniqId message random

/-- `IncomingMessage` of text: without an encoding nothing happens. -/
def IncomingText (s : MessageManager n RawBytes) (strBytes : List UInt8) (encoding : Option String)
    (groupId uniqId : UInt8) (random : Nat) (t : Except Nat (MessageManager n RawBytes)) : Prop :=
  match encoding with
  | none => t = .ok s
  | some encoding =>
      ∃ result, ByteStreamDecode strBytes result ∧
        t = result.map fun bytes => s.incomingBytes { bytes, encoding } groupId uniqId random

/-- Text with an encoding reaches a worker exactly if it has an even number of characters. -/
theorem incomingText_iff (s : MessageManager n RawBytes) (strBytes : List UInt8) (encoding : String)
    (groupId uniqId : UInt8) (random : Nat) :
    (∃ t, s.IncomingText strBytes (some encoding) groupId uniqId random (.ok t)) ↔
      strBytes.length % 2 = 0 := by
  constructor
  · rintro ⟨t, result, hdecode, ht⟩
    cases result with
    | error i => cases ht
    | ok bytes => exact hdecode.even
  · intro heven
    exact ⟨_, _, byteStreamDecode_even heven, rfl⟩

end MessageManager

end V2XHub.Tmx
