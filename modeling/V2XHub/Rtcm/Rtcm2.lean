import V2XHub.Rtcm.DataManager

/-!
# RTCM 2 messages

An RTCM 2 message is a sequence of words as GPS satellites send them: 24 data bits and six parity
bits over these and the last two bits of the word before. When that word ends in 1, the data bits
are sent as their complement. Two words are the header. On the wire each byte carries six bits.

`RTCM2Message` decodes such a message without having seen the word before the first: `set_contents`
tries which of its four endings makes the first word right (`trial`).
-/

namespace V2XHub.Rtcm

open Lib

/-- Words of thirty bits, six of them in a byte. -/
def rtcm2Format : WordFormat := { wordBits := 30, byteBits := 6, mask := 0x40 }

/-! ## Parity -/

/-- `get_Bit`: bit 1 is the most significant of a word. -/
def getBit (n word : Nat) : Bool := word.testBit (30 - n)

def xorBits (positions : List Nat) (word : Nat) : Bool :=
  positions.foldr (fun n b => getBit n word ^^ b) false

/-- The equations of the parity bits: which of the last two bits of the previous word, and which
data bits. -/
def parityEquation : Nat → Option (Nat × List Nat)
  | 5 => some (29, [1, 2, 3, 5, 6, 10, 11, 12, 13, 14, 17, 18, 20, 23])
  | 4 => some (30, [2, 3, 4, 6, 7, 11, 12, 13, 14, 15, 18, 19, 21, 24])
  | 3 => some (29, [1, 3, 4, 5, 7, 8, 12, 13, 14, 15, 16, 19, 20, 22])
  | 2 => some (30, [2, 4, 5, 6, 8, 9, 13, 14, 15, 16, 17, 20, 21, 23])
  | 1 => some (30, [1, 3, 5, 6, 7, 9, 10, 14, 15, 16, 17, 18, 21, 22, 24])
  | 0 => some (29, [3, 5, 6, 8, 9, 10, 11, 13, 15, 19, 22, 23, 24])
  | _ => none

/-- `add_Parity`: the word with its last six bits computed from the others. -/
def addParity (word prevWord : Nat) : Nat :=
  Nat.ofBits fun i : Fin 30 =>
    match parityEquation i with
    | some (n, positions) => getBit n prevWord ^^ xorBits positions word
    | none => word.testBit i

/-- `check_Parity`. -/
def parityMatches (word prevWord : Nat) : Bool := word = addParity word prevWord

/-- `data_bitmask`: all bits but those of the parity. -/
def dataBitmask : Nat := 0x3FFFFFFF ^^^ 0x3F

/-- The word, with its data bits complemented if the previous one ends in 1. -/
def complementAfter (prevWord word : Nat) : Nat :=
  if prevWord % 2 = 1 then word ^^^ dataBitmask else word

/-! ## The message object -/

structure Rtcm2Message where
  /-- `_valid` of the base class. -/
  notInvalidated : Bool := true
  bytes : List UInt8 := []
  /-- `_data` of the manager. -/
  data : List Nat := []
  preamble : Nat := 0x66
  frameID : Nat := 0
  stationID : Nat := 0
  parity1 : Nat := 0
  modifiedZCount : Nat := 0
  sequenceNumber : Nat := 0
  numberDataWords : Nat := 0
  stationHealth : Nat := 0
  parity2 : Nat := 0
  primerWord : Nat := 0
  deriving DecidableEq, Repr

namespace Rtcm2Message

/-- The default of the preamble; on the wire its first six bits are the same byte. -/
def preambleValue : Nat := 0x66

/-- `complPreamble`. -/
def complPreamble : Nat := preambleValue ^^^ 0x3F

def headerWords : Nat := 2

/-- The header attributes, with their widths. -/
def headerAttrs (m : Rtcm2Message) : List (Nat × Nat) :=
  [(8, m.preamble), (6, m.frameID), (10, m.stationID), (6, m.parity1), (13, m.modifiedZCount),
    (3, m.sequenceNumber), (5, m.numberDataWords), (3, m.stationHealth), (6, m.parity2)]

def headerSizes : List Nat := [8, 6, 10, 6, 13, 3, 5, 3, 6]

def header1 (m : Rtcm2Message) : Nat := (rtcm2Format.extractWords m.headerAttrs).getD 0 0

def header2 (m : Rtcm2Message) : Nat := (rtcm2Format.extractWords m.headerAttrs).getD 1 0

def isValid (m : Rtcm2Message) : Bool :=
  m.notInvalidated && m.header1 >>> (30 - 8) = m.preamble && m.preamble = preambleValue &&
    parityMatches m.header1 m.primerWord && parityMatches m.header2 m.parity1

def size (m : Rtcm2Message) : Nat := rtcm2Format.wordSize * (headerWords + m.numberDataWords)

def invalidate (m : Rtcm2Message) : Rtcm2Message := { m with notInvalidated := false }

/-! ## Decoding -/

/-- Drop bytes up to the first that may start a header. -/
def search (bytes : List UInt8) : List UInt8 :=
  bytes.dropWhile fun byte => byte.toNat ≠ preambleValue ∧ byte.toNat ≠ complPreamble

/-- The trial of endings of the unseen word, each with `tmp` complemented once more than before. The
result is the last one tried and, if it is right, the first word. -/
def trial : List Nat → Nat → Nat × Option Nat
  | [], _ => (0, none)
  | p :: endings, tmp =>
      let tmp := if p ≠ 0 then tmp ^^^ dataBitmask else tmp
      if tmp >>> (30 - 8) = preambleValue ∧ parityMatches tmp p then (p, some tmp)
      else if endings = [] then (p, none)
      else trial endings tmp

/-- The primer word, and the words of the header with the first one complemented if necessary. -/
def prime (primerWord : Nat) (data : List Nat) : Nat × List Nat :=
  if primerWord ≠ 0 then (primerWord, data.set 0 (complementAfter primerWord (data.getD 0 0)))
  else
    match trial [0, 1, 2, 3] (data.getD 0 0) with
    | (primerWord, none) => (primerWord, data)
    | (primerWord, some word) => (primerWord, data.set 0 word)

/-- `mgr.assignData` for the header; `none` when it throws. -/
def assignHeader (m : Rtcm2Message) : Option Rtcm2Message :=
  match rtcm2Format.assignData m.data headerSizes with
  | some ([preamble, frameID, stationID, parity1, modifiedZCount, sequenceNumber, numberDataWords,
      stationHealth, parity2], data) =>
      some { m with
        data, preamble, frameID, stationID, parity1, modifiedZCount, sequenceNumber,
        numberDataWords, stationHealth, parity2 }
  | _ => none

/-- The header words at the front of `candidate`, as the message reads them. -/
def readHeader (m : Rtcm2Message) (candidate : List UInt8) : Option Rtcm2Message :=
  let (primerWord, data) := prime m.primerWord (rtcm2Format.loadData m.data candidate headerWords)
  let data := data.set 1 (complementAfter (data.getD 0 0) (data.getD 1 0))
  { m with bytes := candidate, primerWord, data }.assignHeader

/-- One round of the search loop. When it is done, the flag tells whether a header was found;
without one the message is invalidated. -/
def attempt (m : Rtcm2Message) : LoopStep Rtcm2Message (Rtcm2Message × Bool) :=
  let candidate := search m.bytes
  if headerWords * rtcm2Format.wordSize > candidate.length then
    .done ({ m with bytes := candidate }.invalidate, false)
  else
    match m.readHeader candidate with
    | none => .done ({ m with bytes := candidate }.invalidate, false)
    | some m =>
        if m.isValid then .done (m, true)
        else .again { m with bytes := candidate.drop 1, primerWord := 0 }

/-- The first `n` words, each complemented if the one before it ends in 1. -/
def complementData : Nat → Nat → List Nat → List Nat
  | 0, _, data => data
  | _ + 1, _, [] => []
  | n + 1, lastWord, word :: data =>
      complementAfter lastWord word :: complementData n (complementAfter lastWord word) data

/-- After the loop: load the data words. -/
def finish (m : Rtcm2Message) : Rtcm2Message :=
  let bytes := m.bytes.drop (headerWords * rtcm2Format.wordSize)
  if bytes.length < rtcm2Format.wordSize * m.numberDataWords then
    { m with bytes := bytes }.invalidate
  else
    { m with
      bytes := bytes
      data := complementData m.numberDataWords m.parity2
        (rtcm2Format.loadData m.data bytes m.numberDataWords) }

/-- `set_contents`. A round that is not the last drops a byte, so there are no more rounds than the
input has bytes. -/
def setContents (m : Rtcm2Message) (input : List UInt8) : Rtcm2Message :=
  match loop attempt (input.length + 1) { m with bytes := input } with
  | none => m
  | some (m, found) => if found then m.finish else m

/-! ## Encoding -/

/-- The words behind `prev`, each complemented if the one before it ends in 1. -/
def writeData : Nat → List Nat → List UInt8
  | _, [] => []
  | prev, word :: data =>
      rtcm2Format.writeWord (complementAfter prev word) ++
        writeData (complementAfter prev word) data

def getContents (m : Rtcm2Message) : List UInt8 :=
  let hdr1 := complementAfter m.primerWord m.header1
  let hdr2 := complementAfter hdr1 m.header2
  rtcm2Format.writeWord hdr1 ++ rtcm2Format.writeWord hdr2 ++ writeData hdr2 m.data

end Rtcm2Message

end V2XHub.Rtcm
