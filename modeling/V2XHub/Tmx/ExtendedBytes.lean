import Mathlib.Data.List.Basic

/-!
# Header bytes before a J2735 message

What comes before an encoded message is `03`, or `03 80` and the length of the message, one, two or
three bytes long; the message begins with `00`. `TmxJ2735ExtendedBytes` guesses the form from the
first bytes and erases the header. It never asks how many bytes there are, so every access here
says whether its place exists.
-/

namespace V2XHub.Tmx

namespace ExtendedBytes

/-- An access beyond the end of the bytes. -/
inductive Fault
  | read (i : Nat)
  | erase (n : Nat)
  deriving DecidableEq, Repr

/-- `bytes[i]`. -/
def byteAt (bytes : List UInt8) (i : Nat) : Except Fault UInt8 :=
  match bytes[i]? with
  | some byte => .ok byte
  | none => .error (.read i)

/-- `bytes.erase(bytes.begin(), bytes.begin() + n)`. -/
def erase (bytes : List UInt8) (n : Nat) : Except Fault (List UInt8) :=
  if n ≤ bytes.length then .ok (bytes.drop n) else .error (.erase n)

/-- Where `00DD`, the message id, begins, if the first byte is not already the `00`. -/
def msgIdindex (bytes : List UInt8) : Except Fault Nat := do
  if (← byteAt bytes 0) = 0x03 then
    let second ← byteAt bytes 1
    if second = 0x00 then
      .ok 1
    else if second = 0x80 then
      let third ← byteAt bytes 2
      if third = 0x81 then .ok 4 else if third = 0x82 then .ok 5 else .ok 3
    else
      .ok 0
  else
    .ok 0

/-- The returned index and the bytes afterwards. -/
def tmxJ2735ExtendedBytes (bytes : List UInt8) : Except Fault (Nat × List UInt8) := do
  if (← byteAt bytes 0) = 0x00 then
    .ok (0, bytes)
  else
    let index ← msgIdindex bytes
    let bytes ← erase bytes index
    .ok (index, bytes)

/-! ## Messages with their headers -/

/-- The length of a message in front of it. -/
def oerLength (n : Nat) : List UInt8 :=
  if n < 128 then [UInt8.ofNat n]
  else if n < 256 then [0x81, UInt8.ofNat n]
  else [0x82, UInt8.ofNat (n / 256), UInt8.ofNat (n % 256)]

/-- An encoded J2735 message, of a length that has such a form. -/
structure Payload where
  bytes : List UInt8
  head : bytes.head? = some 0x00
  length_le : bytes.length ≤ 65535

namespace Payload

/-- The header with no length. -/
def short (p : Payload) : List UInt8 := 0x03 :: p.bytes

/-- The header with the length. -/
def long (p : Payload) : List UInt8 := 0x03 :: 0x80 :: (oerLength p.bytes.length ++ p.bytes)

theorem exists_cons (p : Payload) : ∃ rest, p.bytes = 0x00 :: rest := by
  obtain ⟨rest, hrest⟩ := List.head?_eq_some_iff.mp p.head
  exact ⟨rest, hrest⟩

end Payload

theorem ofNat_ne {n m : Nat} (hn : n < 128) (hm : 128 ≤ m) (hm' : m < 256) :
    UInt8.ofNat n ≠ UInt8.ofNat m := by
  intro h
  have hnat := congrArg UInt8.toNat h
  rw [UInt8.toNat_ofNat', UInt8.toNat_ofNat'] at hnat
  omega

theorem strip_payload (p : Payload) : tmxJ2735ExtendedBytes p.bytes = .ok (0, p.bytes) := by
  obtain ⟨rest, hrest⟩ := p.exists_cons
  rw [hrest]
  rfl

theorem strip_short (p : Payload) : tmxJ2735ExtendedBytes p.short = .ok (1, p.bytes) := by
  obtain ⟨rest, hrest⟩ := p.exists_cons
  rw [Payload.short, hrest]
  simp [tmxJ2735ExtendedBytes, msgIdindex, byteAt, erase, bind, Except.bind]

/-- The length byte below 128 cannot look like the beginning of a longer form. -/
theorem strip_long (p : Payload) :
    tmxJ2735ExtendedBytes p.long = .ok (2 + (oerLength p.bytes.length).length, p.bytes) := by
  rw [Payload.long, oerLength]
  split
  · rename_i hlt
    have h81 : UInt8.ofNat p.bytes.length ≠ 0x81 := ofNat_ne (m := 0x81) hlt (by omega) (by omega)
    have h82 : UInt8.ofNat p.bytes.length ≠ 0x82 := ofNat_ne (m := 0x82) hlt (by omega) (by omega)
    simp [tmxJ2735ExtendedBytes, msgIdindex, byteAt, erase, bind, Except.bind, h81, h82]
  · split
    · simp [tmxJ2735ExtendedBytes, msgIdindex, byteAt, erase, bind, Except.bind]
    · simp [tmxJ2735ExtendedBytes, msgIdindex, byteAt, erase, bind, Except.bind]

/-! ## Streams that end too early -/

/-- The stream ends within a header, or before it. -/
inductive CutShort : List UInt8 → Prop
  | empty : CutShort []
  | extension : CutShort [0x03]
  | length : CutShort [0x03, 0x80]
  | one : CutShort [0x03, 0x80, 0x81]
  | two : CutShort [0x03, 0x80, 0x82]
  | half (high : UInt8) : CutShort [0x03, 0x80, 0x82, high]

/-- No byte beyond the end is read or erased. -/
def Safe (bytes : List UInt8) : Prop := ∃ result, tmxJ2735ExtendedBytes bytes = .ok result

theorem not_safe_of_cutShort {bytes : List UInt8} (h : CutShort bytes) : ¬ Safe bytes := by
  rintro ⟨result, hresult⟩
  cases h <;>
    simp [tmxJ2735ExtendedBytes, msgIdindex, byteAt, erase, bind, Except.bind] at hresult

/-- A first byte other than `03` is all that is read. -/
theorem safe_of_ne {first : UInt8} (rest : List UInt8) (h : first ≠ 0x03) :
    Safe (first :: rest) := by
  by_cases hzero : first = 0x00
  · refine ⟨(0, first :: rest), ?_⟩
    simp [tmxJ2735ExtendedBytes, byteAt, bind, Except.bind, hzero]
  · refine ⟨(0, first :: rest), ?_⟩
    simp [tmxJ2735ExtendedBytes, msgIdindex, byteAt, erase, bind, Except.bind, hzero, h]

/-- A second byte other than `80` is the last that is read. -/
theorem safe_of_second {second : UInt8} (rest : List UInt8) (h : second ≠ 0x80) :
    Safe (0x03 :: second :: rest) := by
  by_cases hzero : second = 0x00
  · refine ⟨(1, second :: rest), ?_⟩
    simp [tmxJ2735ExtendedBytes, msgIdindex, byteAt, erase, bind, Except.bind, hzero]
  · refine ⟨(0, 0x03 :: second :: rest), ?_⟩
    simp [tmxJ2735ExtendedBytes, msgIdindex, byteAt, erase, bind, Except.bind, hzero, h]

/-- With a third byte, what is erased depends on it alone. -/
theorem strip_third (third : UInt8) (rest : List UInt8) :
    tmxJ2735ExtendedBytes (0x03 :: 0x80 :: third :: rest) =
      let index := if third = 0x81 then 4 else if third = 0x82 then 5 else 3
      (erase (0x03 :: 0x80 :: third :: rest) index).map (index, ·) := by
  by_cases h81 : third = 0x81
  · subst h81
    rfl
  · by_cases h82 : third = 0x82
    · subst h82
      rfl
    · simp [tmxJ2735ExtendedBytes, msgIdindex, byteAt, erase, bind, Except.bind, Except.map, h81,
        h82]

theorem safe_of_not_cutShort {bytes : List UInt8} (h : ¬ CutShort bytes) : Safe bytes := by
  match bytes with
  | [] => exact absurd .empty h
  | first :: rest =>
      by_cases hfirst : first = 0x03
      · subst hfirst
        match rest with
        | [] => exact absurd .extension h
        | second :: rest =>
            by_cases hsecond : second = 0x80
            · subst hsecond
              match rest with
              | [] => exact absurd .length h
              | third :: rest =>
                  rw [Safe, strip_third]
                  by_cases h81 : third = 0x81
                  · subst h81
                    cases rest with
                    | nil => exact absurd .one h
                    | cons length rest => exact ⟨(4, rest), by simp [erase, Except.map]⟩
                  · by_cases h82 : third = 0x82
                    · subst h82
                      match rest with
                      | [] => exact absurd .two h
                      | [high] => exact absurd (.half high) h
                      | high :: low :: rest => exact ⟨(5, rest), by simp [erase, Except.map]⟩
                    · exact ⟨(3, rest), by simp [erase, Except.map, h81, h82]⟩
            · exact safe_of_second rest hsecond
      · exact safe_of_ne rest hfirst

theorem safe_iff (bytes : List UInt8) : Safe bytes ↔ ¬ CutShort bytes :=
  ⟨fun h hcut => not_safe_of_cutShort hcut h, safe_of_not_cutShort⟩

/-- Every header comes off its message; and no byte beyond the end of a stream is touched exactly
when the stream does not end within a header. -/
theorem strips_and_safe_iff (p : Payload) (bytes : List UInt8) :
    ((∃ index, tmxJ2735ExtendedBytes p.bytes = .ok (index, p.bytes)) ∧
      (∃ index, tmxJ2735ExtendedBytes p.short = .ok (index, p.bytes)) ∧
      (∃ index, tmxJ2735ExtendedBytes p.long = .ok (index, p.bytes))) ∧
    (Safe bytes ↔ ¬ CutShort bytes) :=
  ⟨⟨⟨_, strip_payload p⟩, ⟨_, strip_short p⟩, ⟨_, strip_long p⟩⟩, safe_iff bytes⟩

/-- A message of three bytes under each header, and a header that is cut off before its length. -/
theorem strips_and_safe_iff_threeBytes :
    (∃ index, tmxJ2735ExtendedBytes [0x00, 0x12, 0x05] = .ok (index, [0x00, 0x12, 0x05])) ∧
      (∃ index, tmxJ2735ExtendedBytes [0x03, 0x00, 0x12, 0x05] =
        .ok (index, [0x00, 0x12, 0x05])) ∧
      (∃ index, tmxJ2735ExtendedBytes [0x03, 0x80, 0x03, 0x00, 0x12, 0x05] =
        .ok (index, [0x00, 0x12, 0x05])) ∧
      Safe [0x03, 0x80, 0x03, 0x00, 0x12, 0x05] ∧ ¬ Safe [0x03, 0x80] := by
  let payload : Payload := ⟨[0x00, 0x12, 0x05], rfl, by decide⟩
  have hwhole := strips_and_safe_iff payload payload.long
  have hcut := strips_and_safe_iff payload [0x03, 0x80]
  exact ⟨hwhole.1.1, hwhole.1.2.1, hwhole.1.2.2, hwhole.2.mpr nofun,
    fun hsafe => hcut.2.mp hsafe .length⟩

/-- Four of three bytes are erased. -/
theorem cutLength_not_safe :
    tmxJ2735ExtendedBytes [0x03, 0x80, 0x81] = .error (.erase 4) ∧ ¬ Safe [0x03, 0x80, 0x81] := by
  refine ⟨by decide, ?_⟩
  rintro ⟨result, hresult⟩
  cases hresult

end ExtendedBytes

end V2XHub.Tmx
