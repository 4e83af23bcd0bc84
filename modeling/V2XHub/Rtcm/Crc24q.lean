import V2XHub.Lib.Crc
import V2XHub.Rtcm.Rtcm3

/-!
# What the CRC-24Q table computes

`crc24q_hash` moves a 32-bit accumulator a byte at a time and masks it only at the end; the entries
of the table keep the byte that leaves the register in their own top byte. Below bit 24 the
accumulator is at every step the register of the bitwise CRC with the generator `CRCPOLY`.
-/

namespace V2XHub.Rtcm

open Lib Lib.Crc Polynomial

/-- `CRCPOLY`. -/
def crcPoly : Generator 24 where
  bits := 0x1864CFB
  testBit_width := by decide
  lt_pow := by decide

theorem crc24q_entries :
    crc24q.map (fun e => e.toNat % 2 ^ 24) = (List.range 256).map crcPoly.entry := by
  decide +kernel

/-- Below bit 24 every entry of the table is what eight bit steps make of its index. -/
theorem crc24q_entry : ∀ n < 256, (crc24q.getD n 0).toNat % 2 ^ 24 = crcPoly.entry n := by
  intro n hn
  have hlength := congrArg List.length crc24q_entries
  rw [List.length_map, List.length_map, List.length_range] at hlength
  have hn' : n < crc24q.length := hlength.symm ▸ hn
  have hentries := congrArg (·[n]?) crc24q_entries
  rw [List.getElem?_map, List.getElem?_map, List.getElem?_range hn,
    List.getElem?_eq_getElem hn'] at hentries
  rw [List.getD_eq_getElem _ _ hn']
  exact Option.some.inj hentries

/-- The index of the table reads the byte that is about to leave the register. -/
theorem index_toNat (crc : UInt32) (byte : UInt8) :
    (byte ^^^ (crc >>> 16).toUInt8).toNat = byte.toNat ^^^ (crc.toNat % 2 ^ 24) >>> (24 - 8) := by
  have hbyte : (crc >>> 16).toUInt8.toNat = (crc.toNat % 2 ^ 24) >>> (24 - 8) := by
    simp only [UInt32.toNat_toUInt8, UInt32.toNat_shiftRight, Nat.shiftRight_eq_div_pow]
    have hlt : crc.toNat < 2 ^ 32 := crc.toNat_lt
    simp
    omega
  rw [UInt8.toNat_xor, hbyte]

theorem shiftLeft_mod (crc : UInt32) :
    (crc <<< 8).toNat % 2 ^ 24 = (crc.toNat % 2 ^ 24 % 2 ^ (24 - 8)) <<< 8 := by
  simp only [UInt32.toNat_shiftLeft, Nat.shiftLeft_eq]
  have hlt : crc.toNat < 2 ^ 32 := crc.toNat_lt
  simp
  omega

/-- One round of the hash loop is one byte step of the bitwise register. -/
theorem crc24qStep_mod (crc : UInt32) (byte : UInt8) :
    (crc24qStep crc byte).toNat % 2 ^ 24 = crcPoly.byteStep (crc.toNat % 2 ^ 24) byte := by
  have hindex : (byte ^^^ (crc >>> 16).toUInt8).toNat < 256 := UInt8.toNat_lt _
  rw [crc24qStep, UInt32.toNat_xor, Nat.xor_mod_two_pow, shiftLeft_mod, crc24q_entry _ hindex,
    index_toNat, crcPoly.byteStep_eq_entry (by omega)]

theorem foldl_crc24qStep (data : List UInt8) (crc : UInt32) :
    (data.foldl crc24qStep crc).toNat % 2 ^ 24 =
      data.foldl crcPoly.byteStep (crc.toNat % 2 ^ 24) := by
  induction data generalizing crc with
  | nil => rfl
  | cons byte data ih =>
    rw [List.foldl_cons, List.foldl_cons, ih, crc24qStep_mod]

/-- The final mask keeps what lies below bit 24. -/
theorem crc24qHash_toNat (data : List UInt8) :
    (crc24qHash data).toNat = crcPoly.crc data := by
  have hmask : (0x00ffffff : UInt32).toNat = 2 ^ 24 - 1 := rfl
  rw [crc24qHash, UInt32.toNat_and, hmask, Nat.and_two_pow_sub_one_eq_mod, foldl_crc24qStep]
  rfl

/-- The table-driven hash is the bitwise CRC-24Q, the remainder of the message times `X ^ 24`. -/
theorem crc24qHash_eq_bitwise (data : List UInt8) :
    (crc24qHash data).toNat = crcPoly.crc data ∧
      poly (crc24qHash data).toNat = (message data * X ^ 24) %ₘ poly 0x1864CFB := by
  have hbitwise := crc24qHash_toNat data
  refine ⟨hbitwise, ?_⟩
  rw [hbitwise]
  exact crcPoly.poly_crc (by omega) data

example : crc24qHash [0xD3, 0x00, 0x00] = 0x47EA4B := by decide +kernel

end V2XHub.Rtcm
