import Mathlib.Algebra.Polynomial.Div
import Mathlib.Algebra.Field.ZMod
import Mathlib.Data.Nat.Bitwise
import Mathlib.Data.Nat.Size
import Mathlib.Tactic.LinearCombination

/-!
# Cyclic redundancy checks

A CRC register of `w` bits, most significant bit first, without initial value and final xor. The
bits of a number are the coefficients of a polynomial over the two-element field; the register
after a message is the remainder of the message times `X ^ w`. The register can also be moved a
byte at a time, with a table of what eight bit steps make of each leading byte.
-/

namespace V2XHub.Lib.Crc

open Polynomial

/-! ## Numbers as polynomials -/

/-- The polynomial over the two-element field whose coefficients are the binary digits. -/
noncomputable def poly (n : Nat) : (ZMod 2)[X] :=
  ∑ i ∈ Finset.range n.size, if n.testBit i then X ^ i else 0

theorem testBit_eq_false_of_size_le {n i : Nat} (h : n.size ≤ i) : n.testBit i = false :=
  Nat.testBit_lt_two_pow ((Nat.lt_size_self n).trans_le (Nat.pow_le_pow_right (by omega) h))

@[simp]
theorem coeff_poly (n i : Nat) : (poly n).coeff i = if n.testBit i then 1 else 0 := by
  have hterm : ∀ j, (if n.testBit j then (X : (ZMod 2)[X]) ^ j else 0).coeff i =
      if i = j then (if n.testBit i then 1 else 0) else 0 := by
    intro j
    by_cases hij : i = j
    · subst hij
      split <;> simp
    · split <;> simp [coeff_X_pow, hij]
  rw [poly, finsetSum_coeff, Finset.sum_congr rfl fun j _ => hterm j, Finset.sum_ite_eq]
  split
  · rfl
  · rename_i hi
    have hsize : n.size ≤ i := by simpa using hi
    rw [testBit_eq_false_of_size_le hsize]
    rfl

theorem poly_xor (a b : Nat) : poly (a ^^^ b) = poly a + poly b := by
  ext i
  rw [coeff_add, coeff_poly, coeff_poly, coeff_poly, Nat.testBit_xor]
  cases a.testBit i <;> cases b.testBit i <;> decide

theorem poly_shiftLeft (a k : Nat) : poly (a <<< k) = poly a * X ^ k := by
  ext i
  rw [coeff_poly, coeff_mul_X_pow', coeff_poly, Nat.testBit_shiftLeft]
  by_cases hk : k ≤ i <;> simp [hk]

theorem poly_zero : poly 0 = 0 := by
  ext i
  simp

theorem poly_injective : Function.Injective poly := by
  intro a b hab
  apply Nat.eq_of_testBit_eq
  intro i
  have hcoeff : (poly a).coeff i = (poly b).coeff i := by rw [hab]
  rw [coeff_poly, coeff_poly] at hcoeff
  cases ha : a.testBit i <;> cases hb : b.testBit i <;> simp_all

theorem degree_poly_lt {n w : Nat} (h : n < 2 ^ w) : (poly n).degree < w := by
  rw [degree_lt_iff_coeff_zero]
  intro i hi
  rw [coeff_poly, Nat.testBit_lt_two_pow (h.trans_le (Nat.pow_le_pow_right (by omega) hi))]
  rfl

/-- The polynomial of a message: its first bit is the leading coefficient. -/
noncomputable def message (data : List UInt8) : (ZMod 2)[X] :=
  data.foldl (fun p byte => p * X ^ 8 + poly byte.toNat) 0

/-! ## The bitwise register -/

/-- A generator polynomial of degree `w`, with its leading bit. -/
structure Generator (w : Nat) where
  bits : Nat
  testBit_width : bits.testBit w = true
  lt_pow : bits < 2 ^ (w + 1)

namespace Generator

variable {w : Nat} (g : Generator w)

/-- The register moves up one bit; when a bit leaves it, the generator is taken away. -/
def bitStep (r : Nat) : Nat :=
  if (r <<< 1).testBit w then (r <<< 1) ^^^ g.bits else r <<< 1

/-- A byte is added at the top of the register, then eight bits are moved. -/
def byteStep (r : Nat) (byte : UInt8) : Nat :=
  g.bitStep^[8] (r ^^^ byte.toNat <<< (w - 8))

/-- The bitwise CRC of a message. -/
def crc (data : List UInt8) : Nat :=
  data.foldl g.byteStep 0

/-! ### The register is a remainder -/

theorem degree_poly : (poly g.bits).degree = w := by
  apply le_antisymm
  · have hlt : (poly g.bits).degree < (w + 1 : Nat) := degree_poly_lt g.lt_pow
    rw [degree_lt_iff_coeff_zero] at hlt
    rw [degree_le_iff_coeff_zero]
    intro i hi
    apply hlt
    exact_mod_cast hi
  · apply le_degree_of_ne_zero
    rw [coeff_poly, g.testBit_width]
    decide

theorem monic_poly : (poly g.bits).Monic := by
  have hdegree : (poly g.bits).natDegree = w := natDegree_eq_of_degree_eq_some g.degree_poly
  rw [Monic, leadingCoeff, hdegree, coeff_poly, g.testBit_width]
  rfl

theorem lt_of_testBit_eq_false {n : Nat} (hn : n < 2 ^ (w + 1)) (hw : n.testBit w = false) :
    n < 2 ^ w := by
  apply Nat.lt_pow_two_of_testBit
  intro i hi
  rcases hi.eq_or_lt with rfl | hi
  · exact hw
  · exact Nat.testBit_lt_two_pow (hn.trans_le (Nat.pow_le_pow_right (by omega) hi))

theorem bitStep_lt {r : Nat} (hr : r < 2 ^ w) : g.bitStep r < 2 ^ w := by
  have hshift : r <<< 1 < 2 ^ (w + 1) := by
    rw [Nat.shiftLeft_eq, pow_succ]
    omega
  rw [bitStep]
  split
  · rename_i htop
    apply lt_of_testBit_eq_false (Nat.xor_lt_two_pow hshift g.lt_pow)
    rw [Nat.testBit_xor, htop, g.testBit_width]
    rfl
  · rename_i htop
    exact lt_of_testBit_eq_false hshift (by simpa using htop)

theorem iterate_bitStep_lt {r : Nat} (hr : r < 2 ^ w) (k : Nat) : g.bitStep^[k] r < 2 ^ w := by
  induction k with
  | zero => exact hr
  | succ k ih =>
    rw [Function.iterate_succ_apply']
    exact g.bitStep_lt ih

theorem byte_shiftLeft_lt (hw : 8 ≤ w) (byte : UInt8) : byte.toNat <<< (w - 8) < 2 ^ w := by
  have hbyte : byte.toNat < 2 ^ 8 := byte.toNat_lt
  calc byte.toNat <<< (w - 8) = byte.toNat * 2 ^ (w - 8) := Nat.shiftLeft_eq ..
    _ < 2 ^ 8 * 2 ^ (w - 8) := Nat.mul_lt_mul_of_pos_right hbyte (by positivity)
    _ = 2 ^ w := by rw [← pow_add]; congr 1; omega

theorem byteStep_lt (hw : 8 ≤ w) {r : Nat} (hr : r < 2 ^ w) (byte : UInt8) :
    g.byteStep r byte < 2 ^ w :=
  g.iterate_bitStep_lt (Nat.xor_lt_two_pow hr (byte_shiftLeft_lt hw byte)) 8

theorem dvd_bitStep (r : Nat) : poly g.bits ∣ poly (g.bitStep r) - poly r * X := by
  have hshift : poly (r <<< 1) = poly r * X := by rw [poly_shiftLeft, pow_one]
  rw [bitStep]
  split
  · rw [poly_xor, hshift, add_sub_cancel_left]
  · rw [hshift, sub_self]
    exact dvd_zero _

theorem dvd_iterate_bitStep (r k : Nat) :
    poly g.bits ∣ poly (g.bitStep^[k] r) - poly r * X ^ k := by
  induction k with
  | zero => simp
  | succ k ih =>
    rw [Function.iterate_succ_apply']
    have hstep := g.dvd_bitStep (g.bitStep^[k] r)
    have hsum := dvd_add hstep (ih.mul_right X)
    convert hsum using 1
    ring

theorem dvd_byteStep (hw : 8 ≤ w) {r : Nat} {p : (ZMod 2)[X]}
    (h : poly g.bits ∣ poly r - p * X ^ w) (byte : UInt8) :
    poly g.bits ∣ poly (g.byteStep r byte) - (p * X ^ 8 + poly byte.toNat) * X ^ w := by
  have hsplit : (X : (ZMod 2)[X]) ^ (w - 8) * X ^ 8 = X ^ w := by
    rw [← pow_add]
    congr 1
    omega
  have hstep := g.dvd_iterate_bitStep (r ^^^ byte.toNat <<< (w - 8)) 8
  rw [poly_xor, poly_shiftLeft] at hstep
  have hsum := dvd_add hstep (h.mul_right (X ^ 8))
  convert hsum using 1
  rw [byteStep]
  linear_combination poly byte.toNat * hsplit

theorem foldl_byteStep (hw : 8 ≤ w) (data : List UInt8) {r : Nat} {p : (ZMod 2)[X]}
    (hr : r < 2 ^ w) (h : poly g.bits ∣ poly r - p * X ^ w) :
    data.foldl g.byteStep r < 2 ^ w ∧
      poly g.bits ∣ poly (data.foldl g.byteStep r) -
        data.foldl (fun p byte => p * X ^ 8 + poly byte.toNat) p * X ^ w := by
  induction data generalizing r p with
  | nil => exact ⟨hr, h⟩
  | cons byte data ih => exact ih (g.byteStep_lt hw hr byte) (g.dvd_byteStep hw h byte)

/-- The bitwise CRC is the remainder of the message times `X ^ w`. -/
theorem poly_crc (hw : 8 ≤ w) (data : List UInt8) :
    poly (g.crc data) = (message data * X ^ w) %ₘ poly g.bits := by
  have hzero : poly g.bits ∣ poly 0 - (0 : (ZMod 2)[X]) * X ^ w := by simp [poly_zero]
  obtain ⟨hlt, hdvd⟩ := g.foldl_byteStep hw data (by positivity) hzero
  have hrem : (poly (g.crc data)) %ₘ poly g.bits = (message data * X ^ w) %ₘ poly g.bits := by
    rw [← sub_eq_zero, ← sub_modByMonic, modByMonic_eq_zero_iff_dvd g.monic_poly]
    exact hdvd
  rw [← hrem]
  symm
  rw [modByMonic_eq_self_iff g.monic_poly, g.degree_poly]
  exact degree_poly_lt hlt

/-! ### A byte at a time -/

theorem bitStep_xor (a b : Nat) : g.bitStep (a ^^^ b) = g.bitStep a ^^^ g.bitStep b := by
  apply poly_injective
  have hpoly : ∀ r, poly (g.bitStep r) =
      poly r * X + if (r <<< 1).testBit w then poly g.bits else 0 := by
    intro r
    rw [bitStep]
    split <;> simp [poly_xor, poly_shiftLeft]
  have htwo : poly g.bits + poly g.bits = 0 := CharTwo.add_self_eq_zero _
  rw [poly_xor, hpoly, hpoly, hpoly, poly_xor, Nat.shiftLeft_xor_distrib, Nat.testBit_xor]
  cases (a <<< 1).testBit w <;> cases (b <<< 1).testBit w
  · simp [add_mul]
  · simp [add_mul, add_assoc]
  · simp only [Bool.xor_false, if_true, Bool.false_eq_true, if_false]
    ring
  · simp only [Bool.xor_self, if_true, Bool.false_eq_true, if_false]
    linear_combination -htwo

theorem iterate_bitStep_xor (k a b : Nat) :
    g.bitStep^[k] (a ^^^ b) = g.bitStep^[k] a ^^^ g.bitStep^[k] b := by
  induction k generalizing a b with
  | zero => rfl
  | succ k ih =>
    rw [Function.iterate_succ_apply, bitStep_xor, ih, Function.iterate_succ_apply,
      Function.iterate_succ_apply]

/-- What has room to move up only moves up. -/
theorem iterate_bitStep_of_lt {r k : Nat} (hk : k ≤ w) (hr : r < 2 ^ (w - k)) :
    g.bitStep^[k] r = r <<< k := by
  induction k generalizing r with
  | zero => rfl
  | succ k ih =>
    have hshift : r <<< 1 < 2 ^ (w - k) := by
      rw [Nat.shiftLeft_eq, show w - k = (w - (k + 1)) + 1 by omega, pow_succ]
      omega
    have htop : (r <<< 1).testBit w = false :=
      Nat.testBit_lt_two_pow (hshift.trans_le (Nat.pow_le_pow_right (by omega) (by omega)))
    have hstep : g.bitStep r = r <<< 1 := by
      rw [bitStep, htop]
      rfl
    rw [Function.iterate_succ_apply, hstep, ih (by omega) hshift, ← Nat.shiftLeft_add, add_comm]

/-- The table's entry for the byte that leaves the register. -/
def entry (n : Nat) : Nat := g.bitStep^[8] (n <<< (w - 8))

theorem xor_shiftRight_shiftLeft (r k : Nat) : r = (r % 2 ^ k) ^^^ (r >>> k) <<< k := by
  apply Nat.eq_of_testBit_eq
  intro i
  rw [Nat.testBit_xor, Nat.testBit_mod_two_pow, Nat.testBit_shiftLeft, Nat.testBit_shiftRight]
  by_cases hi : i < k
  · have hki : ¬ k ≤ i := by omega
    simp [hi, hki]
  · have hki : k ≤ i := by omega
    simp [hi, hki]

/-- A byte step is a shift of the register and one look into the table. -/
theorem byteStep_eq_entry (hw : 8 ≤ w) (r : Nat) (byte : UInt8) :
    g.byteStep r byte =
      (r % 2 ^ (w - 8)) <<< 8 ^^^ g.entry (byte.toNat ^^^ r >>> (w - 8)) := by
  have hsplit : r ^^^ byte.toNat <<< (w - 8) =
      (r % 2 ^ (w - 8)) ^^^ (byte.toNat ^^^ r >>> (w - 8)) <<< (w - 8) := by
    rw [Nat.shiftLeft_xor_distrib, Nat.xor_comm (byte.toNat <<< _), ← Nat.xor_assoc,
      ← xor_shiftRight_shiftLeft]
  have hlow : r % 2 ^ (w - 8) < 2 ^ (w - 8) := Nat.mod_lt _ (by positivity)
  rw [byteStep, hsplit, iterate_bitStep_xor, g.iterate_bitStep_of_lt hw hlow, entry]

end Generator

end V2XHub.Lib.Crc
