import Mathlib.Data.List.Basic

/-!
# Base64

`Base64::Encode` takes three bytes at a time to four digits of six bits, and fills up what is left
over with zero bits and `=`. `Base64::Decode` stops at the first character that is no digit.
-/

namespace V2XHub.Tmx.Base64

def base64_chars : List Char :=
  "ABCDEFGHIJKLMNOPQRSTUVWXYZabcdefghijklmnopqrstuvwxyz0123456789+/".toList

def charOf (sextet : UInt8) : Char := base64_chars.getD sextet.toNat 'A'

/-- `base64_chars.find`. -/
def find (c : Char) : UInt8 := UInt8.ofNat (base64_chars.idxOf c)

def IsBase64 (c : Char) : Bool := c.isAlphanum || c = '+' || c = '/'

/-- `char_array_4` from `char_array_3`. -/
def sextets (a b c : UInt8) : List UInt8 :=
  [(a &&& 0xfc) >>> 2, ((a &&& 0x03) <<< 4) + ((b &&& 0xf0) >>> 4),
    ((b &&& 0x0f) <<< 2) + ((c &&& 0xc0) >>> 6), c &&& 0x3f]

/-- `char_array_3` from `char_array_4`. -/
def octets (p q r s : UInt8) : List UInt8 :=
  [(p <<< 2) + ((q &&& 0x30) >>> 4), ((q &&& 0xf) <<< 4) + ((r &&& 0x3c) >>> 2),
    ((r &&& 0x3) <<< 6) + s]

def Encode : List UInt8 → List Char
  | a :: b :: c :: rest => (sextets a b c).map charOf ++ Encode rest
  | [a, b] => ((sextets a b 0).take 3).map charOf ++ ['=']
  | [a] => ((sextets a 0 0).take 2).map charOf ++ ['=', '=']
  | [] => []

/-- The digits, four at a time. Of one that is left over nothing comes. -/
def decodeDigits : List Char → List UInt8
  | c :: c' :: c'' :: c''' :: rest =>
      octets (find c) (find c') (find c'') (find c''') ++ decodeDigits rest
  | [c, c', c''] => (octets (find c) (find c') (find c'') 0).take 2
  | [c, c'] => (octets (find c) (find c') 0 0).take 1
  | _ => []

def Decode (encoded_string : List Char) : List UInt8 :=
  decodeDigits (encoded_string.takeWhile fun c => c ≠ '=' && IsBase64 c)

/-! ## Digits -/

theorem digit_of_lt : ∀ n < 64, find (charOf (UInt8.ofNat n)) = UInt8.ofNat n ∧
    (charOf (UInt8.ofNat n) ≠ '=' && IsBase64 (charOf (UInt8.ofNat n))) = true := by
  decide +kernel

theorem find_charOf {sextet : UInt8} (h : sextet.toNat < 64) : find (charOf sextet) = sextet := by
  have hdigit := (digit_of_lt sextet.toNat h).1
  rwa [UInt8.ofNat_toNat] at hdigit

theorem isBase64_charOf {sextet : UInt8} (h : sextet.toNat < 64) :
    (charOf sextet ≠ '=' && IsBase64 (charOf sextet)) = true := by
  have hdigit := (digit_of_lt sextet.toNat h).2
  rwa [UInt8.ofNat_toNat] at hdigit

theorem forall_byte {P : UInt8 → Prop} (h : ∀ n < 256, P (UInt8.ofNat n)) (b : UInt8) : P b := by
  have hb := h b.toNat b.toNat_lt
  rwa [UInt8.ofNat_toNat] at hb

/-! ## The parts of the bytes -/

theorem toNat_encode_parts : ∀ a : UInt8,
    ((a &&& 0xfc) >>> 2).toNat = a.toNat / 4 ∧ ((a &&& 0x03) <<< 4).toNat = a.toNat % 4 * 16 ∧
      ((a &&& 0xf0) >>> 4).toNat = a.toNat / 16 ∧ ((a &&& 0x0f) <<< 2).toNat = a.toNat % 16 * 4 ∧
        ((a &&& 0xc0) >>> 6).toNat = a.toNat / 64 ∧ (a &&& 0x3f).toNat = a.toNat % 64 :=
  forall_byte (by decide +kernel)

theorem toNat_decode_parts : ∀ p : UInt8,
    (p <<< 2).toNat = p.toNat * 4 % 256 ∧ ((p &&& 0x30) >>> 4).toNat = p.toNat / 16 % 4 ∧
      ((p &&& 0xf) <<< 4).toNat = p.toNat % 16 * 16 ∧
        ((p &&& 0x3c) >>> 2).toNat = p.toNat / 4 % 16 ∧
          ((p &&& 0x3) <<< 6).toNat = p.toNat % 4 * 64 :=
  forall_byte (by decide +kernel)

section

variable (a b c : UInt8)

theorem toNat_sextets :
    (sextets a b c).map UInt8.toNat =
      [a.toNat / 4, a.toNat % 4 * 16 + b.toNat / 16, b.toNat % 16 * 4 + c.toNat / 64,
        c.toNat % 64] := by
  obtain ⟨ha, ha', -⟩ := toNat_encode_parts a
  obtain ⟨-, -, hb, hb', -⟩ := toNat_encode_parts b
  obtain ⟨-, -, -, -, hc, hc'⟩ := toNat_encode_parts c
  have hlt := a.toNat_lt
  have hlt' := b.toNat_lt
  have hlt'' := c.toNat_lt
  have hsum : a.toNat % 4 * 16 + b.toNat / 16 < 2 ^ 8 := by omega
  have hsum' : b.toNat % 16 * 4 + c.toNat / 64 < 2 ^ 8 := by omega
  unfold sextets
  simp only [List.map_cons, List.map_nil, UInt8.toNat_add, ha, ha', hb, hb', hc, hc']
  rw [Nat.mod_eq_of_lt hsum, Nat.mod_eq_of_lt hsum']

theorem sextets_lt : ∀ sextet ∈ sextets a b c, sextet.toNat < 64 := by
  intro sextet hmem
  have hnat : sextet.toNat ∈ (sextets a b c).map UInt8.toNat := List.mem_map_of_mem hmem
  have hlt := a.toNat_lt
  have hlt' := b.toNat_lt
  have hlt'' := c.toNat_lt
  rw [toNat_sextets] at hnat
  simp only [List.mem_cons, List.not_mem_nil, or_false] at hnat
  omega

theorem octets_sextets {p q r s : UInt8} (h : sextets a b c = [p, q, r, s]) :
    octets p q r s = [a, b, c] := by
  have hnat := toNat_sextets a b c
  obtain ⟨hp, hq, -⟩ := toNat_decode_parts p
  obtain ⟨-, hq', hq'', -⟩ := toNat_decode_parts q
  obtain ⟨-, -, -, hr, hr'⟩ := toNat_decode_parts r
  have hlt := a.toNat_lt
  have hlt' := b.toNat_lt
  have hlt'' := c.toNat_lt
  rw [h] at hnat
  simp only [List.map_cons, List.map_nil, List.cons.injEq, and_true] at hnat
  obtain ⟨hpa, hqa, hra, hsa⟩ := hnat
  unfold octets
  simp only [List.cons.injEq, and_true]
  refine ⟨?_, ?_, ?_⟩
  · apply UInt8.toNat_inj.mp
    rw [UInt8.toNat_add, hp, hq']
    omega
  · apply UInt8.toNat_inj.mp
    rw [UInt8.toNat_add, hq'', hr]
    omega
  · apply UInt8.toNat_inj.mp
    rw [UInt8.toNat_add, hr', hsa]
    omega

end

/-! ## Decoding gives back what was encoded -/

/-- Without the characters that fill up. -/
def digits : List UInt8 → List Char
  | a :: b :: c :: rest => (sextets a b c).map charOf ++ digits rest
  | [a, b] => ((sextets a b 0).take 3).map charOf
  | [a] => ((sextets a 0 0).take 2).map charOf
  | [] => []

theorem exists_fill (bytes : List UInt8) :
    ∃ k, Encode bytes = digits bytes ++ List.replicate k '=' := by
  fun_induction Encode bytes with
  | case1 a b c rest ih =>
      obtain ⟨k, hk⟩ := ih
      exact ⟨k, by rw [hk, digits, List.append_assoc]⟩
  | case2 a b => exact ⟨1, rfl⟩
  | case3 a => exact ⟨2, rfl⟩
  | case4 => exact ⟨0, rfl⟩

theorem isBase64_digits (bytes : List UInt8) :
    ∀ c ∈ digits bytes, (c ≠ '=' && IsBase64 c) = true := by
  have hmap : ∀ {sextets' : List UInt8}, (∀ s ∈ sextets', s.toNat < 64) →
      ∀ c ∈ sextets'.map charOf, (c ≠ '=' && IsBase64 c) = true := by
    intro sextets' h c hc
    obtain ⟨s, hs, rfl⟩ := List.mem_map.mp hc
    exact isBase64_charOf (h s hs)
  fun_induction digits bytes with
  | case1 a b c rest ih => exact List.forall_mem_append.mpr ⟨hmap (sextets_lt a b c), ih⟩
  | case2 a b => exact hmap fun s hs => sextets_lt a b 0 s (List.mem_of_mem_take hs)
  | case3 a => exact hmap fun s hs => sextets_lt a 0 0 s (List.mem_of_mem_take hs)
  | case4 => exact fun _ hc => absurd hc List.not_mem_nil

theorem decodeDigits_digits (bytes : List UInt8) : decodeDigits (digits bytes) = bytes := by
  have hsextets : ∀ a b c, ∃ p q r s, sextets a b c = [p, q, r, s] ∧
      find (charOf p) = p ∧ find (charOf q) = q ∧ find (charOf r) = r ∧ find (charOf s) = s := by
    intro a b c
    have hlt := sextets_lt a b c
    refine ⟨_, _, _, _, rfl, ?_, ?_, ?_, ?_⟩
    · exact find_charOf (hlt _ (by simp [sextets]))
    · exact find_charOf (hlt _ (by simp [sextets]))
    · exact find_charOf (hlt _ (by simp [sextets]))
    · exact find_charOf (hlt _ (by simp [sextets]))
  fun_induction digits bytes with
  | case1 a b c rest ih =>
      obtain ⟨p, q, r, s, heq, hp, hq, hr, hs⟩ := hsextets a b c
      rw [heq]
      show octets (find (charOf p)) (find (charOf q)) (find (charOf r)) (find (charOf s)) ++
        decodeDigits (digits rest) = _
      rw [hp, hq, hr, hs, octets_sextets a b c heq, ih]
      rfl
  | case2 a b =>
      obtain ⟨p, q, r, s, heq, hp, hq, hr, -⟩ := hsextets a b 0
      rw [heq]
      show (octets (find (charOf p)) (find (charOf q)) (find (charOf r)) s).take 2 = _
      rw [hp, hq, hr, octets_sextets a b 0 heq]
      rfl
  | case3 a =>
      obtain ⟨p, q, r, s, heq, hp, hq, -⟩ := hsextets a 0 0
      rw [heq]
      show (octets (find (charOf p)) (find (charOf q)) r s).take 1 = _
      rw [hp, hq, octets_sextets a 0 0 heq]
      rfl
  | case4 => rfl

/-- **The round trip.** -/
theorem decode_encode (bytes : List UInt8) : Decode (Encode bytes) = bytes := by
  obtain ⟨k, hk⟩ := exists_fill bytes
  have hfill : (List.replicate k '=').takeWhile (fun c => c ≠ '=' && IsBase64 c) = [] := by
    cases k <;> rfl
  unfold Decode
  rw [hk, List.takeWhile_append_of_pos (isBase64_digits bytes), hfill, List.append_nil,
    decodeDigits_digits]

end V2XHub.Tmx.Base64
