import Mathlib.Data.Nat.Digits.Lemmas
import Mathlib.Data.List.TakeWhile

/-!
# Decimal digits

The number that a run of digits spells, and `stoi`, which reads one in front of a text. Zeros in
front of the digits make no difference, a fraction of the digits is the number over a power of ten,
and `stoi` is right as long as the number is one of 32 bits. `atoi` never throws.
-/

namespace V2XHub.Lib.Decimal

def digit (c : Char) : Nat := c.toNat - '0'.toNat

/-- The number that a run of digits spells. -/
def number (digits : List Char) : Nat := Nat.ofDigits 10 (digits.map digit).reverse

def IsDigits (digits : List Char) : Prop := ∀ c ∈ digits, c.isDigit = true

instance decidableIsDigits (digits : List Char) : Decidable (IsDigits digits) :=
  List.decidableBAll _ _

variable {digits digits' rest : List Char} {c : Char}

/-! ## Digits -/

theorem isDigit_iff : c.isDigit = true ↔ 48 ≤ c.toNat ∧ c.toNat ≤ 57 := by
  unfold Char.isDigit
  rw [Bool.and_eq_true, decide_eq_true_eq, decide_eq_true_eq]
  exact Iff.rfl

theorem digit_lt (h : c.isDigit = true) : digit c < 10 := by
  obtain ⟨hlo, hhi⟩ := isDigit_iff.mp h
  show c.toNat - 48 < 10
  omega

theorem digit_eq_zero_iff (h : c.isDigit = true) : digit c = 0 ↔ c = '0' := by
  obtain ⟨hlo, -⟩ := isDigit_iff.mp h
  constructor
  · intro hzero
    apply Char.toNat_inj.mp
    show c.toNat = 48
    have hsub : c.toNat - 48 = 0 := hzero
    omega
  · rintro rfl
    rfl

namespace IsDigits

theorem nil : IsDigits [] := fun _ h => absurd h List.not_mem_nil

theorem append (h : IsDigits digits) (h' : IsDigits digits') : IsDigits (digits ++ digits') :=
  List.forall_mem_append.mpr ⟨h, h'⟩

theorem not_mem (h : IsDigits digits) (hc : c.isDigit = false) : c ∉ digits := by
  intro hmem
  rw [h c hmem] at hc
  cases hc

end IsDigits

/-! ## Numbers -/

theorem number_nil : number [] = 0 := rfl

theorem number_append (digits digits' : List Char) :
    number (digits ++ digits') = number digits * 10 ^ digits'.length + number digits' := by
  unfold number
  rw [List.map_append, List.reverse_append, Nat.ofDigits_append, List.length_reverse,
    List.length_map]
  ring

theorem number_singleton (c : Char) : number [c] = digit c := Nat.ofDigits_singleton

theorem number_cons (c : Char) (digits : List Char) :
    number (c :: digits) = digit c * 10 ^ digits.length + number digits := by
  rw [← List.singleton_append, number_append, number_singleton]

theorem number_lt (h : IsDigits digits) : number digits < 10 ^ digits.length := by
  have hlt : Nat.ofDigits 10 (digits.map digit).reverse < 10 ^ (digits.map digit).reverse.length := by
    apply Nat.ofDigits_lt_base_pow_length (by decide)
    intro d hd
    obtain ⟨c, hc, rfl⟩ := List.mem_map.mp (List.mem_reverse.mp hd)
    exact digit_lt (h c hc)
  rw [List.length_reverse, List.length_map] at hlt
  exact hlt

theorem number_eq_zero_iff (h : IsDigits digits) : number digits = 0 ↔ ∀ c ∈ digits, c = '0' := by
  induction digits with
  | nil => simp [number_nil]
  | cons c digits ih =>
      obtain ⟨hc, hdigits⟩ := List.forall_mem_cons.mp h
      rw [number_cons, Nat.add_eq_zero_iff, ih hdigits, List.forall_mem_cons,
        Nat.mul_eq_zero, digit_eq_zero_iff hc]
      simp

/-- The digits without their last one. -/
theorem number_dropLast (h : digits ≠ []) (hdigits : IsDigits digits) :
    number digits.dropLast = number digits / 10 := by
  obtain ⟨init, c, rfl⟩ := (List.eq_nil_or_concat' digits).resolve_left h
  have hc : digit c < 10 := digit_lt (hdigits c (by simp))
  rw [List.dropLast_concat, number_append, number_singleton, List.length_singleton]
  omega

/-- Zeros in front make no difference. -/
theorem number_dropWhile (digits : List Char) :
    number (digits.dropWhile (· = '0')) = number digits := by
  induction digits with
  | nil => rfl
  | cons c digits ih =>
      by_cases hc : c = '0'
      · subst hc
        rw [List.dropWhile_cons_of_pos (by decide), ih, number_cons]
        show _ = 0 * _ + _
        omega
      · rw [List.dropWhile_cons_of_neg (by simpa using hc)]

/-! ## Fractions -/

/-- The digits after a point, rounded down to thousandths. -/
def thousandths (fraction : List Char) : Nat := number fraction * 1000 / 10 ^ fraction.length

theorem thousandths_lt (h : IsDigits digits) : thousandths digits < 1000 := by
  unfold thousandths
  rw [Nat.div_lt_iff_lt_mul (Nat.pow_pos (by decide))]
  have := number_lt h
  omega

/-- Only three digits are thousandths, apart from zeros. -/
theorem number_eq_thousandths_iff (h : IsDigits digits) :
    number digits = thousandths digits ↔ digits.length = 3 ∨ ∀ c ∈ digits, c = '0' := by
  rw [← number_eq_zero_iff h]
  have hlt := number_lt h
  unfold thousandths
  constructor
  · intro heq
    by_contra hne
    obtain ⟨hlength, hzero⟩ := not_or.mp hne
    have hpos : 0 < number digits := Nat.pos_of_ne_zero hzero
    rcases Nat.lt_or_gt_of_ne hlength with hshort | hlong
    · -- too few digits: each is worth more than it says
      have hpow : 10 ^ digits.length ≤ 100 := by
        calc 10 ^ digits.length ≤ 10 ^ 2 := Nat.pow_le_pow_right (by decide) (by omega)
          _ = 100 := rfl
      have hle : number digits * 10 ≤ number digits * 1000 / 10 ^ digits.length := by
        rw [Nat.le_div_iff_mul_le (Nat.pow_pos (by decide)), Nat.mul_assoc]
        exact Nat.mul_le_mul_left _ (by omega)
      omega
    · have hpow : 10000 ≤ 10 ^ digits.length := by
        calc 10000 = 10 ^ 4 := rfl
          _ ≤ 10 ^ digits.length := Nat.pow_le_pow_right (by decide) hlong
      have hle : number digits * 1000 / 10 ^ digits.length < number digits := by
        rw [Nat.div_lt_iff_lt_mul (Nat.pow_pos (by decide))]
        apply Nat.mul_lt_mul_of_pos_left _ hpos
        omega
      omega
  · rintro (hlength | hzero)
    · rw [hlength]
      omega
    · rw [hzero, Nat.zero_mul, Nat.zero_div]

/-! ## `stoi` -/

/-- `isspace`. -/
def isSpace (c : Char) : Bool := c = ' ' ∨ (9 ≤ c.toNat ∧ c.toNat ≤ 13)

/-- The number of the digits in front. Without a digit, or outside 32 bits, `stoi` throws. -/
def stoiDigits (negative : Bool) (s : List Char) : Option Int :=
  let digits := s.takeWhile Char.isDigit
  let n : Int := if negative then -(number digits : Int) else number digits
  if digits = [] then none
  else if -2147483648 ≤ n ∧ n ≤ 2147483647 then some n
  else none

def stoi (s : List Char) : Option Int :=
  match s.dropWhile isSpace with
  | '-' :: rest => stoiDigits true rest
  | '+' :: rest => stoiDigits false rest
  | rest => stoiDigits false rest

theorem takeWhile_digits (h : IsDigits digits) (hrest : ∀ c ∈ rest.head?, c.isDigit = false) :
    (digits ++ rest).takeWhile Char.isDigit = digits := by
  rw [List.takeWhile_append_of_pos h]
  cases rest with
  | nil => simp
  | cons c rest =>
      have hc : c.isDigit = false := hrest c rfl
      rw [List.takeWhile_cons_of_neg (by simp [hc]), List.append_nil]

theorem stoiDigits_append (hne : digits ≠ []) (h : IsDigits digits)
    (hrest : ∀ c ∈ rest.head?, c.isDigit = false) :
    stoiDigits false (digits ++ rest) =
      if number digits < 2147483648 then some (number digits : Int) else none := by
  unfold stoiDigits
  rw [takeWhile_digits h hrest]
  simp only [Bool.false_eq_true, if_false]
  rw [if_neg hne]
  apply if_congr _ rfl rfl
  omega

/-- A number in front of something else. -/
theorem stoi_append (hne : digits ≠ []) (h : IsDigits digits)
    (hrest : ∀ c ∈ rest.head?, c.isDigit = false) :
    stoi (digits ++ rest) =
      if number digits < 2147483648 then some (number digits : Int) else none := by
  rw [← stoiDigits_append hne h hrest]
  obtain ⟨c, tail, rfl⟩ := List.exists_cons_of_ne_nil hne
  obtain ⟨hlo, hhi⟩ := isDigit_iff.mp (h c List.mem_cons_self)
  have hspace : isSpace c = false := by
    have hblank : c ≠ ' ' := by
      rintro rfl
      exact absurd hlo (by decide)
    unfold isSpace
    simp only [hblank, false_or, decide_eq_false_iff_not]
    omega
  unfold stoi
  rw [List.cons_append, List.dropWhile_cons_of_neg (by simp [hspace])]
  split
  · next heq =>
      obtain ⟨rfl, -⟩ := List.cons.inj heq
      exact absurd hlo (by decide)
  · next heq =>
      obtain ⟨rfl, -⟩ := List.cons.inj heq
      exact absurd hlo (by decide)
  · rfl

theorem stoi_digits (hne : digits ≠ []) (h : IsDigits digits) :
    stoi digits = if number digits < 2147483648 then some (number digits : Int) else none := by
  have hend : ∀ c ∈ ([] : List Char).head?, c.isDigit = false := by simp
  have hread := stoi_append hne h hend
  rwa [List.append_nil] at hread

/-- At most nine digits are a number of 32 bits. -/
theorem stoi_of_length (hne : digits ≠ []) (h : IsDigits digits) (hlength : digits.length ≤ 9) :
    stoi digits = some (number digits : Int) := by
  have hlt := number_lt h
  have hpow : 10 ^ digits.length ≤ 10 ^ 9 := Nat.pow_le_pow_right (by decide) hlength
  rw [stoi_digits hne h, if_pos (by omega)]

theorem stoi_plus (hne : digits ≠ []) (h : IsDigits digits)
    (hrest : ∀ c ∈ rest.head?, c.isDigit = false) :
    stoi ('+' :: (digits ++ rest)) =
      if number digits < 2147483648 then some (number digits : Int) else none :=
  stoiDigits_append hne h hrest

/-! ## `atoi` -/

/-- The number in front, and 0 without a digit. -/
def leading (s : List Char) : Int :=
  match s.dropWhile isSpace with
  | '-' :: rest => -(number (rest.takeWhile Char.isDigit) : Int)
  | '+' :: rest => number (rest.takeWhile Char.isDigit)
  | rest => number (rest.takeWhile Char.isDigit)

/-- `strtol` stays within 64 bits. -/
def strtol (s : List Char) : Int := max (min (leading s) 9223372036854775807) (-9223372036854775808)

/-- `atoi` keeps the lower 32 of them. -/
def atoi (s : List Char) : Int := (strtol s).bmod 4294967296

/-- What is kept of the lower 16 bits. -/
theorem atoi_emod (s : List Char) : atoi s % 65536 = strtol s % 65536 := by
  unfold atoi
  rw [Int.bmod_def]
  split <;> omega

theorem strtol_of_port {s : List Char} (h : 1 ≤ leading s ∧ leading s ≤ 65535) :
    strtol s = leading s := by
  unfold strtol
  omega

end V2XHub.Lib.Decimal
