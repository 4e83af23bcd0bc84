import V2XHub.Pedestrian.Tracks

/-!
# What becomes of a track

The conversions are right for texts like those of the sample in the source: eight digits after the
point, a heading that does not round up to a full turn, and an id whose hexadecimal digits are as
many as those of any larger one and do not end in zero.
-/

namespace V2XHub.Pedestrian

open V2XHub.Lib (trunc)
open V2XHub.Lib.Decimal
open V2XHub.Flir (Digits₁)

/-! ## Coordinates -/

/-- A decimal number, with a fraction or without. -/
structure DecimalText where
  negative : Bool
  whole : Digits₁
  fraction : Option Digits₁
  deriving DecidableEq

namespace DecimalText

def fractionDigits (d : DecimalText) : List Char :=
  match d.fraction with
  | none => []
  | some fraction => fraction

def digits (d : DecimalText) : List Char := d.whole ++ d.fractionDigits

def sign (d : DecimalText) : List Char := if d.negative then ['-'] else []

def text (d : DecimalText) : List Char :=
  d.sign ++ (d.whole ++
    match d.fraction with
    | none => []
    | some fraction => '.' :: fraction.val)

def value (d : DecimalText) : ℚ :=
  (if d.negative then -1 else 1) * (number d.digits / (10 ^ d.fractionDigits.length : Nat))

/-- Without its last digit, the number is the value times `10 ^ 7`. -/
def Shifts (d : DecimalText) : Prop :=
  d.fractionDigits.length = 8 ∨
    2 ≤ d.digits.length ∧
      (number d.digits = 0 ∨ number d.digits < 10 ∧ 8 < d.fractionDigits.length)

theorem isDigits_fraction (d : DecimalText) : IsDigits d.fractionDigits := by
  unfold fractionDigits
  split
  · exact IsDigits.nil
  · next fraction _ => exact fraction.property.2

theorem isDigits (d : DecimalText) : IsDigits d.digits :=
  d.whole.property.2.append d.isDigits_fraction

theorem digits_ne_nil (d : DecimalText) : d.digits ≠ [] :=
  List.append_ne_nil_of_left_ne_nil d.whole.property.1 _

end DecimalText

/-- An integer in decimal. -/
def readDigits (negative : Bool) (digits : List Char) : Option Int :=
  if digits ≠ [] ∧ IsDigits digits then
    some (if negative then -(number digits : Int) else number digits)
  else none

def readInteger : List Char → Option Int
  | '-' :: digits => readDigits true digits
  | digits => readDigits false digits

/-- What is to hold of a coordinate. -/
def Scaled (d : DecimalText) (written : List Char) : Prop :=
  readInteger written = some (trunc (d.value * 10 ^ 7))

theorem filter_digits {digits : List Char} (h : IsDigits digits) :
    digits.filter (· ≠ '.') = digits := by
  apply List.filter_eq_self.mpr
  intro c hc
  apply decide_eq_true
  rintro rfl
  exact absurd (h _ hc) (by decide)

theorem coordinate_text (d : DecimalText) : coordinate d.text = d.sign ++ d.digits.dropLast := by
  have hsign : d.sign.filter (· ≠ '.') = d.sign := by
    unfold DecimalText.sign
    split <;> rfl
  have hfraction : (match d.fraction with
      | none => []
      | some fraction => '.' :: fraction.val).filter (· ≠ '.') = d.fractionDigits := by
    unfold DecimalText.fractionDigits
    split
    · rfl
    · next fraction _ =>
        rw [List.filter_cons_of_neg (by decide), filter_digits fraction.property.2]
  unfold coordinate DecimalText.text
  rw [List.filter_append, List.filter_append, hsign, hfraction, filter_digits d.whole.property.2]
  exact List.dropLast_append_of_ne_nil d.digits_ne_nil

theorem readInteger_sign (d : DecimalText) {digits : List Char} (h : IsDigits digits) :
    readInteger (d.sign ++ digits) =
      if digits = [] then none
      else some (if d.negative then -(number digits : Int) else number digits) := by
  have hread : readInteger (d.sign ++ digits) = readDigits d.negative digits := by
    unfold DecimalText.sign
    cases d.negative with
    | true => rfl
    | false =>
        show readInteger digits = readDigits false digits
        unfold readInteger
        split
        · next digits => exact absurd (h '-' List.mem_cons_self) (by decide)
        · rfl
  rw [hread]
  unfold readDigits
  by_cases hnil : digits = []
  · rw [if_pos hnil, if_neg fun hne => hne.1 hnil]
  · rw [if_neg hnil, if_pos ⟨hnil, h⟩]

theorem trunc_neg (q : ℚ) : trunc (-q) = -trunc q := by
  unfold trunc
  rcases lt_trichotomy q 0 with hlt | rfl | hgt
  · rw [if_pos (by linarith), if_neg (by linarith), Int.floor_neg]
  · simp
  · rw [if_neg (by linarith), if_pos hgt.le, Int.ceil_neg]

theorem trunc_value (d : DecimalText) :
    trunc (d.value * 10 ^ 7) =
      if d.negative then -((number d.digits * 10 ^ 7 / 10 ^ d.fractionDigits.length : Nat) : Int)
      else (number d.digits * 10 ^ 7 / 10 ^ d.fractionDigits.length : Nat) := by
  have hratio : trunc ((number d.digits : ℚ) / (10 ^ d.fractionDigits.length : Nat) * 10 ^ 7) =
      ((number d.digits * 10 ^ 7 / 10 ^ d.fractionDigits.length : Nat) : Int) := by
    have hnonneg : (0 : ℚ) ≤
        (number d.digits : ℚ) / (10 ^ d.fractionDigits.length : Nat) * 10 ^ 7 := by positivity
    have hcast : (number d.digits : ℚ) / (10 ^ d.fractionDigits.length : Nat) * 10 ^ 7 =
        ((number d.digits * 10 ^ 7 : Nat) : ℚ) / (10 ^ d.fractionDigits.length : Nat) := by
      push_cast
      ring
    unfold trunc
    rw [if_pos hnonneg, hcast, Rat.floor_natCast_div_natCast]
    rfl
  unfold DecimalText.value
  split_ifs
  · rw [← hratio, ← trunc_neg]
    congr 1
    ring
  · rw [← hratio]
    congr 1
    ring

/-- Dropping a digit of eight is right; with more digits or fewer only zeros are. -/
theorem div_ten_eq_iff (n k : Nat) :
    n / 10 = n * 10 ^ 7 / 10 ^ k ↔ k = 8 ∨ n = 0 ∨ n < 10 ∧ 8 < k := by
  rcases Nat.lt_trichotomy k 8 with hlt | rfl | hgt
  · -- the number grows
    have hpow : 10 ^ 7 = 10 ^ (7 - k) * 10 ^ k := by
      rw [← Nat.pow_add]
      congr 1
      omega
    have hpos : 0 < 10 ^ k := Nat.pow_pos (by decide)
    have hle : n ≤ n * 10 ^ (7 - k) := Nat.le_mul_of_pos_right n (Nat.pow_pos (by decide))
    rw [hpow, ← Nat.mul_assoc, Nat.mul_div_cancel _ hpos]
    constructor
    · omega
    · rintro (rfl | rfl | hsmall)
      · omega
      · rw [Nat.zero_mul]
      · omega
  · have height : n * 10 ^ 7 / 10 ^ 8 = n / 10 := by omega
    rw [height]
    exact iff_of_true rfl (.inl rfl)
  · -- it loses more than a digit
    have hpow : 10 ^ k = 10 ^ 7 * (10 * 10 ^ (k - 8)) := by
      rw [← Nat.pow_succ', ← Nat.pow_add]
      congr 1
      omega
    have hten : 10 ≤ 10 ^ (k - 8) := by
      calc 10 = 10 ^ 1 := rfl
        _ ≤ 10 ^ (k - 8) := Nat.pow_le_pow_right (by decide) (by omega)
    rw [hpow, Nat.mul_comm n, Nat.mul_div_mul_left _ _ (by decide : 0 < 10 ^ 7),
      ← Nat.div_div_eq_div_mul]
    constructor
    · intro heq
      by_contra hne
      have hpos : 0 < n / 10 := by omega
      have hless : n / 10 / 10 ^ (k - 8) < n / 10 := Nat.div_lt_self hpos (by omega)
      omega
    · intro hsmall
      have hzero : n / 10 = 0 := by omega
      rw [hzero, Nat.zero_div]

theorem length_fraction_lt (d : DecimalText) : d.fractionDigits.length < d.digits.length := by
  have hpos := List.length_pos_iff.mpr d.whole.property.1
  unfold DecimalText.digits
  rw [List.length_append]
  omega

theorem scaled_iff (d : DecimalText) : Scaled d (coordinate d.text) ↔ d.Shifts := by
  have hlength := length_fraction_lt d
  have hdropLast : IsDigits d.digits.dropLast := fun c hc => d.isDigits c (List.mem_of_mem_dropLast hc)
  have hnil : d.digits.dropLast = [] ↔ d.digits.length < 2 := by
    rw [← List.length_eq_zero_iff, List.length_dropLast]
    omega
  unfold Scaled
  rw [coordinate_text, readInteger_sign d hdropLast, trunc_value,
    number_dropLast d.digits_ne_nil d.isDigits]
  by_cases hshort : d.digits.length < 2
  · rw [if_pos (hnil.mpr hshort)]
    refine iff_of_false (by simp) ?_
    rintro (height | ⟨hlong, -⟩)
    · omega
    · omega
  · have hsame : (number d.digits / 10 = number d.digits * 10 ^ 7 / 10 ^ d.fractionDigits.length) ↔
        d.Shifts := by
      unfold DecimalText.Shifts
      rw [div_ten_eq_iff, and_iff_right (Nat.not_lt.mp hshort)]
    rw [if_neg (mt hnil.mp hshort), Option.some_inj, ← hsame]
    split_ifs
    · omega
    · omega

/-! ## Headings -/

/-- What is to hold of a heading: it is the angle up to whole turns, to the nearest unit. -/
def Turned (rawAlpha : ℚ) (alpha : Int) : Prop :=
  (0 ≤ alpha ∧ alpha ≤ 28799) ∧
    ∃ k : Int, |(alpha : ℚ) / 80 - (rawAlpha - 360 * k)| ≤ 1 / 160

/-- A negative angle is not a whole number of turns, nor less than one by half a unit. -/
def ClearOfTurns (rawAlpha : ℚ) : Prop :=
  0 ≤ rawAlpha ∨ ∀ k : Int, rawAlpha < 360 * k - 1 / 160 ∨ 360 * k < rawAlpha

theorem roundAway_of_nonneg {q : ℚ} (h : 0 ≤ q) : roundAway q = ⌊q + 1 / 2⌋ := if_pos h

/-- `fmod` and a full turn bring a negative angle between nothing and one. -/
theorem exists_turn {rawAlpha : ℚ} (h : rawAlpha < 0) :
    ∃ k : Int, fmod rawAlpha 360 + 360 = rawAlpha - 360 * k ∧
      0 < rawAlpha - 360 * k ∧ rawAlpha - 360 * k ≤ 360 := by
  have hneg : ¬ 0 ≤ rawAlpha / 360 := by
    intro hle
    have := (div_nonneg_iff.mp hle)
    rcases this with ⟨hge, -⟩ | ⟨-, hge⟩
    · linarith
    · linarith
  have htrunc : trunc (rawAlpha / 360) = ⌈rawAlpha / 360⌉ := if_neg hneg
  have hlo := Int.le_ceil (rawAlpha / 360)
  have hhi := Int.ceil_lt_add_one (rawAlpha / 360)
  refine ⟨⌈rawAlpha / 360⌉ - 1, ?_, ?_, ?_⟩
  · unfold fmod
    rw [htrunc]
    push_cast
    ring
  · push_cast
    linarith
  · push_cast
    linarith

/-- Rounding a turn in units. -/
theorem turned_round {r : ℚ} (hlo : 0 ≤ r) (hhi : r < 360 - 1 / 160) :
    (0 ≤ ⌊r * 80 + 1 / 2⌋ ∧ ⌊r * 80 + 1 / 2⌋ ≤ 28799) ∧
      |(⌊r * 80 + 1 / 2⌋ : ℚ) / 80 - r| ≤ 1 / 160 := by
  have hfloor := Int.floor_le (r * 80 + 1 / 2)
  have hnext := Int.lt_floor_add_one (r * 80 + 1 / 2)
  refine ⟨⟨Int.floor_nonneg.mpr (by linarith), ?_⟩, ?_⟩
  · apply Int.le_of_lt_add_one
    apply Int.floor_lt.mpr
    push_cast
    linarith
  · rw [abs_le]
    constructor
    · linarith
    · linarith

theorem turned_iff {rawAlpha : ℚ} (h : rawAlpha ≤ 90) :
    Turned rawAlpha (alphaOf rawAlpha) ↔ ClearOfTurns rawAlpha := by
  have hunits : ∀ q : ℚ, q / (1 / 80) = q * 80 := fun q => by ring
  unfold alphaOf
  by_cases hneg : rawAlpha < 0
  · obtain ⟨j, hj, hlo, hhi⟩ := exists_turn hneg
    simp only [if_pos hneg, hj]
    rw [hunits, roundAway_of_nonneg (by linarith)]
    constructor
    · rintro ⟨⟨-, hmax⟩, -⟩
      refine .inr fun k => ?_
      by_contra hclose
      obtain ⟨hbelow, habove⟩ := not_or.mp hclose
      -- the turn that is near is the one above
      have hk : k = j + 1 := by
        have hlt : (k : ℚ) < j + 2 := by linarith
        have hgt : (j : ℚ) < k := by linarith
        have hlt' : k < j + 2 := by exact_mod_cast hlt
        have hgt' : j < k := by exact_mod_cast hgt
        omega
      subst hk
      push_cast at hbelow
      have hround : (28800 : Int) ≤ ⌊(rawAlpha - 360 * j) * 80 + 1 / 2⌋ := by
        apply Int.le_floor.mpr
        push_cast
        linarith
      omega
    · intro hclear
      have hnear := (hclear.resolve_left (by linarith)) (j + 1)
      push_cast at hnear
      have hless : rawAlpha - 360 * j < 360 - 1 / 160 := by
        rcases hnear with hnear | hnear
        · linarith
        · linarith
      obtain ⟨hrange, hround⟩ := turned_round hlo.le hless
      exact ⟨hrange, j, hround⟩
  · have hnonneg : 0 ≤ rawAlpha := not_lt.mp hneg
    simp only [if_neg hneg]
    rw [hunits, roundAway_of_nonneg (by linarith)]
    obtain ⟨hrange, hround⟩ := turned_round hnonneg (by linarith)
    refine iff_of_true ⟨hrange, 0, ?_⟩ (.inl hnonneg)
    rwa [Int.cast_zero, mul_zero, sub_zero]

/-! ## Ids -/

/-- The value of a hexadecimal digit. -/
def hexDigit (c : Char) : Nat := if c.isDigit then c.toNat - 48 else c.toNat - 87

def hexValue (digits : List Char) : Nat := Nat.ofDigits 16 (digits.map hexDigit).reverse

theorem hexValue_append (digits digits' : List Char) :
    hexValue (digits ++ digits') = hexValue digits * 16 ^ digits'.length + hexValue digits' := by
  unfold hexValue
  rw [List.map_append, List.reverse_append, Nat.ofDigits_append, List.length_reverse,
    List.length_map]
  ring

theorem hexDigit_digitChar {n : Nat} (h : n < 16) : hexDigit n.digitChar = n := by
  interval_cases n <;> rfl

theorem hexValue_toDigits (n : Nat) : hexValue (Nat.toDigits 16 n) = n := by
  -- on the number, digit by digit from the end
  induction n using Nat.strong_induction_on with
  | _ n ih =>
      have hsingle : ∀ m < 16, hexValue [m.digitChar] = m := by
        intro m hm
        show Nat.ofDigits 16 [hexDigit m.digitChar] = m
        rw [Nat.ofDigits_singleton, hexDigit_digitChar hm]
      rw [Nat.toDigits_eq_if (by decide)]
      split
      · next hlt => exact hsingle n hlt
      · next hge =>
          rw [hexValue_append, ih (n / 16) (by omega), hsingle _ (by omega)]
          show n / 16 * 16 ^ 1 + n % 16 = n
          omega

theorem hexValue_zeros (k : Nat) : hexValue (List.replicate k '0') = 0 := by
  induction k with
  | zero => rfl
  | succ k ih =>
      rw [List.replicate_succ', hexValue_append, ih]
      rfl

/-- An id: not negative, and one of 31 bits. -/
abbrev Id := { id : Nat // id < 2147483648 }

theorem hex_id (id : Id) : hex id.val = Nat.toDigits 16 id.val := by
  have hlt := id.property
  unfold hex
  congr 1
  omega

theorem length_hex_le (id : Id) : (Nat.toDigits 16 id.val).length ≤ 8 := by
  rw [Nat.length_toDigits_le_iff (by decide) (by decide)]
  have hlt := id.property
  omega

theorem length_fourOctets (id : Id) : (fourOctets id.val).length = 8 := by
  have hle := length_hex_le id
  unfold fourOctets
  rw [hex_id, List.length_append, List.length_replicate]
  omega

/-- The zeros at the end multiply the id. -/
theorem hexValue_fourOctets (id : Id) :
    hexValue (fourOctets id.val) = id.val * 16 ^ (8 - (Nat.toDigits 16 id.val).length) := by
  unfold fourOctets
  rw [hex_id, hexValue_append, hexValue_toDigits, hexValue_zeros, List.length_replicate,
    Nat.add_zero]

/-- A zero more in the id is one less behind it. -/
theorem fourOctets_mul {id : Nat} (hpos : 0 < id) (h : id * 16 < 2147483648) :
    fourOctets (id * 16 : Nat) = fourOctets id := by
  have hlt : id < 2147483648 := by omega
  have hdigits : Nat.toDigits 16 (id * 16) = Nat.toDigits 16 id ++ ['0'] := by
    rw [Nat.toDigits_of_base_le (by decide) (by omega), Nat.mul_div_cancel _ (by decide),
      Nat.mul_mod_left]
    rfl
  have hle := length_hex_le ⟨id * 16, h⟩
  unfold fourOctets
  rw [hex_id ⟨id * 16, h⟩, hex_id ⟨id, hlt⟩]
  simp only at hle ⊢
  rw [hdigits] at hle ⊢
  rw [List.length_append, List.length_singleton] at hle ⊢
  rw [List.append_assoc, show 8 - (Nat.toDigits 16 id).length =
    8 - ((Nat.toDigits 16 id).length + 1) + 1 by omega, List.replicate_succ]
  rfl

/-- What is to hold of an id: it has four octets, and no other id has these. -/
def Distinct (id : Id) (written : List Char) : Prop :=
  written.length = 8 ∧ ∀ other : Id, other ≠ id → fourOctets other.val ≠ written

/-- No zero can be appended to the id, and it does not end in one. -/
def FillsOctets (id : Id) : Prop := id.val = 0 ∨ 134217728 ≤ id.val ∧ ¬ 16 ∣ id.val

theorem eq_of_shifted {a b i j : Nat} (ha : a = 0 ∨ 134217728 ≤ a ∧ ¬ 16 ∣ a)
    (hb : b < 2147483648) (h : a * 16 ^ i = b * 16 ^ j) : a = b := by
  rcases ha with rfl | ⟨hlarge, hdvd⟩
  · rw [Nat.zero_mul] at h
    exact ((Nat.mul_eq_zero.mp h.symm).resolve_right (Nat.pow_pos (by decide)).ne').symm
  · rcases Nat.lt_trichotomy i j with hlt | rfl | hgt
    · obtain ⟨k, rfl⟩ := Nat.exists_eq_add_of_lt hlt
      have hback : a = b * 16 ^ k * 16 := by
        apply Nat.eq_of_mul_eq_mul_right (Nat.pow_pos (by decide : 0 < 16) (n := i))
        rw [h]
        ring
      exact absurd ⟨_, hback.trans (Nat.mul_comm _ _)⟩ hdvd
    · exact Nat.eq_of_mul_eq_mul_right (Nat.pow_pos (by decide)) h
    · obtain ⟨k, rfl⟩ := Nat.exists_eq_add_of_lt hgt
      have hon : a * 16 ^ k * 16 = b := by
        apply Nat.eq_of_mul_eq_mul_right (Nat.pow_pos (by decide : 0 < 16) (n := j))
        rw [← h]
        ring
      have hle : a ≤ a * 16 ^ k := Nat.le_mul_of_pos_right a (Nat.pow_pos (by decide))
      omega

theorem distinct_iff (id : Id) : Distinct id (fourOctets id.val) ↔ FillsOctets id := by
  have hlt := id.property
  constructor
  · rintro ⟨-, hother⟩
    by_contra hfills
    obtain ⟨hne, hrest⟩ := not_or.mp hfills
    have hpos : 0 < id.val := Nat.pos_of_ne_zero hne
    by_cases hsmall : id.val < 134217728
    · have hlonger : id.val * 16 < 2147483648 := by omega
      refine hother ⟨id.val * 16, hlonger⟩ ?_ (fourOctets_mul hpos hlonger)
      intro heq
      have hval : id.val * 16 = id.val := congrArg Subtype.val heq
      omega
    · obtain ⟨shorter, hshorter⟩ : 16 ∣ id.val := by
        by_contra hdvd
        exact hrest ⟨by omega, hdvd⟩
      have hback : id.val = shorter * 16 := by omega
      have hshorter : shorter < 2147483648 := by omega
      have hsame : fourOctets (shorter * 16 : Nat) = fourOctets shorter :=
        fourOctets_mul (by omega) (by omega)
      refine hother ⟨shorter, hshorter⟩ ?_ ?_
      · intro heq
        have hval : shorter = id.val := congrArg Subtype.val heq
        omega
      · rw [hback]
        exact hsame.symm
  · intro hfills
    refine ⟨length_fourOctets id, fun other hne heq => ?_⟩
    have hvalue := congrArg hexValue heq
    rw [hexValue_fourOctets, hexValue_fourOctets] at hvalue
    exact hne (Subtype.ext (eq_of_shifted hfills other.property hvalue.symm).symm)

/-! ## Entries -/

/-- An entry with an angle in whole degrees and an id of 31 bits. -/
structure Detected where
  latitude : DecimalText
  longitude : DecimalText
  angle : DecimalText
  iD : Digits₁
  speed : List Char
  angle_sign : angle.negative = false
  angle_whole : ∀ c ∈ angle.fractionDigits, c = '0'
  angle_lt : number angle.whole < 360
  iD_lt : number iD < 2147483648

namespace Detected

def entry (d : Detected) : Track where
  angle := some d.angle.text
  iD := some d.iD
  latitude := some d.latitude.text
  longitude := some d.longitude.text
  speed := some d.speed

def id (d : Detected) : Id := ⟨number d.iD, d.iD_lt⟩

/-- The angle, turned by the rotation of the camera. -/
def rawAlpha (cameraRotation : ℚ) (d : Detected) : ℚ :=
  cameraRotation - number d.angle.whole - 270

/-- The condition under which everything about the entry is right. -/
def Converts (cameraRotation : ℚ) (d : Detected) : Prop :=
  d.latitude.Shifts ∧ d.longitude.Shifts ∧ ClearOfTurns (d.rawAlpha cameraRotation) ∧
    FillsOctets d.id

end Detected

/-- What is to hold of the position, the heading and the id in a message. -/
def Shown (cameraRotation : ℚ) (d : Detected) (lat long : List Char) (heading : Int)
    (id : List Char) : Prop :=
  Scaled d.latitude lat ∧ Scaled d.longitude long ∧ Turned (d.rawAlpha cameraRotation) heading ∧
    Distinct d.id id

def Message.Shows (cameraRotation : ℚ) (d : Detected) : Message → Prop
  | .psm m => Shown cameraRotation d m.lat m.long m.heading m.id
  | .sdsm m => Shown cameraRotation d m.lat m.long m.heading m.sourceID

theorem text_ne_nil (d : DecimalText) : d.text ≠ [] := by
  have hwhole := d.whole.property.1
  unfold DecimalText.text
  apply List.append_ne_nil_of_right_ne_nil
  exact List.append_ne_nil_of_left_ne_nil hwhole _

theorem stoi_angle (d : Detected) : stoi d.angle.text = some (number d.angle.whole : Int) := by
  have hsign : d.angle.sign = [] := by
    unfold DecimalText.sign
    rw [d.angle_sign]
    rfl
  have hrest : ∀ c ∈ (match d.angle.fraction with
      | none => []
      | some fraction => '.' :: fraction.val).head?, c.isDigit = false := by
    intro c hc
    split at hc
    · cases hc
    · obtain rfl := Option.mem_some_iff.mp hc
      rfl
  have hlt := d.angle_lt
  unfold DecimalText.text
  rw [hsign, List.nil_append, stoi_append d.angle.whole.property.1 d.angle.whole.property.2 hrest,
    if_pos (by omega)]

theorem stoi_iD (d : Detected) : stoi d.iD.val = some (d.id.val : Int) := by
  rw [stoi_digits d.iD.property.1 d.iD.property.2, if_pos d.iD_lt]
  rfl

section

variable {stof : List Char → Option ℚ}

theorem parseTrack_entry (cameraRotation : ℚ) {d : Detected}
    (hspeed : d.speed = [] ∨ ∃ v, stof d.speed = some v) :
    ∃ speed, parseTrack stof cameraRotation d.entry = .ok
      { alpha := alphaOf (d.rawAlpha cameraRotation)
        idResult := fourOctets d.id.val
        objID := (toString ((d.id.val : Int).tmod 65535)).toList
        lat := coordinate d.latitude.text
        lon := coordinate d.longitude.text
        speed } := by
  have hangle : parseAngle cameraRotation d.angle.text =
      .ok (alphaOf (d.rawAlpha cameraRotation)) := by
    unfold parseAngle
    rw [if_neg (text_ne_nil d.angle), stoi_angle]
    rfl
  have hid : parseId d.iD.val =
      .ok (fourOctets d.id.val, (toString ((d.id.val : Int).tmod 65535)).toList) := by
    unfold parseId
    rw [if_neg d.iD.property.1, stoi_iD]
    rfl
  have hparseSpeed : ∃ speed, parseSpeed stof d.speed = .ok speed := by
    unfold parseSpeed
    split
    · exact ⟨8191, rfl⟩
    · next hne =>
        obtain ⟨v, hv⟩ := hspeed.resolve_left hne
        rw [hv]
        exact ⟨_, rfl⟩
  obtain ⟨speed, hspeed⟩ := hparseSpeed
  refine ⟨speed, ?_⟩
  unfold parseTrack Detected.entry
  simp only [child, Except.bind, hangle, hid, hspeed]
  rfl

variable {c : Camera} (standard : Int) {time : List Char} {dateTimeArr : ParsedTime}

/-- The messages of an entry are right exactly under its condition. -/
theorem messages_show_iff (hrotation : c.cameraRotation ≤ 360) (d : Detected) (msgCount speed : Int)
    (dateTimeArr : ParsedTime) (objID : List Char) :
    (∀ m ∈ messages c msgCount dateTimeArr
        { alpha := alphaOf (d.rawAlpha c.cameraRotation)
          idResult := fourOctets d.id.val
          objID
          lat := coordinate d.latitude.text
          lon := coordinate d.longitude.text
          speed }, m.Shows c.cameraRotation d) ↔
      (c.generatePSM = false ∧ c.generateSDSM = false) ∨ d.Converts c.cameraRotation := by
  have hraw : d.rawAlpha c.cameraRotation ≤ 90 := by
    have hangle : (0 : ℚ) ≤ number d.angle.whole.val := Nat.cast_nonneg _
    unfold Detected.rawAlpha
    linarith
  have hshown : Shown c.cameraRotation d (coordinate d.latitude.text) (coordinate d.longitude.text)
      (alphaOf (d.rawAlpha c.cameraRotation)) (fourOctets d.id.val) ↔
        d.Converts c.cameraRotation :=
    and_congr (scaled_iff _) (and_congr (scaled_iff _) (and_congr (turned_iff hraw)
      (distinct_iff _)))
  rw [← hshown]
  unfold messages
  cases c.generatePSM <;> cases c.generateSDSM <;>
    simp [Message.Shows, personalSafetyMessage, sensorDataSharingMessage]

/-- What is said of the messages of an entry: all that are generated are there, and they are right
exactly under its condition. Without a message nothing can be wrong. -/
structure Answers (c : Camera) (d : Detected) (ms : List Message) : Prop where
  complete : ms.length = c.generatePSM.toNat + c.generateSDSM.toNat
  shows_iff : (∀ m ∈ ms, m.Shows c.cameraRotation d) ↔
    (c.generatePSM = false ∧ c.generateSDSM = false) ∨ d.Converts c.cameraRotation

theorem processTrack_entry (hrotation : c.cameraRotation ≤ 360)
    (hparse : timeStringParser time = some dateTimeArr) (s : Session) {d : Detected}
    (hspeed : d.speed = [] ∨ ∃ v, stof d.speed = some v) :
    ∃ s' ms, processTrack stof c standard time s d.entry = .ok s' ∧
      s'.msgQueue = s.msgQueue ++ ms ∧ Answers c d ms := by
  obtain ⟨speed, hd⟩ := parseTrack_entry c.cameraRotation hspeed
  have hshow := messages_show_iff hrotation d (nextCount s.msgCount) speed dateTimeArr
    (toString ((d.id.val : Int).tmod 65535)).toList
  unfold processTrack
  rw [hd, hparse]
  refine ⟨_, _, rfl, rfl, ?_, hshow⟩
  unfold messages
  cases c.generatePSM <;> cases c.generateSDSM <;> rfl

theorem processTracks_entries (hrotation : c.cameraRotation ≤ 360)
    (hparse : timeStringParser time = some dateTimeArr) (s : Session) (track : List Detected)
    (hspeed : ∀ d ∈ track, d.speed = [] ∨ ∃ v, stof d.speed = some v) :
    ∃ s' written,
      processTracks stof c standard time s (track.map Detected.entry) = (s', none) ∧
        s'.msgQueue = s.msgQueue ++ written.flatten ∧ List.Forall₂ (Answers c) track written := by
  induction track generalizing s with
  | nil => exact ⟨s, [], rfl, (List.append_nil _).symm, .nil⟩
  | cons d track ih =>
      obtain ⟨hd, htrack⟩ := List.forall_mem_cons.mp hspeed
      obtain ⟨t, ms, ht, hqueue, hms⟩ := processTrack_entry standard hrotation hparse s hd
      obtain ⟨u, written, hu, hrest, hall⟩ := ih t htrack
      refine ⟨u, ms :: written, ?_, ?_, .cons hms hall⟩
      · rw [List.map_cons, processTracks, ht]
        exact hu
      · rw [hrest, hqueue, List.flatten_cons, List.append_assoc]

/-- **Tracks**: every entry gets its messages, and these have the position, the heading and the id
of the entry exactly if its texts are such that the conversions work. -/
theorem processPedestrianData_answers (hrotation : c.cameraRotation ≤ 360)
    (hparse : timeStringParser time = some dateTimeArr) (s : Session) (track : List Detected)
    (hspeed : ∀ d ∈ track, d.speed = [] ∨ ∃ v, stof d.speed = some v) :
    ∃ s' written,
      processPedestrianData stof c standard time s (some (track.map Detected.entry)) = (s', none) ∧
        s'.msgQueue = s.msgQueue ++ written.flatten ∧ List.Forall₂ (Answers c) track written := by
  obtain ⟨s', written, hrun, hrest⟩ := processTracks_entries standard hrotation hparse s track hspeed
  refine ⟨s', written, ?_, hrest⟩
  unfold processPedestrianData
  simp only [hrun]

end

/-- An entry as in the sample, with such an angle and such an id. -/
def sample (angle : Digits₁) (hangle : number angle < 360) (iD : Digits₁)
    (hiD : number iD < 2147483648) : Detected where
  latitude := ⟨false, ⟨['3', '8'], by decide⟩, some ⟨"95499217".toList, by decide⟩⟩
  longitude := ⟨true, ⟨['7', '7'], by decide⟩, some ⟨"14920953".toList, by decide⟩⟩
  angle := ⟨false, angle, some ⟨"00000000".toList, by decide⟩⟩
  iD := iD
  speed := "1.41873741".toList
  angle_sign := rfl
  angle_whole := fun _ hc => List.eq_of_mem_replicate (n := 8) hc
  angle_lt := hangle
  iD_lt := hiD

/-- A camera that is not rotated, with only PSMs generated. -/
def psmOnly : Camera where
  cameraRotation := 0
  generatePSM := true
  generateSDSM := false
  generateTIM := false

/-- The time in the sample. -/
def sampleTime : List Char := "2022-04-20T15:25:51.001-04:00".toList

theorem sampleTime_parsed :
    timeStringParser sampleTime = some ⟨2022, 4, 20, 15, 25, 51, 51001⟩ := by decide +kernel

theorem processPedestrianData_answers_sample :
    ∃ s' written,
      processPedestrianData (fun _ => some 1) psmOnly 0 sampleTime { tim := ⟨0, 0⟩ }
          (some ([sample ⟨['2', '6', '3'], by decide⟩ (by decide)
            ⟨"159686461".toList, by decide⟩ (by decide)].map Detected.entry)) = (s', none) ∧
        s'.msgQueue = [] ++ written.flatten ∧
          List.Forall₂ (Answers psmOnly)
            [sample ⟨['2', '6', '3'], by decide⟩ (by decide)
              ⟨"159686461".toList, by decide⟩ (by decide)] written :=
  processPedestrianData_answers 0 (by norm_num [psmOnly]) sampleTime_parsed _ _
    fun _ _ => .inr ⟨1, rfl⟩

/-- A pedestrian at a right angle in front of a camera that is not rotated heads north, and the
heading written for that is the one for unavailable headings. -/
theorem north_unavailable :
    ¬ ∀ (c : Camera) (d : Detected), 0 ≤ c.cameraRotation → c.cameraRotation ≤ 360 → ∀ s',
      processPedestrianData (fun _ => some 1) c 0 sampleTime { tim := ⟨0, 0⟩ }
        (some [d.entry]) = (s', none) → ∀ m ∈ s'.msgQueue, m.Shows c.cameraRotation d := by
  intro h
  let d := sample ⟨['9', '0'], by decide⟩ (by decide) ⟨"159686461".toList, by decide⟩ (by decide)
  have hrotation : psmOnly.cameraRotation ≤ 360 := by norm_num [psmOnly]
  obtain ⟨s', written, hrun, hqueue, hall⟩ : ∃ s' written,
      processTracks (fun _ => some 1) psmOnly 0 sampleTime { tim := ⟨0, 0⟩ }
          ([d].map Detected.entry) = (s', none) ∧
        s'.msgQueue = [] ++ written.flatten ∧ List.Forall₂ (Answers psmOnly) [d] written :=
    processTracks_entries 0 hrotation sampleTime_parsed _ _ fun _ _ => .inr ⟨1, rfl⟩
  have hdata : processPedestrianData (fun _ => some 1) psmOnly 0 sampleTime { tim := ⟨0, 0⟩ }
      (some [d.entry]) = (s', none) := by
    rw [List.map_singleton] at hrun
    unfold processPedestrianData
    simp only [hrun]
  have hshows := h psmOnly d (by norm_num [psmOnly]) hrotation s' hdata
  obtain ⟨ms, rest, hanswers, hnil, rfl⟩ := List.forall₂_cons_left_iff.mp hall
  obtain rfl := List.forall₂_nil_left_iff.mp hnil
  rw [hqueue, List.flatten_cons, List.flatten_nil, List.append_nil, List.nil_append] at hshows
  rcases hanswers.shows_iff.mp hshows with ⟨hpsm, -⟩ | ⟨-, -, hclear, -⟩
  · cases hpsm
  · have hraw : d.rawAlpha psmOnly.cameraRotation = -360 := by
      have hangle : number d.angle.whole = 90 := by decide
      unfold Detected.rawAlpha
      rw [hangle]
      norm_num [psmOnly]
    rw [hraw] at hclear
    rcases hclear with hnonneg | hturns
    · norm_num at hnonneg
    · have hturn := hturns (-1)
      norm_num at hturn

end V2XHub.Pedestrian
