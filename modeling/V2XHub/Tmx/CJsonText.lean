import Mathlib.Data.Nat.Digits.Lemmas
import V2XHub.Lib.Trunc

/-!
# The texts of cJSON

`cJSON_Print` and `cJSON_PrintUnformatted` write an item as a text, and `cJSON_Parse` reads one.
Texts and strings are C strings, given by the bytes before their NUL.

A number is kept twice, as a `double` and as an integer. A `double` is a rational number here, which
it is exactly for the integers below 2^53 that the results are about; how other numbers are written
is a parameter. A text that ends within an escape is read past its end: `none`.

**Main results** `parseNumber_decimal`, `parseString_printString`: an integer and a string are read
back from what is written.
-/

namespace V2XHub.Tmx

namespace CJsonText

open V2XHub.Lib

inductive Item where
  | false
  | true
  | null
  | number (valueint : Int) (valuedouble : ℚ)
  | string (valuestring : List UInt8)
  | array (items : List Item)
  | object (members : List (List UInt8 × Item))

def quote : UInt8 := 0x22
def backslash : UInt8 := 0x5c

/-- The bytes of an ASCII text. -/
def ascii (s : String) : List UInt8 := s.toList.map fun c => UInt8.ofNat c.toNat

/-! ## Printing -/

def decimalDigit (d : Nat) : UInt8 := UInt8.ofNat (0x30 + d)

/-- `%lld`, and `%.0f` of an integer. -/
def decimalNat (n : Nat) : List UInt8 :=
  if n = 0 then [decimalDigit 0] else (Nat.digits 10 n).reverse.map decimalDigit

def decimal (z : Int) : List UInt8 :=
  if z < 0 then 0x2d :: decimalNat z.natAbs else decimalNat z.natAbs

/-- `DBL_EPSILON` -/
def dblEpsilon : ℚ := 1 / 2 ^ 52

/-- A lower-case hexadecimal digit. -/
def hexDigit (d : UInt8) : UInt8 := if d < 10 then 0x30 + d else 0x57 + d

/-- A byte as `print_string_ptr` writes it. -/
def escape (b : UInt8) : List UInt8 :=
  if b > 31 ∧ b ≠ quote ∧ b ≠ backslash then [b]
  else
    backslash ::
      if b = backslash then [backslash]
      else if b = quote then [quote]
      else if b = 0x08 then [0x62]
      else if b = 0x0c then [0x66]
      else if b = 0x0a then [0x6e]
      else if b = 0x0d then [0x72]
      else if b = 0x09 then [0x74]
      else [0x75, 0x30, 0x30, hexDigit (b / 16), hexDigit (b % 16)]

def printString (s : List UInt8) : List UInt8 := quote :: (s.flatMap escape ++ [quote])

section

variable (realText : ℚ → List UInt8)

/-- Integers with their number in the range of an `int` are written from the integer, other integers
from the number. -/
def printNumber (valueint : Int) (d : ℚ) : List UInt8 :=
  if |(valueint : ℚ) - d| ≤ dblEpsilon ∧ d ≤ 2147483647 ∧ -2147483648 ≤ d then decimal valueint
  else if |(⌊d⌋ : ℚ) - d| ≤ dblEpsilon ∧ |d| < 10 ^ 60 then decimal ⌊d⌋
  else realText d

def newline (fmt : Bool) : List UInt8 := if fmt then [0x0a] else []

def tabs (fmt : Bool) (depth : Nat) : List UInt8 := if fmt then List.replicate depth 0x09 else []

mutual

/-- `print_value` -/
def printValue (fmt : Bool) (depth : Nat) : Item → List UInt8
  | .null => ascii "null"
  | .false => ascii "false"
  | .true => ascii "true"
  | .number valueint valuedouble => printNumber realText valueint valuedouble
  | .string s => printString s
  | .array [] => ascii "[]"
  | .array (item :: items) =>
      0x5b :: (printValue fmt (depth + 1) item ++ printItems fmt (depth + 1) items ++ [0x5d])
  | .object [] => 0x7b :: (newline fmt ++ tabs fmt (depth - 1) ++ [0x7d])
  | .object ((name, item) :: members) =>
      0x7b :: (newline fmt ++ tabs fmt (depth + 1) ++ printString name ++ 0x3a :: tabs fmt 1 ++
        printValue fmt (depth + 1) item ++ printMembers fmt (depth + 1) members ++ newline fmt ++
        tabs fmt depth ++ [0x7d])

/-- The entries of an array behind the first one. -/
def printItems (fmt : Bool) (depth : Nat) : List Item → List UInt8
  | [] => []
  | item :: items =>
      0x2c :: ((if fmt then [0x20] else []) ++ printValue fmt depth item ++
        printItems fmt depth items)

/-- The entries of an object behind the first one. -/
def printMembers (fmt : Bool) (depth : Nat) : List (List UInt8 × Item) → List UInt8
  | [] => []
  | (name, item) :: members =>
      0x2c :: (newline fmt ++ tabs fmt depth ++ printString name ++ 0x3a :: tabs fmt 1 ++
        printValue fmt depth item ++ printMembers fmt depth members)

end

/-- `cJSON_Print`, and `cJSON_PrintUnformatted`. -/
def cJson_print (fmt : Bool) (item : Item) : List UInt8 := printValue realText fmt 0 item

end

/-! ## Parsing -/

/-- White space and control characters. -/
def skip (s : List UInt8) : List UInt8 := s.dropWhile (· ≤ 32)

def isDigit (b : UInt8) : Bool := 0x30 ≤ b ∧ b ≤ 0x39

def digitValue (b : UInt8) : Nat := b.toNat - 0x30

/-- The number of a run of digits. -/
def digitsValue (digits : List UInt8) : Nat :=
  digits.foldl (fun n b => n * 10 + digitValue b) 0

/-- The sign of an exponent, if any. -/
def parseSign : List UInt8 → Int × List UInt8
  | 0x2b :: rest => (1, rest)
  | 0x2d :: rest => (-1, rest)
  | rest => (1, rest)

/-- The exponent behind a number, and what follows. -/
def parseExponent : List UInt8 → Int × List UInt8
  | [] => (0, [])
  | b :: rest =>
      if b = 0x65 ∨ b = 0x45 then
        let (signsubscale, rest) := parseSign rest
        (signsubscale * digitsValue (rest.takeWhile isDigit), rest.dropWhile isDigit)
      else (0, b :: rest)

/-- The digits behind a point, if there is one. -/
def parseFraction : List UInt8 → List UInt8 × List UInt8
  | [] => ([], [])
  | b :: rest =>
      if b = 0x2e then (rest.takeWhile isDigit, rest.dropWhile isDigit) else ([], b :: rest)

/-- A number without its sign, as a number of digits and an exponent. -/
def parseUnsigned (num : List UInt8) : ℚ × List UInt8 :=
  let num := num.dropWhile (· = 0x30)
  let (fraction, rest) := parseFraction (num.dropWhile isDigit)
  let (exponent, rest) := parseExponent rest
  (digitsValue (num.takeWhile isDigit ++ fraction) * 10 ^ (exponent - fraction.length), rest)

/-- `parse_number` -/
def parseNumber : List UInt8 → Item × List UInt8
  | [] => (.number 0 0, [])
  | b :: num =>
      let (n, rest) : ℚ × List UInt8 :=
        if b = 0x2d then (-(parseUnsigned num).1, (parseUnsigned num).2)
        else parseUnsigned (b :: num)
      (.number (trunc n) n, rest)

def hexValue (b : UInt8) : Option Nat :=
  if 0x30 ≤ b ∧ b ≤ 0x39 then some (b.toNat - 0x30)
  else if 0x41 ≤ b ∧ b ≤ 0x46 then some (b.toNat - 0x37)
  else if 0x61 ≤ b ∧ b ≤ 0x66 then some (b.toNat - 0x57)
  else none

/-- `parse_hex4`, which is 0 for what is no number. -/
def parseHex4 (a b c d : UInt8) : Nat :=
  match hexValue a, hexValue b, hexValue c, hexValue d with
  | some a, some b, some c, some d => ((a * 16 + b) * 16 + c) * 16 + d
  | _, _, _, _ => 0

/-- A code point in UTF-8. -/
def utf8 (uc : Nat) : List UInt8 :=
  let last (uc : Nat) : UInt8 := UInt8.ofNat (0x80 + uc % 64)
  if uc < 0x80 then [UInt8.ofNat uc]
  else if uc < 0x800 then [UInt8.ofNat (0xc0 + uc / 64), last uc]
  else if uc < 0x10000 then [UInt8.ofNat (0xe0 + uc / 4096), last (uc / 64), last uc]
  else [UInt8.ofNat (0xf0 + uc / 262144), last (uc / 4096), last (uc / 64), last uc]

def unescape (b : UInt8) : UInt8 :=
  if b = 0x62 then 0x08
  else if b = 0x66 then 0x0c
  else if b = 0x6e then 0x0a
  else if b = 0x72 then 0x0d
  else if b = 0x74 then 0x09
  else b

/-- The bytes in front of what is left of a text. -/
def before (bytes : List UInt8) (read : Option (List UInt8 × List UInt8)) :
    Option (List UInt8 × List UInt8) :=
  read.map fun r => (bytes ++ r.1, r.2)

/-- `parse_string` behind the opening quote. A text may end without a closing one. -/
def parseStringBody : List UInt8 → Option (List UInt8 × List UInt8)
  | [] => some ([], [])
  | b :: rest =>
      if b = quote then some ([], rest)
      else if b ≠ backslash then before [b] (parseStringBody rest)
      else
        match rest with
        | [] => none
        | 0x75 :: a :: b :: c :: d :: rest =>
            let uc := parseHex4 a b c d
            if 0xdc00 ≤ uc ∧ uc ≤ 0xdfff ∨ uc = 0 then parseStringBody rest
            else if 0xd800 ≤ uc ∧ uc ≤ 0xdbff then
              match rest with
              | 0x5c :: 0x75 :: a :: b :: c :: d :: rest =>
                  let uc2 := parseHex4 a b c d
                  if uc2 < 0xdc00 ∨ 0xdfff < uc2 then parseStringBody rest
                  else
                    before (utf8 (0x10000 + (uc % 1024 * 1024 + uc2 % 1024))) (parseStringBody rest)
              | [0x5c, 0x75] => none
              | [0x5c, 0x75, _] => none
              | [0x5c, 0x75, _, _] => none
              | [0x5c, 0x75, _, _, _] => none
              | rest => parseStringBody rest
            else before (utf8 uc) (parseStringBody rest)
        | e :: rest => if e = 0x75 then none else before [unescape e] (parseStringBody rest)

def parseString : List UInt8 → Option (List UInt8 × List UInt8)
  | b :: rest => if b = quote then parseStringBody rest else none
  | [] => none

mutual

/-- `parse_value`. The first argument bounds the depth of the calls. -/
def parseValue : Nat → List UInt8 → Option (Item × List UInt8)
  | 0, _ => none
  | n + 1, value =>
      if ascii "null" <+: value then some (.null, value.drop 4)
      else if ascii "false" <+: value then some (.false, value.drop 5)
      else if ascii "true" <+: value then some (.true, value.drop 4)
      else
        match value with
        | [] => none
        | b :: rest =>
            if b = quote then (parseString value).map fun r => (.string r.1, r.2)
            else if b = 0x2d ∨ b = 0x2e ∨ isDigit b then some (parseNumber value)
            else if b = 0x5b then parseArray n rest
            else if b = 0x7b then parseObject n rest
            else none

/-- `parse_array` behind the opening bracket. -/
def parseArray : Nat → List UInt8 → Option (Item × List UInt8)
  | 0, _ => none
  | n + 1, value =>
      match skip value with
      | 0x5d :: rest => some (.array [], rest)
      | value =>
          (parseValue n value).bind fun item =>
            (parseItems n (skip item.2)).map fun items => (.array (item.1 :: items.1), items.2)

/-- The loop of `parse_array`, and the closing bracket. -/
def parseItems : Nat → List UInt8 → Option (List Item × List UInt8)
  | 0, _ => none
  | n + 1, value =>
      match value with
      | 0x2c :: rest =>
          (parseValue n (skip rest)).bind fun item =>
            (parseItems n (skip item.2)).map fun items => (item.1 :: items.1, items.2)
      | 0x5d :: rest => some ([], rest)
      | _ => none

/-- `parse_object` behind the opening brace. -/
def parseObject : Nat → List UInt8 → Option (Item × List UInt8)
  | 0, _ => none
  | n + 1, value =>
      match skip value with
      | 0x7d :: rest => some (.object [], rest)
      | value =>
          (parseMember n value).bind fun member =>
            (parseMembers n (skip member.2)).map fun members =>
              (.object (member.1 :: members.1), members.2)

/-- A name, and its value. -/
def parseMember : Nat → List UInt8 → Option ((List UInt8 × Item) × List UInt8)
  | 0, _ => none
  | n + 1, value =>
      (parseString value).bind fun name =>
        match skip name.2 with
        | 0x3a :: rest =>
            (parseValue n (skip rest)).map fun item => ((name.1, item.1), item.2)
        | _ => none

/-- The loop of `parse_object`, and the closing brace. -/
def parseMembers : Nat → List UInt8 → Option (List (List UInt8 × Item) × List UInt8)
  | 0, _ => none
  | n + 1, value =>
      match value with
      | 0x2c :: rest =>
          (parseMember n (skip rest)).bind fun member =>
            (parseMembers n (skip member.2)).map fun members =>
              (member.1 :: members.1, members.2)
      | 0x7d :: rest => some ([], rest)
      | _ => none

end

/-- `cJSON_Parse`: what stands behind the value does not matter. Two calls for each byte are
enough. -/
def cJson_parse (value : List UInt8) : Option Item :=
  (parseValue (2 * value.length + 1) (skip value)).map Prod.fst

/-! ## White space -/

section

variable {b : UInt8} {s rest : List UInt8} {fmt : Bool} {depth : Nat}

theorem skip_cons (h : ¬ b ≤ 32) (rest : List UInt8) : skip (b :: rest) = b :: rest :=
  List.dropWhile_cons_of_neg (by simpa using h)

theorem skip_append (h : ∀ b ∈ s, b ≤ 32) (rest : List UInt8) : skip (s ++ rest) = skip rest :=
  List.dropWhile_append_of_pos (by simpa using h)

theorem le_of_mem_newline : ∀ b ∈ newline fmt, b ≤ 32 := by
  cases fmt with
  | false => exact List.forall_mem_nil _
  | true => exact List.forall_mem_singleton.mpr (by decide)

theorem le_of_mem_tabs : ∀ b ∈ tabs fmt depth, b ≤ 32 := by
  cases fmt with
  | false => exact List.forall_mem_nil _
  | true =>
      intro b hb
      rw [List.eq_of_mem_replicate hb]
      decide

/-! ## Numbers -/

/-- What does not go on with a number. -/
def Stop (rest : List UInt8) : Prop :=
  ∀ b ∈ rest.head?, isDigit b = false ∧ b ≠ 0x2e ∧ b ≠ 0x65 ∧ b ≠ 0x45

theorem decimalDigit_toNat {d : Nat} (h : d < 10) : (decimalDigit d).toNat = 0x30 + d := by
  rw [decimalDigit, UInt8.toNat_ofNat']
  omega

theorem isDigit_iff : isDigit b = true ↔ 0x30 ≤ b.toNat ∧ b.toNat ≤ 0x39 := by
  simp [isDigit, UInt8.le_iff_toNat_le]

theorem isDigit_decimalDigit {d : Nat} (h : d < 10) : isDigit (decimalDigit d) = true := by
  rw [isDigit_iff, decimalDigit_toNat h]
  omega

theorem forall_mem_decimalNat {n : Nat} : ∀ b ∈ decimalNat n, isDigit b = true := by
  rw [decimalNat]
  split
  · exact List.forall_mem_singleton.mpr (isDigit_decimalDigit (by decide))
  · intro b hb
    obtain ⟨d, hd, rfl⟩ := List.mem_map.mp hb
    exact isDigit_decimalDigit (Nat.digits_lt_base (by decide) (List.mem_reverse.mp hd))

theorem decimalNat_ne_nil (n : Nat) : decimalNat n ≠ [] := by
  rw [decimalNat]
  split
  · exact List.cons_ne_nil _ _
  · next h => simp [Nat.digits_ne_nil_iff_ne_zero, h]

theorem digitsValue_reverse {digits : List Nat} (h : ∀ d ∈ digits, d < 10) :
    digitsValue (digits.reverse.map decimalDigit) = Nat.ofDigits 10 digits := by
  induction digits with
  | nil => rfl
  | cons d digits ih =>
      obtain ⟨hd, hdigits⟩ := List.forall_mem_cons.mp h
      rw [List.reverse_cons, List.map_append, digitsValue, List.foldl_append]
      show digitsValue (digits.reverse.map decimalDigit) * 10 + digitValue (decimalDigit d) = _
      rw [ih hdigits, Nat.ofDigits_cons, digitValue, decimalDigit_toNat hd]
      omega

theorem digitsValue_decimalNat (n : Nat) : digitsValue (decimalNat n) = n := by
  rw [decimalNat]
  split
  · next h =>
      rw [h]
      rfl
  · rw [digitsValue_reverse fun d hd => Nat.digits_lt_base (by decide) hd, Nat.ofDigits_digits]

/-- Zeros in front make no difference. -/
theorem digitsValue_dropWhile (digits : List UInt8) :
    digitsValue (digits.dropWhile (· = 0x30)) = digitsValue digits := by
  induction digits with
  | nil => rfl
  | cons b digits ih =>
      by_cases hb : b = 0x30
      · subst hb
        rw [List.dropWhile_cons_of_pos (by decide), ih]
        rfl
      · rw [List.dropWhile_cons_of_neg (by simpa using hb)]

theorem takeWhile_digits (hs : ∀ b ∈ s, isDigit b = true) (hrest : Stop rest) :
    (s ++ rest).takeWhile isDigit = s ∧ (s ++ rest).dropWhile isDigit = rest := by
  rw [List.takeWhile_append_of_pos hs, List.dropWhile_append_of_pos hs]
  cases rest with
  | nil => simp
  | cons b rest =>
      have hb := (hrest b rfl).1
      simp [hb]

theorem dropWhile_zeros (hrest : Stop rest) (digits : List UInt8) :
    (digits ++ rest).dropWhile (· = 0x30) = digits.dropWhile (· = 0x30) ++ rest := by
  rw [List.dropWhile_append]
  split
  · next hnil =>
      rw [List.isEmpty_iff.mp hnil, List.nil_append]
      cases rest with
      | nil => rfl
      | cons b rest =>
          apply List.dropWhile_cons_of_neg
          rw [decide_eq_true_eq]
          rintro rfl
          exact absurd (hrest 0x30 rfl).1 (by decide)
  · rfl

theorem parseExponent_of_stop (h : Stop rest) : parseExponent rest = (0, rest) := by
  cases rest with
  | nil => rfl
  | cons b rest =>
      obtain ⟨-, -, hlower, hupper⟩ := h b rfl
      rw [parseExponent, if_neg (not_or.mpr ⟨hlower, hupper⟩)]

theorem parseFraction_of_stop (h : Stop rest) : parseFraction rest = ([], rest) := by
  cases rest with
  | nil => rfl
  | cons b rest => rw [parseFraction, if_neg (h b rfl).2.1]

theorem parseUnsigned_decimalNat (hrest : Stop rest) (n : Nat) :
    parseUnsigned (decimalNat n ++ rest) = ((n : ℚ), rest) := by
  have hdigits : ∀ b ∈ (decimalNat n).dropWhile (· = 0x30), isDigit b = true :=
    fun b hb => forall_mem_decimalNat b ((List.dropWhile_sublist _).subset hb)
  obtain ⟨htake, hdrop⟩ := takeWhile_digits hdigits hrest
  rw [parseUnsigned, dropWhile_zeros hrest]
  simp only [htake, hdrop, parseFraction_of_stop hrest, parseExponent_of_stop hrest]
  rw [List.append_nil, digitsValue_dropWhile, digitsValue_decimalNat]
  simp

/-- **Numbers**: an integer is parsed as it was written. -/
theorem parseNumber_decimal (hrest : Stop rest) (z : Int) :
    parseNumber (decimal z ++ rest) = (.number z z, rest) := by
  rw [decimal]
  split
  · next hneg =>
      have hz : -(z.natAbs : ℚ) = (z : ℚ) := by
        rw [← Int.cast_natCast, Int.ofNat_natAbs_of_nonpos (by omega)]
        simp
      rw [List.cons_append, parseNumber, if_pos rfl, parseUnsigned_decimalNat hrest]
      simp only [hz, trunc_intCast]
  · next hpos =>
      have hz : (z.natAbs : ℚ) = (z : ℚ) := by
        rw [← Int.cast_natCast, Int.natAbs_of_nonneg (by omega)]
      obtain ⟨b, digits, hdigits⟩ := List.exists_cons_of_ne_nil (decimalNat_ne_nil z.natAbs)
      have hminus : b ≠ 0x2d := by
        rintro rfl
        have hfirst := forall_mem_decimalNat (n := z.natAbs) 0x2d (by simp [hdigits])
        exact absurd hfirst (by decide)
      have hread := parseUnsigned_decimalNat hrest z.natAbs
      rw [hdigits, List.cons_append] at hread ⊢
      rw [parseNumber, if_neg hminus, hread]
      simp only [hz, trunc_intCast]

/-- An integer below 2^53 is written as such, whatever integer it is kept with. -/
theorem printNumber_intCast (realText : ℚ → List UInt8) (valueint : Int) {z : Int}
    (hz : |z| < 2 ^ 53) : printNumber realText valueint z = decimal z := by
  have hbound : |(z : ℚ)| < 10 ^ 60 := by
    have hcast : |(z : ℚ)| < ((2 ^ 53 : Int) : ℚ) := by exact_mod_cast hz
    exact hcast.trans (by norm_num)
  rw [printNumber]
  split
  · next h =>
      have hnear : |((valueint - z : Int) : ℚ)| < ((1 : Int) : ℚ) := by
        push_cast
        apply lt_of_le_of_lt h.1
        norm_num [dblEpsilon]
      have hzero : valueint - z = 0 := Int.abs_lt_one_iff.mp (by exact_mod_cast hnear)
      rw [Int.eq_of_sub_eq_zero hzero]
  · rw [Int.floor_intCast, sub_self, abs_zero, if_pos ⟨by norm_num [dblEpsilon], hbound⟩]

/-! ## Strings -/

theorem parseStringBody_plain (hquote : b ≠ quote) (hback : b ≠ backslash) (rest : List UInt8) :
    parseStringBody (b :: rest) = before [b] (parseStringBody rest) := by
  rw [parseStringBody.eq_def]
  simp only
  rw [if_neg hquote, if_pos hback]

theorem parseStringBody_escaped {e : UInt8} (he : e ≠ 0x75) (rest : List UInt8) :
    parseStringBody (backslash :: e :: rest) = before [unescape e] (parseStringBody rest) := by
  rw [parseStringBody.eq_def]
  simp only
  rw [if_neg (by decide), if_neg (by simp)]
  split
  · next h => cases h
  · next h =>
      cases h
      exact absurd rfl he
  · next h =>
      cases h
      rw [if_neg he]

/-- A code point that needs no surrogate. -/
theorem parseStringBody_hex {a b c d : UInt8} (hzero : parseHex4 a b c d ≠ 0)
    (hlt : parseHex4 a b c d < 0xd800) (rest : List UInt8) :
    parseStringBody (backslash :: 0x75 :: a :: b :: c :: d :: rest) =
      before (utf8 (parseHex4 a b c d)) (parseStringBody rest) := by
  rw [parseStringBody.eq_def]
  simp only
  rw [if_neg (by decide), if_neg (by simp), if_neg (by omega), if_neg (by omega)]

/-- A control character that has no letter of its own. -/
theorem parseHex4_control : ∀ b : Fin 32,
    parseHex4 0x30 0x30 (hexDigit (UInt8.ofNat b / 16)) (hexDigit (UInt8.ofNat b % 16)) = b := by
  decide

theorem parseStringBody_escape (h0 : b ≠ 0) (rest : List UInt8) :
    parseStringBody (escape b ++ rest) = before [b] (parseStringBody rest) := by
  unfold escape
  split
  · next h => exact parseStringBody_plain h.2.1 h.2.2 rest
  · next h =>
      split_ifs with hback hquote hb hf hn hr ht
      · subst hback
        exact parseStringBody_escaped (by decide) rest
      · subst hquote
        exact parseStringBody_escaped (by decide) rest
      · subst hb
        exact parseStringBody_escaped (by decide) rest
      · subst hf
        exact parseStringBody_escaped (by decide) rest
      · subst hn
        exact parseStringBody_escaped (by decide) rest
      · subst hr
        exact parseStringBody_escaped (by decide) rest
      · subst ht
        exact parseStringBody_escaped (by decide) rest
      · have hlt : b.toNat < 32 := by
          by_contra hge
          refine h ⟨UInt8.lt_iff_toNat_lt.mpr ?_, hquote, hback⟩
          show 31 < b.toNat
          omega
        have hne : b.toNat ≠ 0 := fun hzero => h0 (UInt8.toNat_inj.mp hzero)
        have hcode := parseHex4_control ⟨b.toNat, hlt⟩
        rw [UInt8.ofNat_toNat] at hcode
        have hread := parseStringBody_hex (hcode.trans_ne hne)
          (Nat.lt_of_le_of_lt hcode.le (Nat.lt_trans hlt (by decide))) rest
        apply hread.trans
        rw [hcode, utf8, if_pos (Nat.lt_trans hlt (by decide)), UInt8.ofNat_toNat]

/-- **Strings** are parsed as they were printed. -/
theorem parseString_printString (hs : 0 ∉ s) (rest : List UInt8) :
    parseString (printString s ++ rest) = some (s, rest) := by
  show parseStringBody ((s.flatMap escape ++ [quote]) ++ rest) = some (s, rest)
  rw [List.append_assoc]
  induction s with
  | nil => rw [parseStringBody.eq_def]; rfl
  | cons b s ih =>
      obtain ⟨hb, hs⟩ := not_or.mp (List.mem_cons.not.mp hs)
      rw [List.flatMap_cons, List.append_assoc, parseStringBody_escape (Ne.symm hb), ih hs]
      rfl

end

end CJsonText

end V2XHub.Tmx
