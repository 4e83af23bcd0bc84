import V2XHub.Lib.Decimal
import V2XHub.Priority.Worker
import V2XHub.Tmx.FrequencyThrottle

/-!
# Time stamps of the camera

A camera writes the local time with a fraction of a second and the offset from UTC.
`timeStringParser` takes the text apart with a regular expression and computes milliseconds since
1970. The fraction may have any number of digits, and its digits are added as milliseconds whatever
their number is.

The clock counts ticks in a signed number of 64 bits and the result is unsigned, so that there is a
last time and no time before 1970.
-/

namespace V2XHub.Flir

open V2XHub.Lib.Decimal
open V2XHub.Priority (daysBeforeYear)
open V2XHub.Tmx (ClockUnits)

/-! ## The calendar -/

def isLeap (year : Int) : Bool := year % 4 = 0 ∧ (year % 100 ≠ 0 ∨ year % 400 = 0)

/-- The days of a month, from 1 to 12. -/
def daysInMonth (year : Int) (month : Nat) : Nat :=
  if month = 2 then if isLeap year then 29 else 28
  else if month = 4 ∨ month = 6 ∨ month = 9 ∨ month = 11 then 30
  else 31

/-- The days of a year before the month that comes after so many others. -/
def daysBeforeMonth (year : Int) (months : Nat) : Nat :=
  ((List.range months).map fun k => daysInMonth year (k + 1)).sum

/-- Days from 1970-01-01 to a date of the proleptic Gregorian calendar. -/
def dayNumber (year : Int) (month day : Nat) : Int :=
  daysBeforeYear year + daysBeforeMonth year (month - 1) + (day - 1)

/-- `struct tm`. -/
structure Tm where
  tm_year : Int
  tm_mon : Int
  tm_mday : Int
  tm_hour : Int
  tm_min : Int
  tm_sec : Int
  deriving DecidableEq, Repr

/-- `timegm`. Months outside of the year count on into other years. -/
def timegm (t : Tm) : Int :=
  let year := t.tm_year + 1900 + t.tm_mon / 12
  let days := daysBeforeYear year + daysBeforeMonth year (t.tm_mon % 12).toNat + (t.tm_mday - 1)
  86400 * days + 3600 * t.tm_hour + 60 * t.tm_min + t.tm_sec

/-- A date and a time of day as they are put into a `tm`. -/
def Tm.of (year month day hour minute second : Int) : Tm where
  tm_year := year - 1900
  tm_mon := month - 1
  tm_mday := day
  tm_hour := hour
  tm_min := minute
  tm_sec := second

theorem timegm_of (year : Int) {month : Nat} (hlo : 1 ≤ month) (hhi : month ≤ 12) (day : Nat)
    (hour minute second : Int) :
    timegm (.of year month day hour minute second) =
      86400 * dayNumber year month day + 3600 * hour + 60 * minute + second := by
  have hyear : year - 1900 + 1900 + ((month : Int) - 1) / 12 = year := by omega
  have hmonth : (((month : Int) - 1) % 12).toNat = month - 1 := by omega
  unfold timegm Tm.of dayNumber
  simp only
  rw [hyear, hmonth]

/-! ## Texts -/

/-- So many digits. -/
abbrev Digits (n : Nat) := { digits : List Char // digits.length = n ∧ IsDigits digits }

/-- One or more digits. -/
abbrev Digits₁ := { digits : List Char // digits ≠ [] ∧ IsDigits digits }

/-- `YYYY-MM-DDThh:mm:ss.f`, with an offset that is ahead of UTC or behind it. -/
structure TimeText where
  year : Digits 4
  month : Digits 2
  day : Digits 2
  hour : Digits 2
  minute : Digits 2
  second : Digits 2
  fraction : Digits₁
  ahead : Bool
  offsetHours : Digits 2
  offsetMinutes : Digits 2
  deriving DecidableEq

namespace TimeText

def text (t : TimeText) : List Char :=
  t.year ++ '-' :: (t.month ++ '-' :: (t.day ++ 'T' :: (t.hour ++ ':' :: (t.minute ++ ':' ::
    (t.second ++ '.' :: (t.fraction ++ (if t.ahead then '+' else '-') ::
      (t.offsetHours ++ ':' :: t.offsetMinutes)))))))

/-- There is such a date, and such a time of day. -/
structure Valid (t : TimeText) : Prop where
  month : 1 ≤ number t.month ∧ number t.month ≤ 12
  day : 1 ≤ number t.day ∧ number t.day ≤ daysInMonth (number t.year) (number t.month)
  hour : number t.hour < 24
  minute : number t.minute < 60
  second : number t.second < 60

/-- The local time, in seconds since 1970 as if it were UTC. -/
def localSeconds (t : TimeText) : Int :=
  86400 * dayNumber (number t.year) (number t.month) (number t.day) + 3600 * number t.hour +
    60 * number t.minute + number t.second

def offsetSeconds (t : TimeText) : Int :=
  let offset : Int := 3600 * number t.offsetHours + 60 * number t.offsetMinutes
  if t.ahead then offset else -offset

/-- The instant in milliseconds since 1970. The fraction is truncated. -/
def instant (t : TimeText) : Int :=
  1000 * (t.localSeconds - t.offsetSeconds) + thousandths t.fraction

end TimeText

/-! ## The regular expression -/

/-- `\d{n}`. -/
def takeDigits (n : Nat) (s : List Char) : Option (Digits n × List Char) :=
  if h : (s.take n).length = n ∧ IsDigits (s.take n) then some (⟨s.take n, h⟩, s.drop n) else none

/-- `\d+`, which takes all digits there are. -/
def takeRun (s : List Char) : Option (Digits₁ × List Char) :=
  if h : s.takeWhile Char.isDigit ≠ [] ∧ IsDigits (s.takeWhile Char.isDigit) then
    some (⟨s.takeWhile Char.isDigit, h⟩, s.dropWhile Char.isDigit)
  else none

def expect (c : Char) : List Char → Option (List Char)
  | [] => none
  | d :: s => if d = c then some s else none

/-- `[+-]`. -/
def takeSign : List Char → Option (Bool × List Char)
  | '+' :: s => some (true, s)
  | '-' :: s => some (false, s)
  | _ => none

/-- `\d{n}` and the character that follows. -/
def takePart (n : Nat) (c : Char) (s : List Char) : Option (Digits n × List Char) :=
  (takeDigits n s).bind fun d => (expect c d.2).map fun s => (d.1, s)

/-- `regex_match`. -/
def regexMatch (s : List Char) : Option TimeText := do
  let (year, s) ← takePart 4 '-' s
  let (month, s) ← takePart 2 '-' s
  let (day, s) ← takePart 2 'T' s
  let (hour, s) ← takePart 2 ':' s
  let (minute, s) ← takePart 2 ':' s
  let (second, s) ← takePart 2 '.' s
  let (fraction, s) ← takeRun s
  let (ahead, s) ← takeSign s
  let (offsetHours, s) ← takePart 2 ':' s
  let (offsetMinutes, s) ← takeDigits 2 s
  if s = [] then
    some { year, month, day, hour, minute, second, fraction, ahead, offsetHours, offsetMinutes }
  else none

theorem takeDigits_append {n : Nat} (d : Digits n) (s : List Char) :
    takeDigits n (d ++ s) = some (d, s) := by
  obtain ⟨digits, hlength, hdigits⟩ := d
  have htake : (digits ++ s).take n = digits := List.take_left' hlength
  have hdrop : (digits ++ s).drop n = s := List.drop_left' hlength
  unfold takeDigits
  simp only [htake, hdrop]
  rw [dif_pos ⟨hlength, hdigits⟩]

theorem takePart_append {n : Nat} (d : Digits n) (c : Char) (s : List Char) :
    takePart n c (d ++ c :: s) = some (d, s) := by
  have hexpect : expect c (c :: s) = some s := if_pos rfl
  unfold takePart
  rw [takeDigits_append, Option.bind_some, hexpect]
  rfl

theorem takeRun_append (d : Digits₁) {s : List Char} (hs : ∀ c ∈ s.head?, c.isDigit = false) :
    takeRun (d ++ s) = some (d, s) := by
  obtain ⟨digits, hne, hdigits⟩ := d
  have htake : (digits ++ s).takeWhile Char.isDigit = digits := takeWhile_digits hdigits hs
  have hdrop : (digits ++ s).dropWhile Char.isDigit = s := by
    have hall := List.takeWhile_append_dropWhile (p := Char.isDigit) (l := digits ++ s)
    rw [htake] at hall
    exact List.append_cancel_left hall
  unfold takeRun
  simp only [htake, hdrop]
  rw [dif_pos ⟨hne, hdigits⟩]

theorem takeSign_cons (ahead : Bool) (s : List Char) :
    takeSign ((if ahead then '+' else '-') :: s) = some (ahead, s) := by
  cases ahead <;> rfl

theorem takePart_bind {β : Type} {n : Nat} (d : Digits n) (c : Char) (s : List Char)
    (f : Digits n × List Char → Option β) : (takePart n c (d ++ c :: s) >>= f) = f (d, s) := by
  rw [takePart_append]
  rfl

/-- Every text of this form matches, and the groups are its parts. -/
theorem regexMatch_text (t : TimeText) : regexMatch t.text = some t := by
  have hsign : ∀ c ∈ ((if t.ahead then '+' else '-') ::
      (t.offsetHours.val ++ ':' :: t.offsetMinutes.val)).head?, c.isDigit = false := by
    intro c hc
    obtain rfl := Option.mem_some_iff.mp hc
    cases t.ahead <;> rfl
  have hlast : takeDigits 2 t.offsetMinutes.val = some (t.offsetMinutes, []) := by
    have happend := takeDigits_append t.offsetMinutes []
    rwa [List.append_nil] at happend
  unfold regexMatch TimeText.text
  -- the parts in front of the fraction
  iterate 6
    rw [takePart_bind]
    dsimp only
  rw [takeRun_append t.fraction hsign]
  dsimp only [Option.bind_eq_bind, Option.bind_some]
  rw [takeSign_cons]
  dsimp only [Option.bind_eq_bind, Option.bind_some]
  rw [takePart_append, Option.bind_some]
  dsimp only
  rw [hlast, Option.bind_some]
  rfl

/-! ## The parser -/

/-- How the parser can fail: with an exception, or by an overflow of the clock, after which nothing
is defined. -/
inductive Failure where
  | invalidArgument (what : String)
  | outOfRange
  | overflow
  deriving DecidableEq, Repr

/-- `stoi` on digits. -/
def number? (digits : List Char) : Except Failure Int :=
  match stoi digits with
  | some n => .ok n
  | none => .error .outOfRange

def fits (ticks : Int) : Prop := -9223372036854775808 ≤ ticks ∧ ticks ≤ 9223372036854775807

instance decidableFits (ticks : Int) : Decidable (fits ticks) := instDecidableAnd

/-- `from_time_t`, the milliseconds added, and the count that is returned. -/
def clockMilliseconds (u : ClockUnits) (utcTime milliseconds : Int) : Except Failure UInt64 :=
  let start := 1000 * utcTime * u.ticks
  let time := start + milliseconds * u.ticks
  if fits start ∧ fits time then .ok (UInt64.ofInt (time.tdiv u.ticks)) else .error .overflow

def timeStringParser (u : ClockUnits) (dateTimeStr : List Char) : Except Failure UInt64 :=
  match regexMatch dateTimeStr with
  | none => .error (.invalidArgument "Invalid datetime format")
  | some m => do
      let year ← number? m.year
      let month ← number? m.month
      let day ← number? m.day
      let hour ← number? m.hour
      let minute ← number? m.minute
      let second ← number? m.second
      let milliseconds ← number? m.fraction
      let offsetHours ← number? m.offsetHours
      let offsetMinutes ← number? m.offsetMinutes
      let offset := offsetHours * 3600 + offsetMinutes * 60
      let offsetSeconds := if m.ahead then offset else -offset
      clockMilliseconds u (timegm (.of year month day hour minute second) - offsetSeconds)
        milliseconds

/-! ## What is computed -/

theorem daysInMonth_le (year : Int) (month : Nat) : daysInMonth year month ≤ 31 := by
  unfold daysInMonth
  split_ifs <;> omega

theorem daysBeforeMonth_succ (year : Int) (months : Nat) :
    daysBeforeMonth year (months + 1) =
      daysBeforeMonth year months + daysInMonth year (months + 1) := by
  unfold daysBeforeMonth
  rw [List.range_succ, List.map_append, List.sum_append]
  rfl

theorem daysBeforeMonth_le (year : Int) (months : Nat) :
    daysBeforeMonth year months ≤ 31 * months := by
  induction months with
  | zero => rfl
  | succ months ih =>
      have hmonth := daysInMonth_le year (months + 1)
      rw [daysBeforeMonth_succ]
      omega

theorem number?_digits {n : Nat} (d : Digits (n + 1)) (hn : n < 9) :
    number? d.val = .ok (number d : Int) := by
  obtain ⟨digits, hlength, hdigits⟩ := d
  have hne : digits ≠ [] := by
    rintro rfl
    cases hlength
  unfold number?
  rw [stoi_of_length hne hdigits (by omega)]

theorem number?_run (d : Digits₁) :
    number? d.val = if number d < 2147483648 then .ok (number d : Int) else .error .outOfRange := by
  unfold number?
  rw [stoi_digits d.property.1 d.property.2]
  by_cases hlt : number d.val < 2147483648
  · rw [if_pos hlt, if_pos hlt]
  · rw [if_neg hlt, if_neg hlt]

section

variable (u : ClockUnits) {t : TimeText}

/-- The digits of the fraction are taken for milliseconds. -/
theorem timeStringParser_text (h : t.Valid) :
    timeStringParser u t.text =
      if number t.fraction < 2147483648 then
        clockMilliseconds u (t.localSeconds - t.offsetSeconds) (number t.fraction)
      else .error .outOfRange := by
  have hlocal := timegm_of (number t.year) h.month.1 h.month.2 (number t.day) (number t.hour)
    (number t.minute) (number t.second)
  have hoffset : (if t.ahead then (number t.offsetHours * 3600 + number t.offsetMinutes * 60 : Int)
      else -(number t.offsetHours * 3600 + number t.offsetMinutes * 60)) = t.offsetSeconds := by
    unfold TimeText.offsetSeconds
    simp only
    rw [Int.mul_comm 3600, Int.mul_comm 60]
  unfold timeStringParser
  rw [regexMatch_text]
  simp only [number?_digits _ (show 3 < 9 by decide), number?_digits _ (show 1 < 9 by decide),
    number?_run]
  by_cases hlt : number t.fraction.val < 2147483648
  · rw [if_pos hlt, if_pos hlt]
    show clockMilliseconds u (timegm _ - if t.ahead then _ else _) _ = _
    rw [hoffset, hlocal]
    rfl
  · rw [if_neg hlt, if_neg hlt]
    rfl

theorem toNat_ofInt (k : Int) : ((UInt64.ofInt k).toNat : Int) = k % 18446744073709551616 := by
  have hlt : (k % 18446744073709551616).toNat < UInt64.size := by
    show (k % 18446744073709551616).toNat < 18446744073709551616
    omega
  show ((UInt64.ofNat (k % 18446744073709551616).toNat).toNat : Int) = _
  rw [UInt64.toNat_ofNat_of_lt' hlt]
  omega

/-- The clock is not read back for a time before 1970 or one that it does not get to. -/
theorem clockMilliseconds_eq_ok {utcTime milliseconds x : Int} {n : UInt64}
    (h : clockMilliseconds u utcTime milliseconds = .ok n) (hn : (n.toNat : Int) = x)
    (hx : x < 9223372036854775808) :
    1000 * utcTime + milliseconds = x ∧ 0 ≤ x ∧ x * u.ticks < 9223372036854775808 := by
  have hpos := u.pos
  have hmul : 1000 * utcTime * u.ticks + milliseconds * u.ticks =
      (1000 * utcTime + milliseconds) * u.ticks := (Int.add_mul ..).symm
  unfold clockMilliseconds at h
  simp only at h
  rw [hmul, Int.mul_tdiv_cancel _ hpos.ne'] at h
  generalize 1000 * utcTime + milliseconds = k at h ⊢
  split_ifs at h with hfits
  cases h
  obtain ⟨-, hlo, hhi⟩ := hfits
  rw [toNat_ofInt] at hn
  -- a count before 1970 comes out far too late
  have hk : -9223372036854775808 ≤ k := by nlinarith
  have hk' : k ≤ 9223372036854775807 := by nlinarith
  have heq : k = x := by omega
  subst heq
  exact ⟨rfl, by omega, by omega⟩

theorem clockMilliseconds_ok {utcTime milliseconds : Int} (hlo : 0 ≤ milliseconds)
    (hhi : milliseconds < 1000) (hpast : 0 ≤ 1000 * utcTime + milliseconds)
    (hfits : (1000 * utcTime + milliseconds) * u.ticks < 9223372036854775808) :
    ∃ n, clockMilliseconds u utcTime milliseconds = .ok n ∧
      (n.toNat : Int) = 1000 * utcTime + milliseconds := by
  have hpos := u.pos
  have hmul : 1000 * utcTime * u.ticks + milliseconds * u.ticks =
      (1000 * utcTime + milliseconds) * u.ticks := (Int.add_mul ..).symm
  have hutc : 0 ≤ utcTime := by omega
  have hms : 0 ≤ milliseconds * u.ticks := Int.mul_nonneg hlo hpos.le
  have hstart : 0 ≤ 1000 * utcTime * u.ticks := Int.mul_nonneg (by omega) hpos.le
  have hboth : fits (1000 * utcTime * u.ticks) ∧
      fits (1000 * utcTime * u.ticks + milliseconds * u.ticks) := by
    unfold fits
    omega
  refine ⟨_, if_pos hboth, ?_⟩
  rw [hmul, Int.mul_tdiv_cancel _ hpos.ne', toNat_ofInt]
  have hle : 1000 * utcTime + milliseconds ≤ (1000 * utcTime + milliseconds) * u.ticks :=
    le_mul_of_one_le_right hpast hpos
  omega

theorem number_digits_lt {n : Nat} (d : Digits n) : number d < 10 ^ n := by
  have hlt := number_lt d.property.2
  rwa [d.property.1] at hlt

theorem localSeconds_lt (t : TimeText) : t.localSeconds < 1000000000000 := by
  have hyear := number_digits_lt t.year
  have hmonth := number_digits_lt t.month
  have hday := number_digits_lt t.day
  have hhour := number_digits_lt t.hour
  have hminute := number_digits_lt t.minute
  have hsecond := number_digits_lt t.second
  have hdays := daysBeforeMonth_le (number t.year) (number t.month - 1)
  unfold TimeText.localSeconds dayNumber daysBeforeYear
  omega

theorem instant_lt (t : TimeText) : t.instant < 9223372036854775808 := by
  have hlocal := localSeconds_lt t
  have hoffsetHours := number_digits_lt t.offsetHours
  have hoffsetMinutes := number_digits_lt t.offsetMinutes
  have hfraction := thousandths_lt t.fraction.property.2
  unfold TimeText.instant TimeText.offsetSeconds
  simp only
  split_ifs
  · omega
  · omega

/-- **Time stamps**: the result is the instant exactly if the fraction has three digits or nothing
but zeros, and the instant is one that the clock has, from 1970 on. -/
theorem timeStringParser_iff (h : t.Valid) :
    (∃ n : UInt64, timeStringParser u t.text = .ok n ∧ (n.toNat : Int) = t.instant) ↔
      (t.fraction.val.length = 3 ∨ ∀ c ∈ t.fraction.val, c = '0') ∧
        0 ≤ t.instant ∧ t.instant * u.ticks < 9223372036854775808 := by
  rw [timeStringParser_text u h, ← number_eq_thousandths_iff t.fraction.property.2]
  constructor
  · rintro ⟨n, hparse, hn⟩
    split_ifs at hparse
    obtain ⟨htime, hpast, hfits⟩ := clockMilliseconds_eq_ok u hparse hn (instant_lt t)
    refine ⟨?_, hpast, hfits⟩
    unfold TimeText.instant at htime
    omega
  · rintro ⟨hfraction, hpast, hfits⟩
    have hms := thousandths_lt t.fraction.property.2
    have htime : 1000 * (t.localSeconds - t.offsetSeconds) + (number t.fraction.val : Int) =
        t.instant := by
      rw [hfraction]
      rfl
    rw [if_pos (by omega), ← htime]
    rw [← htime] at hpast hfits
    exact clockMilliseconds_ok u (by omega) (by omega) hpast hfits

end

/-- 2022-04-20T15:25:51 with a fraction, four hours behind UTC. -/
def afternoon (fraction : Digits₁) : TimeText where
  year := ⟨['2', '0', '2', '2'], by decide⟩
  month := ⟨['0', '4'], by decide⟩
  day := ⟨['2', '0'], by decide⟩
  hour := ⟨['1', '5'], by decide⟩
  minute := ⟨['2', '5'], by decide⟩
  second := ⟨['5', '1'], by decide⟩
  fraction := fraction
  ahead := false
  offsetHours := ⟨['0', '4'], by decide⟩
  offsetMinutes := ⟨['0', '0'], by decide⟩

theorem afternoon_valid (fraction : Digits₁) : (afternoon fraction).Valid where
  month := show 1 ≤ number ['0', '4'] ∧ number ['0', '4'] ≤ 12 by decide
  day := show 1 ≤ number ['2', '0'] ∧ number ['2', '0'] ≤
    daysInMonth (number ['2', '0', '2', '2']) (number ['0', '4']) by decide
  hour := show number ['1', '5'] < 24 by decide
  minute := show number ['2', '5'] < 60 by decide
  second := show number ['5', '1'] < 60 by decide

theorem afternoon_instant (fraction : Digits₁) :
    (afternoon fraction).instant = 1650482751000 + thousandths fraction.val := by
  have hlocal : (afternoon fraction).localSeconds = 1650468351 := by
    show ((afternoon ⟨['0'], by decide⟩).localSeconds : Int) = 1650468351
    decide +kernel
  have hoffset : (afternoon fraction).offsetSeconds = -14400 := by
    show ((afternoon ⟨['0'], by decide⟩).offsetSeconds : Int) = -14400
    decide +kernel
  unfold TimeText.instant
  rw [hlocal, hoffset]
  rfl

/-- A clock of nanoseconds. -/
def nanoseconds : ClockUnits := ⟨1000000, by decide⟩

/-- Three digits are milliseconds, and zeros are nothing; two digits are not what they should be. -/
theorem timeStringParser_iff_afternoon :
    (∃ n : UInt64, timeStringParser nanoseconds (afternoon ⟨['2', '5', '0'], by decide⟩).text =
        .ok n ∧ (n.toNat : Int) = (afternoon ⟨['2', '5', '0'], by decide⟩).instant) ∧
      (∃ n : UInt64, timeStringParser nanoseconds (afternoon ⟨['0', '0'], by decide⟩).text =
        .ok n ∧ (n.toNat : Int) = (afternoon ⟨['0', '0'], by decide⟩).instant) ∧
      ¬ ∃ n : UInt64, timeStringParser nanoseconds (afternoon ⟨['2', '5'], by decide⟩).text =
        .ok n ∧ (n.toNat : Int) = (afternoon ⟨['2', '5'], by decide⟩).instant := by
  have hclock (fraction : Digits₁) : 0 ≤ (afternoon fraction).instant ∧
      (afternoon fraction).instant * nanoseconds.ticks < 9223372036854775808 := by
    have hms := thousandths_lt fraction.property.2
    have hticks : (nanoseconds.ticks : Int) = 1000000 := rfl
    rw [afternoon_instant, hticks]
    omega
  refine ⟨?_, ?_, ?_⟩
  · exact (timeStringParser_iff nanoseconds (afternoon_valid _)).mpr ⟨.inl rfl, hclock _⟩
  · have hzeros : ∀ c ∈ ['0', '0'], c = '0' := by simp
    exact (timeStringParser_iff nanoseconds (afternoon_valid _)).mpr ⟨.inr hzeros, hclock _⟩
  · intro h
    obtain ⟨hlength | hzeros, -⟩ := (timeStringParser_iff nanoseconds (afternoon_valid _)).mp h
    · cases hlength
    · exact absurd (hzeros '5' (by simp [afternoon])) (by decide)

/-- Half a second counts as five milliseconds. -/
theorem half_second_lost :
    timeStringParser nanoseconds (afternoon ⟨['5'], by decide⟩).text = .ok 1650482751005 ∧
      ¬ ∀ t : TimeText, t.Valid → ∃ n : UInt64,
        timeStringParser nanoseconds t.text = .ok n ∧ (n.toNat : Int) = t.instant := by
  have hparse : timeStringParser nanoseconds (afternoon ⟨['5'], by decide⟩).text =
      .ok 1650482751005 := by decide +kernel
  refine ⟨hparse, fun h => ?_⟩
  obtain ⟨n, hn, heq⟩ := h _ (afternoon_valid ⟨['5'], by decide⟩)
  have hinstant : (afternoon ⟨['5'], by decide⟩).instant = 1650482751500 := afternoon_instant _
  rw [hparse] at hn
  cases hn
  rw [hinstant] at heq
  exact absurd heq (by decide)

end V2XHub.Flir
