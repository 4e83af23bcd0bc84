import V2XHub.Flir.TimeStamps
import V2XHub.Priority.EtaCalendar

/-!
# Times in pedestrian messages

The pedestrian plugin takes the time of the camera apart at its delimiters and keeps the local date
and time: the offset is cut off, or stays behind the milliseconds if it is ahead of UTC. The PSM and
the SDSM have the parts, with milliseconds in place of the seconds. The minute of the year is
computed from the same parts, and gets these milliseconds for seconds.
-/

namespace V2XHub.Pedestrian

open V2XHub.Lib.Decimal
open V2XHub.Flir (TimeText Digits Tm timegm)
open V2XHub.Priority (utcYear yearStart)
open V2XHub.Tmx (ClockUnits)

/-! ## The parser -/

/-- `substr` to a delimiter, and what `erase` leaves. Where it is not found the part is all of the
text, and nothing is erased. -/
def cut (delimiter : Char) (s : List Char) : List Char × List Char :=
  if delimiter ∈ s then (s.takeWhile (· ≠ delimiter), (s.dropWhile (· ≠ delimiter)).drop 1)
  else (s, s)

/-- Zeros in front are erased, but not the last character. -/
def eraseZeros (s : List Char) : List Char :=
  if s.dropWhile (· = '0') = [] then s.drop (s.length - 1) else s.dropWhile (· = '0')

/-- `parsedArr`. The last entry is the milliseconds of the minute. -/
structure ParsedTime where
  year : Int
  month : Int
  day : Int
  hour : Int
  mins : Int
  sec : Int
  millisecondsTotal : Int
  deriving DecidableEq, Repr

/-- `timeStringParser`. There is no result where `stoi` throws. -/
def timeStringParser (dateTimeStr : List Char) : Option ParsedTime := do
  let (year, s) := cut '-' dateTimeStr
  let (month, s) := cut '-' s
  let (day, s) := cut 'T' s
  let (hour, s) := cut ':' s
  let (mins, s) := cut ':' s
  let (sec, s) := cut '.' s
  let (milliseconds, _) := cut '-' s
  let second ← stoi (eraseZeros sec)
  let milliseconds ← stoi (eraseZeros milliseconds)
  let year ← stoi (eraseZeros year)
  let month ← stoi (eraseZeros month)
  let day ← stoi (eraseZeros day)
  let hour ← stoi (eraseZeros hour)
  let mins ← stoi (eraseZeros mins)
  some
    { year, month, day, hour, mins, sec := second
      millisecondsTotal := second * 1000 + milliseconds }

/-! ## The messages -/

/-- The date and time of a message. Its second counts milliseconds. -/
structure DDateTime where
  year : Int
  month : Int
  day : Int
  hour : Int
  minute : Int
  second : Int
  deriving DecidableEq, Repr

/-- `utcTime` of the PSM and `sDSMTimeStamp` of the SDSM. -/
def ParsedTime.utcTime (dateTimeArr : ParsedTime) : DDateTime where
  year := dateTimeArr.year
  month := dateTimeArr.month
  day := dateTimeArr.day
  hour := dateTimeArr.hour
  minute := dateTimeArr.mins
  second := dateTimeArr.millisecondsTotal

/-- What it denotes in UTC, in milliseconds since 1970. -/
def DDateTime.instant (d : DDateTime) : Int :=
  1000 * timegm (.of d.year d.month d.day d.hour d.minute 0) + d.second

/-- `mktime` where standard time is so many seconds ahead of UTC. Both times it is called with have
no daylight saving. -/
def mktime (standard : Int) (t : Tm) : Int := timegm t - standard

def calculateMinuteOfYear (standard year month day hour minute second : Int) : Int :=
  let current := mktime standard (.of year month day hour minute second)
  let start := mktime standard (.of year 1 1 0 0 0)
  (current - start).tdiv 60

/-- What is stored for the TIM. -/
structure TimTime where
  startYear : Int
  moy : Int
  deriving DecidableEq, Repr

def ParsedTime.timTime (standard : Int) (dateTimeArr : ParsedTime) : TimTime where
  startYear := dateTimeArr.year
  moy := calculateMinuteOfYear standard dateTimeArr.year dateTimeArr.month dateTimeArr.day
    dateTimeArr.hour dateTimeArr.mins dateTimeArr.millisecondsTotal

/-- The year and the minute of the year of an instant in UTC. -/
def timTimeOf (milliseconds : Int) : TimTime where
  startYear := utcYear (milliseconds / 1000)
  moy := (Priority.gmtime_r (milliseconds / 1000)).minuteOfTheYear

/-- What is to hold of a text: the messages have the time that the camera driver computes. -/
def TimesAgree (u : ClockUnits) (standard : Int) (time : List Char) : Prop :=
  ∃ dateTimeArr n, timeStringParser time = some dateTimeArr ∧
    Flir.timeStringParser u time = .ok n ∧
      dateTimeArr.utcTime.instant = n.toNat ∧ dateTimeArr.timTime standard = timTimeOf n.toNat

/-! ## What is parsed -/

theorem cut_append {c : Char} {part : List Char} (h : c ∉ part) (s : List Char) :
    cut c (part ++ c :: s) = (part, s) := by
  have hpart : ∀ d ∈ part, decide (d ≠ c) = true := by
    intro d hd
    apply decide_eq_true
    rintro rfl
    exact h hd
  unfold cut
  rw [if_pos (by simp), List.takeWhile_append_of_pos hpart, List.dropWhile_append_of_pos hpart,
    List.takeWhile_cons_of_neg (by simp), List.dropWhile_cons_of_neg (by simp), List.append_nil]
  rfl

theorem cut_part {n : Nat} (part : Digits n) (c : Char) (hc : c.isDigit = false) (s : List Char) :
    cut c (part ++ c :: s) = (part.val, s) :=
  cut_append (part.property.2.not_mem hc) s

theorem cut_of_not_mem {c : Char} {s : List Char} (h : c ∉ s) : cut c s = (s, s) := if_neg h

/-- Digits without the zeros in front are the same number. -/
theorem stoi_eraseZeros {digits : List Char} (hne : digits ≠ []) (h : IsDigits digits)
    (hlength : digits.length ≤ 9) : stoi (eraseZeros digits) = some (number digits : Int) := by
  have hsuffix := List.dropWhile_suffix (l := digits) (· = '0')
  unfold eraseZeros
  split
  · next hzeros =>
      -- the last zero stays
      have hlast : digits.drop (digits.length - 1) = [digits.getLast hne] :=
        List.drop_length_sub_one hne
      have hzero : ∀ c ∈ digits, c = '0' := by
        have hall := List.dropWhile_eq_nil_iff.mp hzeros
        intro c hc
        exact of_decide_eq_true (hall c hc)
      rw [hlast, hzero _ (List.getLast_mem hne), (number_eq_zero_iff h).mpr hzero]
      rfl
  · next hzeros =>
      have hdigits : IsDigits (digits.dropWhile (· = '0')) := fun c hc => h c (hsuffix.mem hc)
      have hshort := hsuffix.length_le
      rw [stoi_of_length hzeros hdigits (by omega), number_dropWhile]

/-- An offset ahead of UTC stays behind the milliseconds. If these are zeros, they are erased and
the hours of the offset are read. -/
theorem stoi_eraseZeros_ahead {digits hours rest : List Char} (hdigits : IsDigits digits)
    (hlength : digits.length ≤ 9) (hne : hours ≠ []) (hhours : IsDigits hours)
    (hshort : hours.length ≤ 9) (hrest : ∀ c ∈ rest.head?, c.isDigit = false) :
    stoi (eraseZeros (digits ++ '+' :: (hours ++ rest))) =
      some (if number digits = 0 then (number hours : Int) else number digits) := by
  have hlt : ∀ {ds : List Char}, IsDigits ds → ds.length ≤ 9 → number ds < 2147483648 := by
    intro ds hds hle
    have := number_lt hds
    have hpow : 10 ^ ds.length ≤ 10 ^ 9 := Nat.pow_le_pow_right (by decide) hle
    omega
  have hsuffix := List.dropWhile_suffix (l := digits) (· = '0')
  have hplus : ('+' :: (hours ++ rest)).dropWhile (· = '0') = '+' :: (hours ++ rest) :=
    List.dropWhile_cons_of_neg (by decide)
  unfold eraseZeros
  rw [List.dropWhile_append, hplus]
  by_cases hnil : digits.dropWhile (· = '0') = []
  · have hzero : number digits = 0 := by rw [← number_dropWhile, hnil, number_nil]
    simp only [hnil, List.isEmpty_nil, if_true]
    rw [if_neg (List.cons_ne_nil _ _), stoi_plus hne hhours hrest,
      if_pos (hlt hhours hshort), if_pos hzero]
  · have hdropped : IsDigits (digits.dropWhile (· = '0')) := fun c hc => hdigits c (hsuffix.mem hc)
    have hnonzero : number digits ≠ 0 := by
      intro hzero
      apply hnil
      rw [List.dropWhile_eq_nil_iff]
      intro c hc
      exact decide_eq_true ((number_eq_zero_iff hdigits).mp hzero c hc)
    have hempty : (digits.dropWhile (· = '0')).isEmpty = false := by
      rw [List.isEmpty_eq_false_iff]
      exact hnil
    have hend : ∀ c ∈ ('+' :: (hours ++ rest)).head?, c.isDigit = false := by
      intro c hc
      obtain rfl := Option.mem_some_iff.mp hc
      rfl
    rw [hempty]
    simp only [Bool.false_eq_true, if_false]
    rw [if_neg (List.append_ne_nil_of_left_ne_nil hnil _), stoi_append hnil hdropped hend,
      number_dropWhile, if_pos (hlt hdigits hlength), if_neg hnonzero]

/-- The milliseconds that are read. -/
def milliseconds (t : TimeText) : Int :=
  if t.ahead ∧ number t.fraction = 0 then number t.offsetHours else number t.fraction

def parsed (t : TimeText) : ParsedTime where
  year := number t.year
  month := number t.month
  day := number t.day
  hour := number t.hour
  mins := number t.minute
  sec := number t.second
  millisecondsTotal := number t.second * 1000 + milliseconds t

theorem stoi_part {n : Nat} (d : Digits (n + 1)) (hn : n < 9) :
    stoi (eraseZeros d.val) = some (number d.val : Int) := by
  obtain ⟨digits, hlength, hdigits⟩ := d
  have hne : digits ≠ [] := by
    rintro rfl
    cases hlength
  have hshort : digits.length ≤ 9 := by omega
  exact stoi_eraseZeros hne hdigits hshort

/-- What is left from the fraction on. -/
theorem stoi_cut_fraction (t : TimeText) (hfraction : t.fraction.val.length = 3) :
    stoi (eraseZeros (cut '-' (t.fraction.val ++ (if t.ahead then '+' else '-') ::
      (t.offsetHours.val ++ ':' :: t.offsetMinutes.val))).1) = some (milliseconds t) := by
  obtain ⟨hne, hdigits⟩ := t.fraction.property
  obtain ⟨hhours, hhourDigits⟩ := t.offsetHours.property
  have hhoursNe : t.offsetHours.val ≠ [] := by
    intro hnil
    rw [hnil] at hhours
    cases hhours
  unfold milliseconds
  cases hahead : t.ahead with
  | false =>
      rw [if_neg Bool.false_ne_true, cut_append (hdigits.not_mem rfl),
        stoi_eraseZeros hne hdigits (by omega), if_neg (fun h => Bool.false_ne_true h.1)]
  | true =>
      have hminus : '-' ∉ t.fraction.val ++ '+' ::
          (t.offsetHours.val ++ ':' :: t.offsetMinutes.val) := by
        have hfractionDigits := hdigits.not_mem (c := '-') rfl
        have hhoursDigits := hhourDigits.not_mem (c := '-') rfl
        have hminutesDigits := t.offsetMinutes.property.2.not_mem (c := '-') rfl
        simp [hfractionDigits, hhoursDigits, hminutesDigits]
      have hcolon : ∀ c ∈ (':' :: t.offsetMinutes.val).head?, c.isDigit = false := by
        intro c hc
        obtain rfl := Option.mem_some_iff.mp hc
        rfl
      rw [if_pos rfl, cut_of_not_mem hminus,
        stoi_eraseZeros_ahead hdigits (by omega) hhoursNe hhourDigits (by omega) hcolon]
      simp

theorem timeStringParser_text (t : TimeText) (hfraction : t.fraction.val.length = 3) :
    timeStringParser t.text = some (parsed t) := by
  unfold timeStringParser TimeText.text
  simp only [cut_part _ '-' rfl, cut_part _ 'T' rfl, cut_part _ ':' rfl, cut_part _ '.' rfl,
    stoi_cut_fraction t hfraction, stoi_part _ (show 3 < 9 by decide),
    stoi_part _ (show 1 < 9 by decide), Option.bind_eq_bind, Option.bind_some]
  rfl

/-! ## Dates in their year -/

theorem daysBeforeMonth_mono (year : Int) {months months' : Nat} (h : months ≤ months') :
    Flir.daysBeforeMonth year months ≤ Flir.daysBeforeMonth year months' := by
  induction h with
  | refl => exact Nat.le_refl _
  | step _ ih =>
      rw [Flir.daysBeforeMonth_succ]
      omega

/-- Twelve months are a year. -/
theorem daysBeforeMonth_twelve (year : Int) :
    Priority.daysBeforeYear (year + 1) =
      Priority.daysBeforeYear year + Flir.daysBeforeMonth year 12 := by
  have htwelve : Flir.daysBeforeMonth year 12 = 337 + Flir.daysInMonth year 2 := by
    simp only [Flir.daysBeforeMonth_succ]
    show 0 + 31 + Flir.daysInMonth year 2 + 31 + 30 + 31 + 30 + 31 + 31 + 30 + 31 + 30 + 31 = _
    omega
  have hfebruary : Flir.daysInMonth year 2 = if Flir.isLeap year then 29 else 28 := rfl
  rw [htwelve, hfebruary]
  unfold Priority.daysBeforeYear Flir.isLeap
  simp only [decide_eq_true_eq]
  split_ifs
  · omega
  · omega

theorem localSeconds_in_year {t : TimeText} (h : t.Valid) :
    yearStart (number t.year) ≤ t.localSeconds - number t.second ∧
      t.localSeconds < yearStart (number t.year + 1) := by
  obtain ⟨hlo, hhi⟩ := h.month
  obtain ⟨hday, hlast⟩ := h.day
  have hhour := h.hour
  have hminute := h.minute
  have hsecond := h.second
  have hnext : number t.month - 1 + 1 = number t.month := by omega
  have hmonth := Flir.daysBeforeMonth_succ (number t.year) (number t.month - 1)
  have hyear := daysBeforeMonth_mono (number t.year) hhi
  have htwelve := daysBeforeMonth_twelve (number t.year)
  rw [hnext] at hmonth
  unfold TimeText.localSeconds Flir.dayNumber yearStart
  omega

theorem minuteOfTheYear_eq (t : Int) :
    (Priority.gmtime_r t).minuteOfTheYear = (t - yearStart (utcYear t)) / 60 := by
  simp only [Priority.gmtime_r, Priority.Tm.minuteOfTheYear, yearStart, utcYear]
  generalize Priority.daysBeforeYear (Priority.yearOfDay (t / 86400)) = d
  omega

/-! ## What is written -/

section

variable {t : TimeText} (h : t.Valid)

include h

theorem utcTime_parsed :
    (parsed t).utcTime.instant = 1000 * t.localSeconds + milliseconds t := by
  have htime := Flir.timegm_of (number t.year) h.month.1 h.month.2 (number t.day) (number t.hour)
    (number t.minute) 0
  show 1000 * timegm (.of (number t.year) (number t.month) (number t.day) (number t.hour)
    (number t.minute) 0) + (number t.second * 1000 + milliseconds t) = _
  rw [htime]
  unfold TimeText.localSeconds
  omega

/-- The milliseconds of the minute are added as seconds. -/
theorem moy_parsed (standard : Int) :
    ((parsed t).timTime standard).moy =
      (t.localSeconds - number t.second - yearStart (number t.year) +
        (number t.second * 1000 + milliseconds t)) / 60 := by
  have htime := Flir.timegm_of (number t.year) h.month.1 h.month.2 (number t.day) (number t.hour)
    (number t.minute) (number t.second * 1000 + milliseconds t)
  have hstart : timegm (.of (number t.year) 1 1 0 0 0) = yearStart (number t.year) := by
    have hfirst := Flir.timegm_of (number t.year) (le_refl 1) (by decide) 1 0 0 0
    have hnew : Flir.dayNumber (number t.year) 1 1 =
        Priority.daysBeforeYear (number t.year) + 0 + (1 - 1) := rfl
    rw [Nat.cast_one] at hfirst
    rw [hfirst, hnew]
    unfold yearStart
    omega
  have hms : 0 ≤ milliseconds t := by
    unfold milliseconds
    split_ifs <;> omega
  have hlo := (localSeconds_in_year h).1
  show (timegm (.of (number t.year) (number t.month) (number t.day) (number t.hour)
    (number t.minute) (number t.second * 1000 + milliseconds t)) - standard -
      (timegm (.of (number t.year) 1 1 0 0 0) - standard)).tdiv 60 = _
  rw [htime, hstart, Int.tdiv_eq_ediv_of_nonneg]
  · unfold TimeText.localSeconds
    congr 1
    omega
  · unfold TimeText.localSeconds at hlo
    omega

end

theorem milliseconds_of_no_offset {t : TimeText} (hhours : number t.offsetHours = 0) :
    milliseconds t = number t.fraction := by
  unfold milliseconds
  rw [hhours]
  split_ifs with hzero
  · rw [hzero.2]
  · rfl

/-- The parts are the instant only without an offset: the hours of an offset that are read as
milliseconds do not make up for it. -/
theorem instants_agree_iff {t : TimeText} (h : t.Valid) (hfraction : t.fraction.val.length = 3) :
    (parsed t).utcTime.instant = t.instant ↔
      number t.offsetHours = 0 ∧ number t.offsetMinutes = 0 := by
  have hthousandths := (number_eq_thousandths_iff t.fraction.property.2).mpr (.inl hfraction)
  rw [utcTime_parsed h]
  unfold TimeText.instant TimeText.offsetSeconds
  simp only
  rw [← hthousandths]
  constructor
  · intro heq
    unfold milliseconds at heq
    split_ifs at heq <;> omega
  · rintro ⟨hhours, hminutes⟩
    rw [milliseconds_of_no_offset hhours, hhours, hminutes]
    split_ifs <;> omega

/-- Without an offset, the year is right, and the minute of the year if the milliseconds of the
minute are less than sixty. -/
theorem timTime_agrees_iff {t : TimeText} (h : t.Valid) (standard : Int)
    (hhours : number t.offsetHours = 0)
    (hminutes : number t.offsetMinutes = 0) :
    (parsed t).timTime standard = timTimeOf t.instant ↔
      number t.second = 0 ∧ number t.fraction < 60 := by
  have hms := thousandths_lt t.fraction.property.2
  have hsecond := h.second
  have hinstant : t.instant / 1000 = t.localSeconds := by
    unfold TimeText.instant TimeText.offsetSeconds
    simp only
    rw [hhours, hminutes]
    split_ifs <;> omega
  obtain ⟨hlo, hhi⟩ := localSeconds_in_year h
  have hyear : utcYear t.localSeconds = number t.year :=
    Priority.utcYear_eq (by omega) hhi
  -- the whole minutes since New Year
  have hminute : 60 ∣ t.localSeconds - number t.second - yearStart (number t.year) := by
    unfold TimeText.localSeconds yearStart
    omega
  have hmoy : ((parsed t).timTime standard).moy = (timTimeOf t.instant).moy ↔
      number t.second = 0 ∧ number t.fraction < 60 := by
    rw [moy_parsed h, milliseconds_of_no_offset hhours]
    unfold timTimeOf
    simp only
    rw [minuteOfTheYear_eq, hinstant, hyear]
    omega
  rw [← hmoy]
  constructor
  · intro heq
    rw [heq]
  · intro heq
    have hstart : ((parsed t).timTime standard).startYear = (timTimeOf t.instant).startYear := by
      show (number t.year : Int) = utcYear (t.instant / 1000)
      rw [hinstant, hyear]
    calc (parsed t).timTime standard
        = ⟨((parsed t).timTime standard).startYear, ((parsed t).timTime standard).moy⟩ := rfl
      _ = ⟨(timTimeOf t.instant).startYear, (timTimeOf t.instant).moy⟩ := by rw [hstart, heq]
      _ = timTimeOf t.instant := rfl

/-- Where the parts say what the driver computes, that is the instant. -/
theorem driver_instant (u : ClockUnits) {t : TimeText} (h : t.Valid)
    (hfraction : t.fraction.val.length = 3) {n : UInt64}
    (hparse : Flir.timeStringParser u t.text = .ok n)
    (hn : (n.toNat : Int) = (parsed t).utcTime.instant) : t.instant = (n.toNat : Int) := by
  have hthousandths := (number_eq_thousandths_iff t.fraction.property.2).mpr (.inl hfraction)
  have hlt : (parsed t).utcTime.instant < 9223372036854775808 := by
    have hlocal := Flir.localSeconds_lt t
    have hhours := Flir.number_digits_lt t.offsetHours
    have hms := thousandths_lt t.fraction.property.2
    rw [utcTime_parsed h]
    unfold milliseconds
    split_ifs <;> omega
  rw [Flir.timeStringParser_text u h] at hparse
  split_ifs at hparse
  obtain ⟨htime, -, -⟩ := Flir.clockMilliseconds_eq_ok u hparse hn hlt
  rw [hn, ← htime, hthousandths]
  rfl

/-- **Times of pedestrian messages**: they are those of the camera driver exactly if the camera is
at UTC, the minute has just begun, and the driver has the instant. -/
theorem timesAgree_iff (u : ClockUnits) (standard : Int) {t : TimeText} (h : t.Valid)
    (hfraction : t.fraction.val.length = 3) :
    TimesAgree u standard t.text ↔
      (number t.offsetHours = 0 ∧ number t.offsetMinutes = 0) ∧
        (number t.second = 0 ∧ number t.fraction < 60) ∧
          0 ≤ t.instant ∧ t.instant * u.ticks < 9223372036854775808 := by
  have hdriver := Flir.timeStringParser_iff u h
  unfold TimesAgree
  rw [timeStringParser_text t hfraction]
  constructor
  · rintro ⟨_, n, ⟨⟩, hparse, hinstant, htim⟩
    have heq : t.instant = (n.toNat : Int) :=
      driver_instant u h hfraction hparse hinstant.symm
    obtain ⟨-, hfits⟩ := hdriver.mp ⟨n, hparse, heq.symm⟩
    rw [← heq] at hinstant htim
    have hoffset := (instants_agree_iff h hfraction).mp hinstant
    exact ⟨hoffset, (timTime_agrees_iff h standard hoffset.1 hoffset.2).mp htim, hfits⟩
  · rintro ⟨⟨hhours, hminutes⟩, hsoon, hfits⟩
    obtain ⟨n, hparse, hn⟩ := hdriver.mpr ⟨.inl hfraction, hfits⟩
    refine ⟨_, n, rfl, hparse, ?_, ?_⟩
    · rw [hn]
      exact (instants_agree_iff h hfraction).mpr ⟨hhours, hminutes⟩
    · rw [hn]
      exact (timTime_agrees_iff h standard hhours hminutes).mpr hsoon

theorem digits_zeros : ['0', '0'].length = 2 ∧ IsDigits ['0', '0'] := by decide

/-- 2022-04-20T19:25:00.001+00:00. -/
def minuteStart : TimeText :=
  { Flir.afternoon ⟨['0', '0', '1'], by decide⟩ with
    hour := ⟨['1', '9'], by decide⟩
    second := ⟨['0', '0'], digits_zeros⟩
    ahead := true
    offsetHours := ⟨['0', '0'], digits_zeros⟩ }

theorem minuteStart_valid : minuteStart.Valid :=
  { Flir.afternoon_valid ⟨['0', '0', '1'], by decide⟩ with
    hour := show number ['1', '9'] < 24 by decide
    second := show number ['0', '0'] < 60 by decide }

theorem timesAgree_iff_minuteStart : TimesAgree Flir.nanoseconds (-18000) minuteStart.text := by
  apply (timesAgree_iff Flir.nanoseconds (-18000) minuteStart_valid rfl).mpr
  decide +kernel

/-- The local time of a camera four hours behind UTC goes into the messages as it is. -/
theorem local_time_written :
    ¬ ∀ (u : ClockUnits) (standard : Int) (t : TimeText), t.Valid → t.fraction.val.length = 3 →
      TimesAgree u standard t.text := by
  intro h
  obtain ⟨dateTimeArr, n, hparse, hdriver, hinstant, -⟩ :=
    h Flir.nanoseconds (-18000) _ (Flir.afternoon_valid ⟨['0', '0', '1'], by decide⟩) rfl
  have hparts : timeStringParser (Flir.afternoon ⟨['0', '0', '1'], by decide⟩).text =
      some ⟨2022, 4, 20, 15, 25, 51, 51001⟩ := by decide +kernel
  have hmilliseconds : Flir.timeStringParser Flir.nanoseconds
      (Flir.afternoon ⟨['0', '0', '1'], by decide⟩).text = .ok 1650482751001 := by decide +kernel
  rw [hparts] at hparse
  rw [hmilliseconds] at hdriver
  cases hparse
  cases hdriver
  exact absurd hinstant (by decide)

end V2XHub.Pedestrian
