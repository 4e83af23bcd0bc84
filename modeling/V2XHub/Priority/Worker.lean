import V2XHub.Priority.Types
import Mathlib.Tactic.Common

/-!
# Pure helpers of the priority plugin

Time arithmetic and the age rule of the tracker: the functions of `PriorityPluginWorker`, and the
part of `gmtime_r` they and the SSM builder read.
-/

namespace V2XHub.Priority

/-! ## Calendar -/

/-- Days from 1970-01-01 to the first day of year `y` (proleptic Gregorian calendar). -/
def daysBeforeYear (y : Int) : Int :=
  365 * (y - 1970) + ((y - 1) / 4 - (y - 1) / 100 + (y - 1) / 400) - 477

/-- The year day `d` falls in: the mean year length gives it up to one. -/
def yearOfDay (d : Int) : Int :=
  let y := 1970 + 400 * d / 146097
  if d < daysBeforeYear y then y - 1
  else if daysBeforeYear (y + 1) ≤ d then y + 1
  else y

/-- **The estimate is never off by more than one**: `yearOfDay` returns the year that contains the
day. -/
theorem yearOfDay_spec (d : Int) :
    daysBeforeYear (yearOfDay d) ≤ d ∧ d < daysBeforeYear (yearOfDay d + 1) := by
  have hest : 146097 * (400 * d / 146097) ≤ 400 * d ∧
      400 * d < 146097 * (400 * d / 146097) + 146097 := by
    omega
  unfold yearOfDay
  generalize 400 * d / 146097 = q at hest
  simp only []
  split_ifs <;> simp only [daysBeforeYear, Int.sub_add_cancel, Int.add_sub_cancel] at * <;> omega

/-- The members of `struct tm` that are read. -/
structure Tm where
  tm_yday : Int
  tm_hour : Int
  tm_min : Int
  tm_sec : Int
  deriving DecidableEq, Repr

def gmtime_r (t : Int) : Tm where
  tm_yday := t / 86400 - daysBeforeYear (yearOfDay (t / 86400))
  tm_hour := t % 86400 / 3600
  tm_min := t % 3600 / 60
  tm_sec := t % 60

/-- The expression `tm_yday * 24 * 60 + tm_hour * 60 + tm_min`. -/
def Tm.minuteOfTheYear (tm : Tm) : Int :=
  tm.tm_yday * 24 * 60 + tm.tm_hour * 60 + tm.tm_min

/-- A time of day names a minute of a year of at most 366 days. -/
theorem minuteOfTheYear_bounds (t : Int) :
    0 ≤ (gmtime_r t).minuteOfTheYear ∧ (gmtime_r t).minuteOfTheYear < 366 * 24 * 60 := by
  obtain ⟨hlo, hhi⟩ := yearOfDay_spec (t / 86400)
  simp only [gmtime_r, Tm.minuteOfTheYear]
  generalize yearOfDay (t / 86400) = y at *
  simp only [daysBeforeYear] at *
  omega

/-- Minute of the year and millisecond of the minute. -/
def computeMinuteAndMsOfYear (nowEpoch : Int) : Int × Int :=
  let utcNow := gmtime_r nowEpoch
  let minuteOfYear := utcNow.tm_yday * 1440 + utcNow.tm_hour * 60 + utcNow.tm_min
  let msInMinute := utcNow.tm_sec * 1000
  (minuteOfYear, msInMinute)

-- 2024-12-31 23:59:30 UTC, the 366th day of a leap year
example : gmtime_r 1735689570 =
    { tm_yday := 365, tm_hour := 23, tm_min := 59, tm_sec := 30 } := by decide

/-! ## Estimated time of arrival -/

/-- `YEAR_MS`. -/
def yearMs : Int := 525960 * 60 * 1000

/-- Offset of an SRM's ETA from now, in milliseconds; more than half a year in the past is read as
the next year. -/
def computeEtaOffsetMs (etaMinuteOfYear etaMs currentMinuteOfYear currentMsInMinute : Int) : Int :=
  let etaTotalMs := etaMinuteOfYear * 60 * 1000 + etaMs
  let nowTotalMs := currentMinuteOfYear * 60 * 1000 + currentMsInMinute
  let etaOffsetMs := etaTotalMs - nowTotalMs
  if etaOffsetMs < (-yearMs).tdiv 2 then etaOffsetMs + yearMs else etaOffsetMs

/-! ## Age of a tracked request -/

inductive StaleTrackedAction where
  | keep
  | sendClearAndErase
  | evict
  deriving DecidableEq, Repr

def classifyStaleTrackedRequest (isCanceled : Bool) (ageSec timeToLiveSec : Int) :
    StaleTrackedAction :=
  if isCanceled && ageSec ≥ 2 then .sendClearAndErase
  else if ageSec ≥ timeToLiveSec then .evict
  else .keep

end V2XHub.Priority
