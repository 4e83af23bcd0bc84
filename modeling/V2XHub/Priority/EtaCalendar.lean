import Mathlib.Algebra.Order.Group.Int
import Mathlib.Algebra.Order.Ring.Abs
import V2XHub.Priority.Worker

/-!
# The ETA offset across the calendar

An SRM names its time of arrival by the minute of the year, and the plugin subtracts the current
minute of the year from it. The count starts over at New Year. `computeEtaOffsetMs` makes up for
that by adding a year of mean length, 525960 minutes, to an offset more than half a year in the
past; no calendar year has that many minutes, and nothing is taken off for an arrival in the year
before.
-/

namespace V2XHub.Priority

/-- The UTC year of a time. -/
def utcYear (t : Int) : Int := yearOfDay (t / 86400)

/-- Seconds from 1970 to the start of a year. -/
def yearStart (y : Int) : Int := 86400 * daysBeforeYear y

/-- `ComputeEtaOffsetMs` for an arrival at `eta`, as both times are told to it. -/
def etaOffset (eta now : Int) : Int :=
  computeEtaOffsetMs (computeMinuteAndMsOfYear eta).1 (computeMinuteAndMsOfYear eta).2
    (computeMinuteAndMsOfYear now).1 (computeMinuteAndMsOfYear now).2

/-! ## Years -/

theorem yearStart_le (t : Int) : yearStart (utcYear t) ≤ t := by
  have h := (yearOfDay_spec (t / 86400)).1
  unfold yearStart utcYear
  omega

theorem lt_yearStart_succ (t : Int) : t < yearStart (utcYear t + 1) := by
  have h := (yearOfDay_spec (t / 86400)).2
  unfold yearStart utcYear
  omega

/-- A year has 365 or 366 days. -/
theorem yearStart_succ (y : Int) :
    yearStart (y + 1) = yearStart y + 31536000 ∨ yearStart (y + 1) = yearStart y + 31622400 := by
  simp only [yearStart, daysBeforeYear, Int.add_sub_cancel]
  omega

theorem yearStart_mono {y z : Int} (h : y ≤ z) : yearStart y ≤ yearStart z := by
  simp only [yearStart, daysBeforeYear]
  omega

/-- The year of a time is the one it lies in. -/
theorem utcYear_eq {t y : Int} (hlo : yearStart y ≤ t) (hhi : t < yearStart (y + 1)) :
    utcYear t = y := by
  rcases lt_trichotomy (utcYear t) y with hlt | heq | hgt
  · have hstart : yearStart (utcYear t + 1) ≤ yearStart y := yearStart_mono (by omega)
    have hend := lt_yearStart_succ t
    omega
  · exact heq
  · have hstart : yearStart (y + 1) ≤ yearStart (utcYear t) := yearStart_mono (by omega)
    have hbegin := yearStart_le t
    omega

/-- Times at most an hour apart are in one year or in two that follow each other. -/
theorem utcYear_near {e t : Int} (h : |e - t| ≤ 3600) :
    utcYear e = utcYear t ∨ utcYear e = utcYear t + 1 ∨ utcYear t = utcYear e + 1 := by
  obtain ⟨hlo, hhi⟩ := abs_le.mp h
  have ht := yearStart_le t
  have ht' := lt_yearStart_succ t
  have hnext := yearStart_succ (utcYear t + 1)
  have hprev := yearStart_succ (utcYear t - 1)
  rw [Int.sub_add_cancel] at hprev
  by_cases hbefore : e < yearStart (utcYear t)
  · have hy : utcYear e = utcYear t - 1 := by
      refine utcYear_eq (by omega) ?_
      rwa [Int.sub_add_cancel]
    omega
  · by_cases hafter : e < yearStart (utcYear t + 1)
    · exact .inl (utcYear_eq (not_lt.mp hbefore) hafter)
    · exact .inr (.inl (utcYear_eq (not_lt.mp hafter) (by omega)))

/-! ## The offset -/

/-- What is told of a time is its distance from the start of its year. -/
theorem computeMinuteAndMsOfYear_total (t : Int) :
    (computeMinuteAndMsOfYear t).1 * 60 * 1000 + (computeMinuteAndMsOfYear t).2 =
      1000 * (t - yearStart (utcYear t)) := by
  simp only [computeMinuteAndMsOfYear, gmtime_r, yearStart, utcYear]
  generalize daysBeforeYear (yearOfDay (t / 86400)) = d
  omega

theorem etaOffset_eq (e t : Int) :
    etaOffset e t =
      let raw := 1000 * (e - t) - 1000 * (yearStart (utcYear e) - yearStart (utcYear t))
      if raw < -15778800000 then raw + 31557600000 else raw := by
  have hhalf : (-yearMs).tdiv 2 = -15778800000 := by decide
  have hyear : yearMs = 31557600000 := by decide
  simp only [etaOffset, computeEtaOffsetMs, computeMinuteAndMsOfYear_total, hhalf]
  rw [hyear]
  split_ifs <;> omega

section

variable {e t : Int} (hnear : |e - t| ≤ 3600)

include hnear

theorem etaOffset_sameYear (hy : utcYear e = utcYear t) : etaOffset e t = 1000 * (e - t) := by
  obtain ⟨hlo, -⟩ := abs_le.mp hnear
  rw [etaOffset_eq, hy]
  simp only [sub_self, mul_zero, sub_zero]
  rw [if_neg (by omega)]

/-- Over New Year the offset is six hours too long after a common year, and 18 hours too short
after a leap year. -/
theorem etaOffset_nextYear (hy : utcYear e = utcYear t + 1) :
    etaOffset e t = 1000 * (e - t) + 21600000 ∨ etaOffset e t = 1000 * (e - t) - 64800000 := by
  obtain ⟨-, hhi⟩ := abs_le.mp hnear
  have hlen := yearStart_succ (utcYear t)
  rw [etaOffset_eq, hy]
  simp only []
  rw [if_pos (by omega)]
  omega

/-- An arrival just before New Year, looked at just after it, is a year ahead. -/
theorem etaOffset_lastYear (hy : utcYear t = utcYear e + 1) :
    etaOffset e t = 1000 * (e - t) + 1000 * (yearStart (utcYear t) - yearStart (utcYear e)) := by
  obtain ⟨hlo, -⟩ := abs_le.mp hnear
  have hlen := yearStart_succ (utcYear e)
  rw [etaOffset_eq, hy]
  simp only []
  rw [if_neg (by omega)]
  omega

/-- **The offset is the time to arrival within a calendar year, and never across New Year.** -/
theorem etaOffset_exact_iff : etaOffset e t = 1000 * (e - t) ↔ utcYear e = utcYear t := by
  constructor
  · intro hoff
    rcases utcYear_near hnear with hy | hy | hy
    · exact hy
    · have hnext := etaOffset_nextYear hnear hy
      omega
    · have hlast := etaOffset_lastYear hnear hy
      have hlen := yearStart_succ (utcYear e)
      rw [← hy] at hlen
      omega
  · exact etaOffset_sameYear hnear

end

-- 2026-01-01 12:00:00 UTC and half an hour later
theorem etaOffset_exact_iff_noon :
    |(1767270600 : Int) - 1767268800| ≤ 3600 ∧
      etaOffset 1767270600 1767268800 = 1000 * (1767270600 - 1767268800) :=
  ⟨by decide, (etaOffset_exact_iff (by decide)).mpr (by decide)⟩

/-- One minute over the turn of the year 2025 to 2026 counts as six hours and a minute. -/
theorem etaOffset_newYear :
    ¬ ∀ e t : Int, |e - t| ≤ 3600 → etaOffset e t = 1000 * (e - t) := by
  intro h
  have hminute : etaOffset 1767225630 1767225570 = 21660000 := by decide
  have hclaim := h 1767225630 1767225570 (by decide)
  rw [hminute] at hclaim
  omega

end V2XHub.Priority
