import Mathlib.Tactic.MkIffOfInductiveProp
import Mathlib.Tactic.NormNum
import Mathlib.Tactic.Ring
import V2XHub.Lib.Trunc

/-!
# Basic safety messages

`BsmConverter` turns the core data of a basic safety message, integers in the units of J2735, into a
decoded message with numbers in everyday units and flags for what is known, and back. The two
directions are written apart. On the way back the limits of elevation, heading and steering angle
are assigned and then overwritten, and the steering angle, which came in steps of 1.5 degrees, is
multiplied by 80.

Numbers are rational. A conversion to an integer type that the number does not fit is undefined,
and the result is `none`.
-/

namespace V2XHub.Tmx

open V2XHub.Lib

/-- The fields of `BSMcoreData` that the converter reads or computes. The id is its four octets,
the first one lowest. -/
structure BsmCoreData where
  msgCnt : Int
  id : BitVec 32
  secMark : Int
  lat : Int
  long : Int
  elev : Int
  speed : Int
  heading : Int
  angle : Int
  deriving DecidableEq, Repr

structure DecodedBsmMessage where
  temporaryId : Int := 0
  secondMark : Int := 0
  latitude : ℚ := 0
  longitude : ℚ := 0
  elevation : ℚ := 0
  speed : ℚ := 0
  heading : ℚ := 0
  steeringWheelAngle : ℚ := 0
  isLocationValid : Bool := false
  isElevationValid : Bool := false
  isSpeedValid : Bool := false
  isHeadingValid : Bool := false
  isSteeringWheelAngleValid : Bool := false
  deriving DecidableEq

namespace BsmConverter

/-! ## The converters -/

/-- `int32_t`, `int16_t` and `uint16_t` of a longer integer. -/
def toInt32 (z : Int) : Int := z.bmod 4294967296

def toInt16 (z : Int) : Int := z.bmod 65536

def toUInt16 (z : Int) : Int := z % 65536

/-- What the message had in a field stays where the value is not available. -/
def toDecodedBsmMessage (bsm : BsmCoreData) (decoded : DecodedBsmMessage) : DecodedBsmMessage :=
  let latitude := toInt32 bsm.lat
  let longitude := toInt32 bsm.long
  let elevation := toInt16 bsm.elev
  let speed := toUInt16 bsm.speed
  let heading := toUInt16 bsm.heading
  let angle := toInt16 bsm.angle
  let isLocationValid := latitude ≠ 900000001 ∧ longitude ≠ 1800000001
  { decoded with
    temporaryId := bsm.id.toInt
    latitude := if isLocationValid then latitude / 10000000 else decoded.latitude
    longitude := if isLocationValid then longitude / 10000000 else decoded.longitude
    elevation := if elevation ≠ -4095 then elevation / 10 else decoded.elevation
    speed := if speed ≠ 8191 then speed / 50 else decoded.speed
    heading := if heading ≠ 28800 then heading / 80 else decoded.heading
    steeringWheelAngle := if angle ≠ 127 then angle * (3 / 2) else decoded.steeringWheelAngle
    isLocationValid
    isElevationValid := elevation ≠ -4095
    isSpeedValid := speed ≠ 8191
    isHeadingValid := heading ≠ 28800
    isSteeringWheelAngleValid := angle ≠ 127 }

/-- A field on the way back: the value in units of the field, as a variable of the type with these
bounds, or the value for unavailable. -/
def toField (lo hi : Int) (valid : Bool) (value : ℚ) (unavailable : Int) : Option Int :=
  if valid then convert lo hi value else some unavailable

/-- The limits that the code assigns to the variables of the elevation, the heading and the angle
are overwritten by the next line, and do not show. -/
def toBasicSafetyMessage (decoded : DecodedBsmMessage) : Option BsmCoreData := do
  let lat ← toField (-2147483648) 2147483647 decoded.isLocationValid
    (decoded.latitude * 10000000) 900000001
  let long ← toField (-2147483648) 2147483647 decoded.isLocationValid
    (decoded.longitude * 10000000) 1800000001
  let elev ← toField (-32768) 32767 decoded.isElevationValid (decoded.elevation * 10) (-4095)
  let speed ← toField (-32768) 32767 decoded.isSpeedValid (decoded.speed * 50) 8191
  let heading ← toField 0 65535 decoded.isHeadingValid (decoded.heading * 80) 28800
  let angle ← toField (-128) 127 decoded.isSteeringWheelAngleValid
    (decoded.steeringWheelAngle * 80) 127
  some { msgCnt := 0, id := .ofInt 32 decoded.temporaryId, secMark := decoded.secondMark,
         lat, long, elev, speed, heading, angle }

/-! ## Ranges -/

/-- The core fields are within their J2735 ranges. -/
@[mk_iff]
structure InRange (bsm : BsmCoreData) : Prop where
  lat : -900000000 ≤ bsm.lat ∧ bsm.lat ≤ 900000001
  long : -1799999999 ≤ bsm.long ∧ bsm.long ≤ 1800000001
  elev : -4096 ≤ bsm.elev ∧ bsm.elev ≤ 61439
  speed : 0 ≤ bsm.speed ∧ bsm.speed ≤ 8191
  heading : 0 ≤ bsm.heading ∧ bsm.heading ≤ 28800
  angle : -126 ≤ bsm.angle ∧ bsm.angle ≤ 127

/-- The same position, elevation, speed, heading and steering angle. -/
def SameCore (bsm bsm' : BsmCoreData) : Prop :=
  bsm.lat = bsm'.lat ∧ bsm.long = bsm'.long ∧ bsm.elev = bsm'.elev ∧ bsm.speed = bsm'.speed ∧
    bsm.heading = bsm'.heading ∧ bsm.angle = bsm'.angle

/-- There and back is where one was. -/
def RoundTrips (bsm : BsmCoreData) (decoded : DecodedBsmMessage) : Prop :=
  ∃ bsm', toBasicSafetyMessage (toDecodedBsmMessage bsm decoded) = some bsm' ∧ SameCore bsm bsm'

/-- What is lost on the way: a half of a position, a great height, and all angles but the one of a
wheel that stands straight and the one that is not known. -/
@[mk_iff]
structure Kept (bsm : BsmCoreData) : Prop where
  location : bsm.lat = 900000001 ↔ bsm.long = 1800000001
  elev : bsm.elev ≤ 32767
  angle : bsm.angle = 0 ∨ bsm.angle = 127

/-- **The message that is built**, field by field: there is one with these properties exactly if
every field is computed and has its property. -/
theorem exists_toBasicSafetyMessage_iff {decoded : DecodedBsmMessage}
    (lat long elev speed heading angle : Int → Prop) :
    (∃ bsm, toBasicSafetyMessage decoded = some bsm ∧ lat bsm.lat ∧ long bsm.long ∧
        elev bsm.elev ∧ speed bsm.speed ∧ heading bsm.heading ∧ angle bsm.angle) ↔
      (∃ z, toField (-2147483648) 2147483647 decoded.isLocationValid
        (decoded.latitude * 10000000) 900000001 = some z ∧ lat z) ∧
      (∃ z, toField (-2147483648) 2147483647 decoded.isLocationValid
        (decoded.longitude * 10000000) 1800000001 = some z ∧ long z) ∧
      (∃ z, toField (-32768) 32767 decoded.isElevationValid (decoded.elevation * 10) (-4095) =
        some z ∧ elev z) ∧
      (∃ z, toField (-32768) 32767 decoded.isSpeedValid (decoded.speed * 50) 8191 = some z ∧
        speed z) ∧
      (∃ z, toField 0 65535 decoded.isHeadingValid (decoded.heading * 80) 28800 = some z ∧
        heading z) ∧
      (∃ z, toField (-128) 127 decoded.isSteeringWheelAngleValid
        (decoded.steeringWheelAngle * 80) 127 = some z ∧ angle z) := by
  constructor
  · rintro ⟨bsm, hbsm, hfields⟩
    simp only [toBasicSafetyMessage, Option.bind_eq_bind, Option.bind_eq_some_iff] at hbsm
    obtain ⟨z₁, h₁, z₂, h₂, z₃, h₃, z₄, h₄, z₅, h₅, z₆, h₆, heq⟩ := hbsm
    cases heq
    obtain ⟨hlat, hlong, helev, hspeed, hheading, hangle⟩ := hfields
    exact ⟨⟨z₁, h₁, hlat⟩, ⟨z₂, h₂, hlong⟩, ⟨z₃, h₃, helev⟩, ⟨z₄, h₄, hspeed⟩,
      ⟨z₅, h₅, hheading⟩, ⟨z₆, h₆, hangle⟩⟩
  · rintro ⟨⟨z₁, h₁, hlat⟩, ⟨z₂, h₂, hlong⟩, ⟨z₃, h₃, helev⟩, ⟨z₄, h₄, hspeed⟩,
      ⟨z₅, h₅, hheading⟩, ⟨z₆, h₆, hangle⟩⟩
    refine ⟨⟨0, .ofInt 32 decoded.temporaryId, decoded.secondMark, z₁, z₂, z₃, z₄, z₅, z₆⟩, ?_,
      hlat, hlong, helev, hspeed, hheading, hangle⟩
    unfold toBasicSafetyMessage
    rw [h₁, h₂, h₃, h₄, h₅, h₆]
    rfl

/-! ## There and back -/

theorem toInt32_of_mem {z : Int} (hlo : -2147483648 ≤ z) (hhi : z ≤ 2147483647) :
    toInt32 z = z := by
  unfold toInt32
  rw [Int.bmod_def]
  omega

theorem toInt16_of_mem {z : Int} (hlo : -32768 ≤ z) (hhi : z ≤ 32767) : toInt16 z = z := by
  unfold toInt16
  rw [Int.bmod_def]
  omega

theorem toInt16_mem (z : Int) : -32768 ≤ toInt16 z ∧ toInt16 z ≤ 32767 := by
  unfold toInt16
  rw [Int.bmod_def]
  omega

/-- A field that is divided and multiplied by the same is kept if its variable can hold it. -/
theorem toField_scaled {lo hi z unavailable : Int} {k value : ℚ} (hk : k ≠ 0) (hlo : lo ≤ z)
    (hhi : z ≤ hi) (hvalue : z ≠ unavailable → value = z / k) :
    toField lo hi (decide (z ≠ unavailable)) (value * k) unavailable = some z := by
  unfold toField
  by_cases hz : z = unavailable
  · rw [if_neg (by simp [hz]), hz]
  · rw [if_pos (by simp [hz]), hvalue hz, div_mul_cancel₀ _ hk]
    exact convert_intCast hlo hhi

/-- An angle is multiplied by 120 on the way there and back. -/
theorem toField_angle {z : Int} {value : ℚ} (hvalue : z ≠ 127 → value = z * (3 / 2)) :
    toField (-128) 127 (decide (z ≠ 127)) (value * 80) 127 = some z ↔ z = 0 ∨ z = 127 := by
  unfold toField
  by_cases hz : z = 127
  · rw [if_neg (by simp [hz]), hz]
    simp
  · have hscaled : value * 80 = ((120 * z : Int) : ℚ) := by
      rw [hvalue hz]
      push_cast
      ring
    rw [if_pos (by simp [hz]), hscaled, convert_intCast_eq_some_iff]
    omega

/-- A position of which one half is not available comes back without the other half. -/
theorem toField_location {lat long : Int} {latitude longitude : ℚ}
    (hlat : -900000000 ≤ lat ∧ lat ≤ 900000001) (hlong : -1799999999 ≤ long ∧ long ≤ 1800000001)
    (hlatitude : lat ≠ 900000001 ∧ long ≠ 1800000001 → latitude = lat / 10000000)
    (hlongitude : lat ≠ 900000001 ∧ long ≠ 1800000001 → longitude = long / 10000000) :
    toField (-2147483648) 2147483647 (decide (lat ≠ 900000001 ∧ long ≠ 1800000001))
          (latitude * 10000000) 900000001 = some lat ∧
        toField (-2147483648) 2147483647 (decide (lat ≠ 900000001 ∧ long ≠ 1800000001))
          (longitude * 10000000) 1800000001 = some long ↔
      (lat = 900000001 ↔ long = 1800000001) := by
  unfold toField
  by_cases hvalid : lat ≠ 900000001 ∧ long ≠ 1800000001
  · have hlat' : latitude * 10000000 = (lat : ℚ) := by
      rw [hlatitude hvalid]
      exact div_mul_cancel₀ _ (by norm_num)
    have hlong' : longitude * 10000000 = (long : ℚ) := by
      rw [hlongitude hvalid]
      exact div_mul_cancel₀ _ (by norm_num)
    rw [if_pos (by simpa using hvalid), if_pos (by simpa using hvalid), hlat', hlong',
      convert_intCast (by omega) (by omega), convert_intCast (by omega) (by omega)]
    exact iff_of_true ⟨rfl, rfl⟩ (iff_of_false hvalid.1 hvalid.2)
  · rw [if_neg (by simpa using hvalid), if_neg (by simpa using hvalid)]
    simp only [Option.some.injEq]
    omega

/-- **There and back**, for a message that is in range: it comes back the same exactly if it has
nothing that is lost. -/
theorem roundTrips_iff {bsm : BsmCoreData} (h : InRange bsm) (decoded : DecodedBsmMessage) :
    RoundTrips bsm decoded ↔ Kept bsm := by
  obtain ⟨hlat, hlong, helev, hspeed, hheading, hangle⟩ := h
  have hlat32 : toInt32 bsm.lat = bsm.lat := toInt32_of_mem (by omega) (by omega)
  have hlong32 : toInt32 bsm.long = bsm.long := toInt32_of_mem (by omega) (by omega)
  have hspeed16 : toUInt16 bsm.speed = bsm.speed := Int.emod_eq_of_lt (by omega) (by omega)
  have hheading16 : toUInt16 bsm.heading = bsm.heading := Int.emod_eq_of_lt (by omega) (by omega)
  have hangle16 : toInt16 bsm.angle = bsm.angle := toInt16_of_mem (by omega) (by omega)
  have helevrange := toInt16_mem bsm.elev
  have helev16 : toInt16 bsm.elev = bsm.elev ↔ bsm.elev ≤ 32767 := by
    refine ⟨fun heq => by omega, fun hle => toInt16_of_mem (by omega) hle⟩
  unfold RoundTrips SameCore
  rw [exists_toBasicSafetyMessage_iff]
  simp only [exists_eq_right', toDecodedBsmMessage, hlat32, hlong32, hspeed16, hheading16,
    hangle16]
  rw [← and_assoc, toField_location hlat hlong (fun hv => if_pos hv) (fun hv => if_pos hv),
    toField_scaled (by norm_num) helevrange.1 helevrange.2 (fun hne => if_pos hne),
    toField_scaled (by norm_num) (by omega) (by omega) (fun hne => if_pos hne),
    toField_scaled (by norm_num) (by omega) (by omega) (fun hne => if_pos hne),
    toField_angle (fun hne => if_pos hne)]
  rw [kept_iff]
  simp only [Option.some.injEq, helev16, true_and]

/-! ## What is built from any message -/

/-- Where a field ends up. -/
theorem toField_mem_iff {lo hi lo' hi' unavailable : Int} {valid : Bool} {value below above : ℚ}
    (hlo : lo ≤ lo' ∧ lo' ≤ 0) (hhi : 0 ≤ hi' ∧ hi' ≤ hi)
    (hunavailable : lo' ≤ unavailable ∧ unavailable ≤ hi') (hbelow : (lo' : ℚ) - 1 = below)
    (habove : (hi' : ℚ) + 1 = above) :
    (∃ z, toField lo hi valid value unavailable = some z ∧ lo' ≤ z ∧ z ≤ hi') ↔
      (valid = true → below < value ∧ value < above) := by
  subst hbelow habove
  unfold toField
  cases valid with
  | true =>
      rw [if_pos rfl, convert_mem_iff hlo.1 hlo.2 hhi.1 hhi.2]
      simp
  | false =>
      refine iff_of_true ⟨unavailable, ?_, hunavailable⟩ (fun h => nomatch h)
      exact if_neg Bool.false_ne_true

theorem toField_le {lo hi unavailable z : Int} {valid : Bool} {value : ℚ}
    (h : toField lo hi valid value unavailable = some z) (hunavailable : unavailable ≤ hi) :
    z ≤ hi := by
  simp only [toField, convert] at h
  split_ifs at h with hvalid hmem
  · cases h
    exact hmem.2
  · cases h
    exact hunavailable

/-- Whatever is decoded, the message that is built is in range. -/
def BuildsInRange (decoded : DecodedBsmMessage) : Prop :=
  ∃ bsm, toBasicSafetyMessage decoded = some bsm ∧ InRange bsm

/-- The numbers that are built into a message in range: those that it has room for, and no more of
the others than is dropped with the fraction. -/
@[mk_iff]
structure Fits (decoded : DecodedBsmMessage) : Prop where
  latitude : decoded.isLocationValid = true →
    -900000001 < decoded.latitude * 10000000 ∧ decoded.latitude * 10000000 < 900000002
  longitude : decoded.isLocationValid = true →
    -1800000000 < decoded.longitude * 10000000 ∧ decoded.longitude * 10000000 < 1800000002
  elevation : decoded.isElevationValid = true →
    -4097 < decoded.elevation * 10 ∧ decoded.elevation * 10 < 32768
  speed : decoded.isSpeedValid = true → -1 < decoded.speed * 50 ∧ decoded.speed * 50 < 8192
  heading : decoded.isHeadingValid = true →
    -1 < decoded.heading * 80 ∧ decoded.heading * 80 < 28801
  steeringWheelAngle : decoded.isSteeringWheelAngleValid = true →
    -127 < decoded.steeringWheelAngle * 80 ∧ decoded.steeringWheelAngle * 80 < 128

/-- The variable of the elevation is too small for most of the range. -/
theorem toField_elevation {valid : Bool} {value : ℚ} :
    (∃ z, toField (-32768) 32767 valid value (-4095) = some z ∧ -4096 ≤ z ∧ z ≤ 61439) ↔
      (valid = true → -4097 < value ∧ value < 32768) := by
  have hmem : (∃ z, toField (-32768) 32767 valid value (-4095) = some z ∧ -4096 ≤ z ∧ z ≤ 32767) ↔
      (valid = true → -4097 < value ∧ value < 32768) :=
    toField_mem_iff (by decide) (by decide) (by decide) (by norm_num) (by norm_num)
  rw [← hmem]
  constructor
  · rintro ⟨z, hz, hlo, -⟩
    exact ⟨z, hz, hlo, toField_le hz (by decide)⟩
  · rintro ⟨z, hz, hlo, hhi⟩
    exact ⟨z, hz, hlo, by omega⟩

theorem buildsInRange_iff (decoded : DecodedBsmMessage) :
    BuildsInRange decoded ↔ Fits decoded := by
  unfold BuildsInRange
  simp only [inRange_iff]
  refine (exists_toBasicSafetyMessage_iff (fun z => -900000000 ≤ z ∧ z ≤ 900000001)
    (fun z => -1799999999 ≤ z ∧ z ≤ 1800000001) (fun z => -4096 ≤ z ∧ z ≤ 61439)
    (fun z => 0 ≤ z ∧ z ≤ 8191) (fun z => 0 ≤ z ∧ z ≤ 28800)
    (fun z => -126 ≤ z ∧ z ≤ 127)).trans ?_
  rw [fits_iff]
  refine and_congr ?_ (and_congr ?_ (and_congr toField_elevation (and_congr ?_ (and_congr ?_ ?_))))
  all_goals
    exact toField_mem_iff (by decide) (by decide) (by decide) (by norm_num) (by norm_num)

/-- **Basic safety messages there, and back**: a message in range comes back the same exactly if it
has nothing that is lost on the way, and a decoded message is built into one in range exactly if its
numbers fit. -/
theorem roundTrips_inRange_iff (bsm : BsmCoreData) (h : InRange bsm) (decoded : DecodedBsmMessage) :
    (RoundTrips bsm decoded ↔ Kept bsm) ∧ (BuildsInRange decoded ↔ Fits decoded) :=
  ⟨roundTrips_iff h decoded, buildsInRange_iff decoded⟩

/-- A car that stands in a parking lot with its wheel straight. -/
def parked : BsmCoreData where
  msgCnt := 0
  id := 0
  secMark := 0
  lat := 389549775
  long := -771493380
  elev := 390
  speed := 0
  heading := 7200
  angle := 0

theorem inRange_parked (angle : Int) (h : -126 ≤ angle ∧ angle ≤ 127) :
    InRange { parked with angle } := by
  constructor
  all_goals
    simp only [parked]
    omega

theorem roundTrips_inRange_parked :
    RoundTrips parked {} ∧ BuildsInRange { elevation := 390, isElevationValid := true } := by
  have hparked := inRange_parked 0 (by decide)
  constructor
  · exact (roundTrips_inRange_iff parked hparked {}).1.mpr ⟨by decide, by decide, .inl rfl⟩
  · refine (roundTrips_inRange_iff parked hparked _).2.mpr ?_
    constructor
    case elevation =>
      intro _
      norm_num
    all_goals
      intro hvalid
      cases hvalid

/-- The wheel turned by 1.5 degrees comes back as turned by 180, and an elevation of 7000 m is
neither clamped nor built at all. -/
theorem roundTrips_turned :
    InRange { parked with angle := 1 } ∧
      toBasicSafetyMessage (toDecodedBsmMessage { parked with angle := 1 } {}) =
        some { parked with angle := 120 } ∧
      ¬ RoundTrips { parked with angle := 1 } {} ∧
      ¬ BuildsInRange { elevation := 7000, isElevationValid := true } := by
  refine ⟨inRange_parked 1 (by decide), by decide +kernel, ?_, ?_⟩
  · rw [roundTrips_iff (inRange_parked 1 (by decide))]
    intro hkept
    exact absurd hkept.angle (by decide)
  · rw [buildsInRange_iff]
    intro hfits
    have helevation := (hfits.elevation rfl).2
    norm_num at helevation

end BsmConverter

end V2XHub.Tmx
