import V2XHub.Lib.Trunc
import V2XHub.Pedestrian.Times

/-!
# Pedestrian tracks

For every entry of a track message, `processPedestrianData` converts the texts of the camera to the
numbers of J2735 and writes a PSM and an SDSM. A coordinate is multiplied by `10 ^ 7` by taking its
point and its last character away. A heading is turned by the rotation of the camera, and brought up
by a full turn if it is negative. An id is written in hexadecimal, and filled up with zeros at its
end.

Where the code computes with `float`, the numbers here are rational.
-/

namespace V2XHub.Pedestrian

open V2XHub.Lib (trunc)
open V2XHub.Lib.Decimal

/-- The children of an entry that are read. -/
structure Track where
  angle : Option (List Char)
  iD : Option (List Char)
  latitude : Option (List Char)
  longitude : Option (List Char)
  speed : Option (List Char)

/-- The exceptions: `ptree_error` for a child that is missing, and those of `stoi` and `stof`. -/
inductive Thrown where
  | ptree_error
  | conversion
  deriving DecidableEq, Repr

/-! ## Conversions -/

/-- `std::fmod`. -/
def fmod (x y : ℚ) : ℚ := x - y * trunc (x / y)

/-- `std::round`, with halves away from zero. -/
def roundAway (q : ℚ) : Int := if 0 ≤ q then ⌊q + 1 / 2⌋ else ⌈q - 1 / 2⌉

/-- A rotated angle, in units of 0.0125 degrees. -/
def alphaOf (rawAlpha : ℚ) : Int :=
  let rawAlpha := if rawAlpha < 0 then fmod rawAlpha 360 + 360 else rawAlpha
  roundAway (rawAlpha / (1 / 80))

/-- An `int` in hexadecimal. -/
def hex (id : Int) : List Char := Nat.toDigits 16 (id % 4294967296).toNat

/-- The id with zeros appended, up to eight characters. -/
def fourOctets (id : Int) : List Char := hex id ++ List.replicate (8 - (hex id).length) '0'

/-- The point and the last character are taken away. -/
def coordinate (text : List Char) : List Char := (text.filter (· ≠ '.')).dropLast

/-- What is computed of an entry. -/
structure Detection where
  alpha : Int
  idResult : List Char
  objID : List Char
  lat : List Char
  lon : List Char
  speed : Int
  deriving DecidableEq, Repr

def child (c : Option (List Char)) : Except Thrown (List Char) :=
  match c with
  | some text => .ok text
  | none => .error .ptree_error

def converted {α : Type} (r : Option α) : Except Thrown α :=
  match r with
  | some a => .ok a
  | none => .error .conversion

section

variable (stof : List Char → Option ℚ)

/-- The blocks of the loop body. An empty child leaves the defaults. -/
def parseAngle (cameraRotation : ℚ) (text : List Char) : Except Thrown Int :=
  if text = [] then .ok 28800
  else (converted (stoi text)).map fun angle => alphaOf (cameraRotation - angle - 270)

def parseId (text : List Char) : Except Thrown (List Char × List Char) :=
  if text = [] then .ok ([], [])
  else (converted (stoi text)).map fun id => (fourOctets id, (toString (id.tmod 65535)).toList)

def parseSpeed (text : List Char) : Except Thrown Int :=
  if text = [] then .ok 8191
  else (converted (stof text)).map fun rawSpeed => roundAway (rawSpeed / (1 / 50))

def parseTrack (cameraRotation : ℚ) (it : Track) : Except Thrown Detection := do
  let alpha ← (child it.angle).bind (parseAngle cameraRotation)
  let id ← (child it.iD).bind parseId
  let latitude ← child it.latitude
  let longitude ← child it.longitude
  let speed ← (child it.speed).bind (parseSpeed stof)
  pure
    { alpha, idResult := id.1, objID := id.2, lat := coordinate latitude
      lon := coordinate longitude, speed }

/-! ## Messages -/

/-- What is put into the text of the PSM. -/
structure PersonalSafetyMessage where
  secMark : Int
  msgCnt : Int
  id : List Char
  lat : List Char
  long : List Char
  speed : Int
  heading : Int
  utcTime : DDateTime
  deriving DecidableEq, Repr

/-- What is put into the text of the SDSM. -/
structure SensorDataSharingMessage where
  msgCnt : Int
  sourceID : List Char
  sDSMTimeStamp : DDateTime
  lat : List Char
  long : List Char
  objectID : List Char
  speed : Int
  heading : Int
  deriving DecidableEq, Repr

inductive Message where
  | psm (m : PersonalSafetyMessage)
  | sdsm (m : SensorDataSharingMessage)
  deriving DecidableEq, Repr

/-- What the session is told when it is started. -/
structure Camera where
  cameraRotation : ℚ
  generatePSM : Bool
  generateSDSM : Bool
  generateTIM : Bool

/-- `FLIRWebSockAsyncClnSession`. -/
structure Session where
  msgCount : Int := 0
  msgQueue : List Message := []
  tim : TimTime
  isPedestrainPresent : Bool := false

def personalSafetyMessage (msgCount : Int) (dateTimeArr : ParsedTime) (d : Detection) :
    PersonalSafetyMessage where
  secMark := dateTimeArr.millisecondsTotal
  msgCnt := msgCount
  id := d.idResult
  lat := d.lat
  long := d.lon
  speed := d.speed
  heading := d.alpha
  utcTime := dateTimeArr.utcTime

def sensorDataSharingMessage (msgCount : Int) (dateTimeArr : ParsedTime) (d : Detection) :
    SensorDataSharingMessage where
  msgCnt := msgCount
  sourceID := d.idResult
  sDSMTimeStamp := dateTimeArr.utcTime
  lat := d.lat
  long := d.lon
  objectID := d.objID
  speed := d.speed
  heading := d.alpha

/-- The messages of an entry, in the order in which they are pushed. -/
def messages (c : Camera) (msgCount : Int) (dateTimeArr : ParsedTime) (d : Detection) :
    List Message :=
  (if c.generatePSM then [.psm (personalSafetyMessage msgCount dateTimeArr d)] else []) ++
    if c.generateSDSM then [.sdsm (sensorDataSharingMessage msgCount dateTimeArr d)] else []

def nextCount (msgCount : Int) : Int := if msgCount + 1 > 127 then 0 else msgCount + 1

variable (c : Camera) (standard : Int) (time : List Char)

/-- The loop body. -/
def processTrack (s : Session) (it : Track) : Except Thrown Session := do
  let d ← parseTrack stof c.cameraRotation it
  let dateTimeArr ← converted (timeStringParser time)
  let msgCount := nextCount s.msgCount
  pure
    { s with
      msgCount
      msgQueue := s.msgQueue ++ messages c msgCount dateTimeArr d
      tim := if c.generateTIM then dateTimeArr.timTime standard else s.tim
      isPedestrainPresent := c.generateTIM || s.isPedestrainPresent }

/-- The loop. An exception ends it, and what was done before stays. -/
def processTracks (s : Session) : List Track → Session × Option Thrown
  | [] => (s, none)
  | it :: rest =>
      match processTrack stof c standard time s it with
      | .ok s => processTracks s rest
      | .error e => (s, some e)

/-- `processPedestrianData` on the child `track`. Only `ptree_error` is caught. -/
def processPedestrianData (s : Session) (track : Option (List Track)) : Session × Option Thrown :=
  match track with
  | none => (s, none)
  | some track =>
      match processTracks stof c standard time s track with
      | (s, some .ptree_error) => (s, none)
      | result => result

end

end V2XHub.Pedestrian
