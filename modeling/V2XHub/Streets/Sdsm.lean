import V2XHub.Streets.JsonValue

/-!
# Sensor data sharing messages and their JSON

`convertJ3224ToSDSMJSON` writes a sensor data sharing message as JSON, `convertJsonToSDSM` reads
such JSON into a message. They are two traversals of the same structure, written apart. The first
reads optional fields without asking whether they are there, which has no meaning where they are
not: the result is then `none`. The second asks for every optional member, and throws, which is
`none` as well, where a value has the wrong type.
-/

namespace V2XHub.Streets

/-! ## The message -/

structure DDateTime where
  year : Option Int
  month : Option Int
  day : Option Int
  hour : Option Int
  minute : Option Int
  second : Option Int
  offset : Option Int
  deriving DecidableEq, Repr

structure RegionalExtension where
  regionId : Int
  regExtValue : List UInt8
  deriving DecidableEq, Repr

structure Position3D where
  lat : Int
  long : Int
  elevation : Option Int
  regional : Option (List RegionalExtension) := none
  deriving DecidableEq, Repr

structure PositionalAccuracy where
  semiMajor : Int
  semiMinor : Int
  orientation : Int
  deriving DecidableEq, Repr

structure PositionOffsetXYZ where
  offsetX : Int
  offsetY : Int
  offsetZ : Option Int
  deriving DecidableEq, Repr

structure PositionConfidenceSet where
  pos : Int
  elevation : Int
  deriving DecidableEq, Repr

structure AccelerationSet4Way where
  long : Int
  lat : Int
  vert : Int
  yaw : Int
  deriving DecidableEq, Repr

structure DetectedObjectCommonData where
  objType : Int
  objTypeCfd : Int
  objectID : Int
  measurementTime : Int
  timeConfidence : Int
  pos : PositionOffsetXYZ
  posConfidence : PositionConfidenceSet
  speed : Int
  speedConfidence : Int
  speedZ : Option Int
  speedConfidenceZ : Option Int
  heading : Int
  headingConf : Int
  accel4way : Option AccelerationSet4Way
  accCfdX : Option Int
  accCfdY : Option Int
  accCfdZ : Option Int
  accCfdYaw : Option Int
  deriving DecidableEq, Repr

/-- `ExteriorLights`, by its first byte and the rest. -/
structure ExteriorLights where
  first : UInt8
  rest : List UInt8
  bitsUnused : Nat
  deriving DecidableEq, Repr

structure Attitude where
  pitch : Int
  roll : Int
  yaw : Int
  deriving DecidableEq, Repr

structure AttitudeConfidence where
  pitchConfidence : Int
  rollConfidence : Int
  yawConfidence : Int
  deriving DecidableEq, Repr

structure AngularVelocity where
  pitchRate : Int
  rollRate : Int
  deriving DecidableEq, Repr

structure AngularVelocityConfidence where
  pitchRateConfidence : Option Int
  rollRateConfidence : Option Int
  deriving DecidableEq, Repr

structure VehicleSize where
  width : Int
  length : Int
  deriving DecidableEq, Repr

structure VehicleSizeConfidence where
  vehicleWidthConfidence : Int
  vehicleLengthConfidence : Int
  vehicleHeightConfidence : Option Int
  deriving DecidableEq, Repr

structure DetectedVehicleData where
  lights : Option ExteriorLights
  vehAttitude : Option Attitude
  vehAttitudeConfidence : Option AttitudeConfidence
  vehAngVel : Option AngularVelocity
  vehAngVelConfidence : Option AngularVelocityConfidence
  size : Option VehicleSize
  height : Option Int
  vehicleSizeConfidence : Option VehicleSizeConfidence
  vehicleClass : Option Int
  classConf : Option Int
  deriving DecidableEq, Repr

inductive PropelledInformation
  | nothing
  | human (type : Int)
  | animal (type : Int)
  | motor (type : Int)
  deriving DecidableEq, Repr

structure DetectedVRUData where
  basicType : Option Int
  propulsion : Option PropelledInformation
  attachment : Option Int
  radius : Option Int
  deriving DecidableEq, Repr

structure ObstacleSize where
  width : Int
  length : Int
  height : Option Int
  deriving DecidableEq, Repr

structure ObstacleSizeConfidence where
  widthConfidence : Int
  lengthConfidence : Int
  heightConfidence : Option Int
  deriving DecidableEq, Repr

structure DetectedObstacleData where
  obstSize : ObstacleSize
  obstSizeConfidence : ObstacleSizeConfidence
  deriving DecidableEq, Repr

inductive DetectedObjectOptionalData
  | nothing
  | detVeh (data : DetectedVehicleData)
  | detVRU (data : DetectedVRUData)
  | detObst (data : DetectedObstacleData)
  deriving DecidableEq, Repr

structure DetectedObjectData where
  detObjCommon : DetectedObjectCommonData
  detObjOptData : Option DetectedObjectOptionalData
  deriving DecidableEq, Repr

structure SensorDataSharingMessage where
  msgCnt : Int
  sourceID : List UInt8
  equipmentType : Int
  sDSMTimeStamp : DDateTime
  refPos : Position3D
  refPosXYConf : PositionalAccuracy
  refPosElConf : Option Int
  objects : List DetectedObjectData
  deriving DecidableEq, Repr

/-! ## From the message to JSON -/

namespace J3224ToSDSMJson

open Value

/-- The bytes of the id as one number, in 64 bits. -/
def idNum (sourceID : List UInt8) : Nat :=
  sourceID.foldl (fun id_num b => (id_num * 256 + b.toNat) % 18446744073709551616) 0

/-- `std::setfill('0') << std::setw(8) << std::hex`. -/
def hexText (n : Nat) : String :=
  let digits := Nat.toDigits 16 n
  String.ofList (List.replicate (8 - digits.length) '0' ++ digits)

def timeStampJson (t : DDateTime) : Option Value := do
  let year ← t.year
  let month ← t.month
  let day ← t.day
  let hour ← t.hour
  let minute ← t.minute
  let second ← t.second
  let offset ← t.offset
  some (obj [("year", int year), ("month", int month), ("day", int day), ("hour", int hour),
    ("minute", int minute), ("second", int second), ("offset", int offset)])

def refPosJson (p : Position3D) : Option Value := do
  let elevation ← p.elevation
  some (obj [("lat", int p.lat), ("long", int p.long), ("elevation", int elevation)])

def commonDataJson (c : DetectedObjectCommonData) : Option Value := do
  let offsetZ ← c.pos.offsetZ
  let speedZ ← c.speedZ
  let speedConfidenceZ ← c.speedConfidenceZ
  let accel ← c.accel4way
  let accCfdX ← c.accCfdX
  let accCfdY ← c.accCfdY
  let accCfdZ ← c.accCfdZ
  let accCfdYaw ← c.accCfdYaw
  some (obj
    [("obj_type", int c.objType), ("obj_type_cfd", int c.objTypeCfd),
     ("object_id", int c.objectID), ("measurement_time", int c.measurementTime),
     ("time_confidence", int c.timeConfidence),
     ("pos", obj [("offset_x", int c.pos.offsetX), ("offset_y", int c.pos.offsetY),
       ("offset_z", int offsetZ)]),
     ("pos_confidence", obj [("pos", int c.posConfidence.pos),
       ("elevation", int c.posConfidence.elevation)]),
     ("speed", int c.speed), ("speed_confidence", int c.speedConfidence),
     ("heading", int c.heading), ("heading_conf", int c.headingConf),
     ("speed_z", int speedZ), ("speed_confidence_z", int speedConfidenceZ),
     ("accel_4_way", obj [("long", int accel.long), ("lat", int accel.lat),
       ("vert", int accel.vert), ("yaw", int accel.yaw)]),
     ("acc_cfd_x", int accCfdX), ("acc_cfd_y", int accCfdY), ("acc_cfd_z", int accCfdZ),
     ("acc_cfd_yaw", int accCfdYaw)])

def angVelConfidenceJson (c : AngularVelocityConfidence) : Option Value := do
  let pitchRate ← c.pitchRateConfidence
  let rollRate ← c.rollRateConfidence
  some (obj [("pitch_rate_confidence", int pitchRate), ("roll_rate_confidence", int rollRate)])

def sizeConfidenceJson (c : VehicleSizeConfidence) : Option Value := do
  let height ← c.vehicleHeightConfidence
  some (obj [("vehicle_width_confidence", int c.vehicleWidthConfidence),
    ("vehicle_length_confidence", int c.vehicleLengthConfidence),
    ("vehicle_height_confidence", int height)])

def vehicleJson (v : DetectedVehicleData) : Option Value := do
  let lights ← v.lights
  let attitude ← v.vehAttitude
  let attitudeConfidence ← v.vehAttitudeConfidence
  let angVel ← v.vehAngVel
  let angVelConfidence ← v.vehAngVelConfidence
  let angVelConfidence ← angVelConfidenceJson angVelConfidence
  let size ← v.size
  let height ← v.height
  let sizeConfidence ← v.vehicleSizeConfidence
  let sizeConfidence ← sizeConfidenceJson sizeConfidence
  let vehicleClass ← v.vehicleClass
  let classConf ← v.classConf
  some (obj
    [("lights", str (toString lights.first.toNat)),
     ("veh_attitude", obj [("pitch", int attitude.pitch), ("roll", int attitude.roll),
       ("yaw", int attitude.yaw)]),
     ("veh_attitude_confidence", obj
       [("pitch_confidence", int attitudeConfidence.pitchConfidence),
        ("roll_confidence", int attitudeConfidence.rollConfidence),
        ("yaw_confidence", int attitudeConfidence.yawConfidence)]),
     ("veh_ang_vel", obj [("pitch_rate", int angVel.pitchRate),
       ("roll_rate", int angVel.rollRate)]),
     ("veh_ang_vel_confidence", angVelConfidence),
     ("size", obj [("width", int size.width), ("length", int size.length)]),
     ("height", int height),
     ("vehicle_size_confidence", sizeConfidence),
     ("vehicle_class", int vehicleClass), ("vehicle_class_conf", int classConf)])

/-- The member for the propulsion. All three alternatives are written under one key. -/
def propulsionJson : PropelledInformation → List (String × Value)
  | .nothing => []
  | .human type => [("propulsion", obj [("human", int type)])]
  | .animal type => [("propulsion", obj [("human", int type)])]
  | .motor type => [("propulsion", obj [("human", int type)])]

def vruJson (v : DetectedVRUData) : Option Value := do
  let basicType ← v.basicType
  let propulsion ← v.propulsion
  let attachment ← v.attachment
  let radius ← v.radius
  some (obj ([("basic_type", int basicType)] ++ propulsionJson propulsion ++
    [("attachment", int attachment), ("radius", int radius)]))

def obstacleJson (o : DetectedObstacleData) : Option Value := do
  let height ← o.obstSize.height
  let heightConfidence ← o.obstSizeConfidence.heightConfidence
  some (obj
    [("obst_size", obj [("width", int o.obstSize.width), ("length", int o.obstSize.length),
       ("height", int height)]),
     ("obst_size_confidence", obj
       [("width_confidence", int o.obstSizeConfidence.widthConfidence),
        ("length_confidence", int o.obstSizeConfidence.lengthConfidence),
        ("height_confidence", int heightConfidence)])])

def optionalDataJson : DetectedObjectOptionalData → Option Value
  | .nothing => some null
  | .detVeh v => (vehicleJson v).map fun json => obj [("detected_vehicle_data", json)]
  | .detVRU v => (vruJson v).map fun json => obj [("detected_vru_data", json)]
  | .detObst o => (obstacleJson o).map fun json => obj [("detected_obstacle_data", json)]

/-- The member for the optional data, if there is any. -/
def optionalData (o : DetectedObjectData) : Option (List (String × Value)) :=
  match o.detObjOptData with
  | some data =>
      (optionalDataJson data).map fun json => [("detected_object_optional_data", json)]
  | none => some []

def detectedObjectJson (o : DetectedObjectData) : Option Value := do
  let common ← commonDataJson o.detObjCommon
  let optionalData ← optionalData o
  some (obj [("detected_object_data",
    obj ([("detected_object_common_data", common)] ++ optionalData))])

/-- The member for the objects. The first one appended makes it. -/
def objectsJson : List DetectedObjectData → Option (List (String × Value))
  | [] => some []
  | o :: os => (null.appendEach detectedObjectJson (o :: os)).map fun json => [("objects", json)]

def convertJ3224ToSDSMJSON (m : SensorDataSharingMessage) : Option Value := do
  let timeStamp ← timeStampJson m.sDSMTimeStamp
  let refPos ← refPosJson m.refPos
  let refPosElConf ← m.refPosElConf
  let objects ← objectsJson m.objects
  some (obj
    ([("msg_cnt", int m.msgCnt), ("source_id", str (hexText (idNum m.sourceID))),
      ("equipment_type", int m.equipmentType), ("sdsm_time_stamp", timeStamp),
      ("ref_pos", refPos),
      ("ref_pos_xy_conf", obj [("semi_major", int m.refPosXYConf.semiMajor),
        ("semi_minor", int m.refPosXYConf.semiMinor),
        ("orientation", int m.refPosXYConf.orientation)]),
      ("ref_pos_el_conf", int refPosElConf)] ++ objects))

end J3224ToSDSMJson

/-! ## From JSON to the message -/

namespace JsonToJ3224SDSM

open Value

/-- `v[key₁][key₂]….asInt64()`. -/
def int64At (path : List String) (v : Value) : Option Int :=
  (v.getPath path).bind asInt64

/-- What is read of a member, if there is one. -/
def ifMember {α : Type} (key : String) (read : Value → Option α) (v : Value) :
    Option (Option α) := do
  if ← v.isMember key then
    let member ← v.get key
    (read member).map some
  else
    some none

/-- What `OCTET_STRING_fromString` takes of `text.substr(4)`: the bytes up to a zero. -/
def sourceIDBytes (text : String) : Option (List UInt8) :=
  let bytes := text.toList.flatMap String.utf8EncodeChar
  if 4 ≤ bytes.length then some ((bytes.drop 4).takeWhile (· ≠ 0)) else none

def dateTime (v : Value) : Option DDateTime := do
  let year ← ifMember "year" asInt64 v
  let month ← ifMember "month" asInt64 v
  let day ← ifMember "day" asInt64 v
  let hour ← ifMember "hour" asInt64 v
  let minute ← ifMember "minute" asInt64 v
  let second ← ifMember "second" asInt64 v
  let offset ← ifMember "offset" asInt64 v
  some ⟨year, month, day, hour, minute, second, offset⟩

def accel4way (v : Value) : Option AccelerationSet4Way := do
  let long ← int64At ["long"] v
  let lat ← int64At ["lat"] v
  let vert ← int64At ["vert"] v
  let yaw ← int64At ["yaw"] v
  some ⟨long, lat, vert, yaw⟩

def commonData (v : Value) : Option DetectedObjectCommonData := do
  let objType ← int64At ["obj_type"] v
  let objTypeCfd ← int64At ["obj_type_cfd"] v
  let objectID ← int64At ["object_id"] v
  let measurementTime ← int64At ["measurement_time"] v
  let timeConfidence ← int64At ["time_confidence"] v
  let offsetX ← int64At ["pos", "offset_x"] v
  let offsetY ← int64At ["pos", "offset_y"] v
  let offsetZ ← (v.get "pos").bind (ifMember "offset_z" asInt64)
  let pos ← int64At ["pos_confidence", "pos"] v
  let elevation ← int64At ["pos_confidence", "elevation"] v
  let speed ← int64At ["speed"] v
  let speedConfidence ← int64At ["speed_confidence"] v
  let speedZ ← ifMember "speed_z" asInt64 v
  let speedConfidenceZ ← ifMember "speed_confidence_z" asInt64 v
  let heading ← int64At ["heading"] v
  let headingConf ← int64At ["heading_conf"] v
  let accel ← ifMember "accel_4_way" accel4way v
  let accCfdX ← ifMember "acc_cfd_x" asInt64 v
  let accCfdY ← ifMember "acc_cfd_y" asInt64 v
  let accCfdZ ← ifMember "acc_cfd_z" asInt64 v
  let accCfdYaw ← ifMember "acc_cfd_yaw" asInt64 v
  some
    { objType := objType
      objTypeCfd := objTypeCfd
      objectID := objectID
      measurementTime := measurementTime
      timeConfidence := timeConfidence
      pos := ⟨offsetX, offsetY, offsetZ⟩
      posConfidence := ⟨pos, elevation⟩
      speed := speed
      speedConfidence := speedConfidence
      speedZ := speedZ
      speedConfidenceZ := speedConfidenceZ
      heading := heading
      headingConf := headingConf
      accel4way := accel
      accCfdX := accCfdX
      accCfdY := accCfdY
      accCfdZ := accCfdZ
      accCfdYaw := accCfdYaw }

def attitude (v : Value) : Option Attitude := do
  let pitch ← int64At ["pitch"] v
  let roll ← int64At ["roll"] v
  let yaw ← int64At ["yaw"] v
  some ⟨pitch, roll, yaw⟩

def attitudeConfidence (v : Value) : Option AttitudeConfidence := do
  let pitch ← int64At ["pitch_confidence"] v
  let roll ← int64At ["roll_confidence"] v
  let yaw ← int64At ["yaw_confidence"] v
  some ⟨pitch, roll, yaw⟩

def angularVelocity (v : Value) : Option AngularVelocity := do
  let pitch ← int64At ["pitch_rate"] v
  let roll ← int64At ["roll_rate"] v
  some ⟨pitch, roll⟩

def angularVelocityConfidence (v : Value) : Option AngularVelocityConfidence := do
  let pitch ← ifMember "pitch_rate_confidence" asInt64 v
  let roll ← ifMember "roll_rate_confidence" asInt64 v
  some ⟨pitch, roll⟩

def vehicleSize (v : Value) : Option VehicleSize := do
  let length ← int64At ["length"] v
  let width ← int64At ["width"] v
  some ⟨width, length⟩

def vehicleSizeConfidence (v : Value) : Option VehicleSizeConfidence := do
  let length ← int64At ["vehicle_length_confidence"] v
  let width ← int64At ["vehicle_width_confidence"] v
  let height ← ifMember "vehicle_height_confidence" asInt64 v
  some ⟨width, length, height⟩

/-- The lights are never read. -/
def vehicleData (v : Value) : Option DetectedVehicleData := do
  let vehAttitude ← ifMember "veh_attitude" attitude v
  let vehAttitudeConfidence ← ifMember "veh_attitude_confidence" attitudeConfidence v
  let vehAngVel ← ifMember "veh_ang_vel" angularVelocity v
  let vehAngVelConfidence ← ifMember "veh_ang_vel_confidence" angularVelocityConfidence v
  let size ← ifMember "size" vehicleSize v
  let height ← ifMember "height" asInt64 v
  let sizeConfidence ← ifMember "vehicle_size_confidence" vehicleSizeConfidence v
  let vehicleClass ← ifMember "vehicle_class" asInt64 v
  let classConf ← ifMember "vehicle_class_conf" asInt64 v
  some
    { lights := none
      vehAttitude := vehAttitude
      vehAttitudeConfidence := vehAttitudeConfidence
      vehAngVel := vehAngVel
      vehAngVelConfidence := vehAngVelConfidence
      size := size
      height := height
      vehicleSizeConfidence := sizeConfidence
      vehicleClass := vehicleClass
      classConf := classConf }

def propulsion (v : Value) : Option PropelledInformation := do
  if ← v.isMember "human" then
    (int64At ["human"] v).map .human
  else if ← v.isMember "animal" then
    (int64At ["animal"] v).map .animal
  else if ← v.isMember "motor" then
    (int64At ["motor"] v).map .motor
  else
    some .nothing

def vruData (v : Value) : Option DetectedVRUData := do
  let basicType ← ifMember "basic_type" asInt64 v
  let propulsion ← ifMember "propulsion" propulsion v
  let attachment ← ifMember "attachment" asInt64 v
  let radius ← ifMember "radius" asInt64 v
  some ⟨basicType, propulsion, attachment, radius⟩

def obstacleData (v : Value) : Option DetectedObstacleData := do
  let length ← int64At ["obst_size", "length"] v
  let width ← int64At ["obst_size", "width"] v
  let height ← (v.get "obst_size").bind (ifMember "height" asInt64)
  let lengthConfidence ← int64At ["obst_size_confidence", "length_confidence"] v
  let widthConfidence ← int64At ["obst_size_confidence", "width_confidence"] v
  let heightConfidence ←
    (v.get "obst_size_confidence").bind (ifMember "height_confidence" asInt64)
  some ⟨⟨width, length, height⟩, ⟨widthConfidence, lengthConfidence, heightConfidence⟩⟩

def populateOptionalData (v : Value) : Option DetectedObjectOptionalData := do
  if ← v.isMember "detected_vehicle_data" then
    ((v.get "detected_vehicle_data").bind vehicleData).map .detVeh
  else if ← v.isMember "detected_vru_data" then
    ((v.get "detected_vru_data").bind vruData).map .detVRU
  else if ← v.isMember "detected_obstacle_data" then
    ((v.get "detected_obstacle_data").bind obstacleData).map .detObst
  else
    some .nothing

def detectedObject (v : Value) : Option DetectedObjectData := do
  let data ← v.get "detected_object_data"
  let common ← (data.get "detected_object_common_data").bind commonData
  let optionalData ← ifMember "detected_object_optional_data" populateOptionalData data
  some ⟨common, optionalData⟩

/-- The objects, if there is an array of them. -/
def objects (v : Value) : Option (List DetectedObjectData) := do
  if ← v.isMember "objects" then
    let array ← v.get "objects"
    if array.isArray then array.elements.mapM detectedObject else some []
  else
    some []

/-- What is read is put into the message `sdsm`. -/
def convertJsonToSDSM (v : Value) (sdsm : SensorDataSharingMessage) :
    Option SensorDataSharingMessage := do
  let msgCnt ← int64At ["msg_cnt"] v
  let sourceText ← (v.get "source_id").bind asString
  let sourceID ← sourceIDBytes sourceText
  let equipmentType ← int64At ["equipment_type"] v
  let timeStamp ← (v.get "sdsm_time_stamp").bind dateTime
  let lat ← int64At ["ref_pos", "lat"] v
  let long ← int64At ["ref_pos", "long"] v
  let elevation ← (v.get "ref_pos").bind (ifMember "elevation" asInt64)
  let semiMajor ← int64At ["ref_pos_xy_conf", "semi_major"] v
  let semiMinor ← int64At ["ref_pos_xy_conf", "semi_minor"] v
  let orientation ← int64At ["ref_pos_xy_conf", "orientation"] v
  let refPosElConf ← ifMember "ref_pos_el_conf" asInt64 v
  let objects ← objects v
  some
    { msgCnt := msgCnt
      sourceID := sourceID
      equipmentType := equipmentType
      sDSMTimeStamp := timeStamp
      refPos := ⟨lat, long, elevation.or sdsm.refPos.elevation, sdsm.refPos.regional⟩
      refPosXYConf := ⟨semiMajor, semiMinor, orientation⟩
      refPosElConf := refPosElConf.or sdsm.refPosElConf
      objects := sdsm.objects ++ objects }

end JsonToJ3224SDSM

end V2XHub.Streets
