import V2XHub.Streets.SdsmFields

/-!
# A sensor data sharing message to JSON and back

What `convertJsonToSDSM` reads of the JSON that `convertJ3224ToSDSMJSON` writes, from the parts up:
every part comes back, but for the lights, which are not read, for a regional extension of the
reference position, which is not written, and for the propulsion of a road user, which comes back as
human.
-/

namespace V2XHub.Streets

open V2XHub.Lib Value J3224ToSDSMJson JsonToJ3224SDSM

/-! ## The parts -/

theorem dateTime_timeStampJson {t : DDateTime} {v : Value} (h : timeStampJson t = some v) :
    dateTime v = some t := by
  cases t
  simp only [timeStampJson, ↓step_eq_some_iff] at h
  obtain ⟨year, rfl, month, rfl, day, rfl, hour, rfl, minute, rfl, second, rfl, offset, rfl,
    hv⟩ := h
  cases hv
  simp [dateTime, ifMember, asInt64]

theorem commonData_commonDataJson {c : DetectedObjectCommonData} {v : Value}
    (h : commonDataJson c = some v) : commonData v = some c := by
  obtain ⟨objType, objTypeCfd, objectID, measurementTime, timeConfidence, ⟨offsetX, offsetY, _⟩,
    posConfidence, speed, speedConfidence, _, _, heading, headingConf, _, _, _, _, _⟩ := c
  simp only [commonDataJson, ↓step_eq_some_iff] at h
  obtain ⟨offsetZ, rfl, speedZ, rfl, speedConfidenceZ, rfl, accel, rfl, accCfdX, rfl, accCfdY, rfl,
    accCfdZ, rfl, accCfdYaw, rfl, hv⟩ := h
  cases hv
  simp [commonData, ifMember, int64At, getPath, asInt64, accel4way]

theorem angularVelocityConfidence_angVelConfidenceJson {c : AngularVelocityConfidence} {v : Value}
    (h : angVelConfidenceJson c = some v) : angularVelocityConfidence v = some c := by
  cases c
  simp only [angVelConfidenceJson, ↓step_eq_some_iff] at h
  obtain ⟨pitch, rfl, roll, rfl, hv⟩ := h
  cases hv
  simp [angularVelocityConfidence, ifMember, asInt64]

theorem vehicleSizeConfidence_sizeConfidenceJson {c : VehicleSizeConfidence} {v : Value}
    (h : sizeConfidenceJson c = some v) : vehicleSizeConfidence v = some c := by
  cases c
  simp only [sizeConfidenceJson, ↓step_eq_some_iff] at h
  obtain ⟨height, rfl, hv⟩ := h
  cases hv
  simp [vehicleSizeConfidence, ifMember, int64At, getPath, asInt64]

def DetectedVehicleData.withoutLights (v : DetectedVehicleData) : DetectedVehicleData :=
  { v with lights := none }

theorem vehicleData_vehicleJson {v : DetectedVehicleData} {json : Value}
    (h : vehicleJson v = some json) : vehicleData json = some v.withoutLights := by
  cases v
  simp only [vehicleJson, ↓step_eq_some_iff] at h
  obtain ⟨lights, rfl, att, rfl, attConf, rfl, angVel, rfl, angVelConf, rfl, angVelJson,
    hangVelJson, size, rfl, height, rfl, sizeConf, rfl, sizeJson, hsizeJson, vehicleClass, rfl,
    classConf, rfl, hjson⟩ := h
  cases hjson
  simp [vehicleData, ifMember, int64At, getPath, asInt64, attitude, attitudeConfidence,
    angularVelocity, vehicleSize, DetectedVehicleData.withoutLights,
    angularVelocityConfidence_angVelConfidenceJson hangVelJson,
    vehicleSizeConfidence_sizeConfidenceJson hsizeJson]

/-- Every propulsion that is written comes back as human. -/
def PropelledInformation.asHuman : PropelledInformation → PropelledInformation
  | .nothing => .nothing
  | .human type => .human type
  | .animal type => .human type
  | .motor type => .human type

def DetectedVRUData.asHuman (v : DetectedVRUData) : DetectedVRUData :=
  { v with propulsion := v.propulsion.map PropelledInformation.asHuman }

theorem vruData_vruJson {v : DetectedVRUData} {json : Value} (h : vruJson v = some json)
    (hchosen : v.propulsion ≠ some .nothing) : vruData json = some v.asHuman := by
  cases v
  simp only [vruJson, ↓step_eq_some_iff] at h
  obtain ⟨basicType, rfl, p, rfl, attachment, rfl, radius, rfl, hjson⟩ := h
  cases hjson
  cases p with
  | nothing => exact absurd rfl hchosen
  | _ type =>
      simp [vruData, ifMember, int64At, getPath, asInt64, propulsionJson, propulsion,
        DetectedVRUData.asHuman, PropelledInformation.asHuman]

theorem obstacleData_obstacleJson {o : DetectedObstacleData} {json : Value}
    (h : obstacleJson o = some json) : obstacleData json = some o := by
  obtain ⟨⟨width, length, _⟩, widthConfidence, lengthConfidence, _⟩ := o
  simp only [obstacleJson, ↓step_eq_some_iff] at h
  obtain ⟨height, rfl, heightConfidence, rfl, hjson⟩ := h
  cases hjson
  simp [obstacleData, ifMember, int64At, getPath, asInt64]

/-! ## The detected objects -/

/-- What comes back of the optional data. -/
def DetectedObjectOptionalData.back : DetectedObjectOptionalData → DetectedObjectOptionalData
  | .nothing => .nothing
  | .detVeh v => .detVeh v.withoutLights
  | .detVRU v => .detVRU v.asHuman
  | .detObst o => .detObst o

/-- One of the alternatives is there, also of the propulsion. -/
def DetectedObjectOptionalData.Chosen : DetectedObjectOptionalData → Prop
  | .nothing => False
  | .detVeh _ => True
  | .detVRU v => v.propulsion ≠ some .nothing
  | .detObst _ => True

theorem populateOptionalData_optionalDataJson {data : DetectedObjectOptionalData} {json : Value}
    (h : optionalDataJson data = some json) (hchosen : data.Chosen) :
    populateOptionalData json = some data.back := by
  cases data with
  | nothing => exact hchosen.elim
  | detVeh v =>
      obtain ⟨vehicle, hvehicle, rfl⟩ := Option.map_eq_some_iff.mp h
      simp [populateOptionalData, vehicleData_vehicleJson hvehicle,
        DetectedObjectOptionalData.back]
  | detVRU v =>
      obtain ⟨vru, hvru, rfl⟩ := Option.map_eq_some_iff.mp h
      simp [populateOptionalData, vruData_vruJson hvru hchosen, DetectedObjectOptionalData.back]
  | detObst o =>
      obtain ⟨obstacle, hobstacle, rfl⟩ := Option.map_eq_some_iff.mp h
      simp [populateOptionalData, obstacleData_obstacleJson hobstacle,
        DetectedObjectOptionalData.back]

/-- All optional fields of the object are there. -/
def DetectedObjectData.AllPresent (o : DetectedObjectData) : Prop :=
  o.Complete ∧ ∃ data, o.detObjOptData = some data ∧ data.Chosen

def DetectedObjectData.back (o : DetectedObjectData) : DetectedObjectData :=
  { o with detObjOptData := o.detObjOptData.map DetectedObjectOptionalData.back }

theorem detectedObject_detectedObjectJson {o : DetectedObjectData} {json : Value}
    (h : detectedObjectJson o = some json) (hpresent : o.AllPresent) :
    detectedObject json = some o.back := by
  obtain ⟨-, data, hdata, hchosen⟩ := hpresent
  simp only [detectedObjectJson, ↓step_eq_some_iff, optionalData, hdata] at h
  obtain ⟨common, hcommon, optional, hoptional, hjson⟩ := h
  obtain ⟨dataJson, hdataJson, rfl⟩ := Option.map_eq_some_iff.mp hoptional
  cases hjson
  simp [detectedObject, ifMember, commonData_commonDataJson hcommon, hdata,
    populateOptionalData_optionalDataJson hdataJson hchosen, DetectedObjectData.back]

/-- The objects come back in order. -/
theorem mapM_detectedObject {os : List DetectedObjectData} {jsons : List Value}
    (h : List.Forall₂ (fun o json => detectedObjectJson o = some json) os jsons)
    (hpresent : ∀ o ∈ os, o.AllPresent) :
    jsons.mapM detectedObject = some (os.map DetectedObjectData.back) := by
  induction h with
  | nil => rfl
  | cons ho _ ih =>
      obtain ⟨hpo, hpos⟩ := List.forall_mem_cons.mp hpresent
      rw [List.mapM_cons, detectedObject_detectedObjectJson ho hpo, ih hpos]
      rfl

theorem objects_obj_cons {k : String} (v : Value) (members : List (String × Value))
    (h : "objects" ≠ k) : objects (obj ((k, v) :: members)) = objects (obj members) := by
  simp [objects, h]

/-- What is not an array has no elements. -/
theorem ite_isArray_mapM (v : Value) :
    (if v.isArray then v.elements.mapM detectedObject else some []) =
      v.elements.mapM detectedObject := by
  cases v <;> rfl

theorem objects_objectsJson {os : List DetectedObjectData} {members : List (String × Value)}
    (h : objectsJson os = some members) (hpresent : ∀ o ∈ os, o.AllPresent) :
    objects (obj members) = some (os.map DetectedObjectData.back) := by
  cases os with
  | nil =>
      cases h
      rfl
  | cons o os =>
      obtain ⟨json, hjson, rfl⟩ := Option.map_eq_some_iff.mp h
      obtain ⟨jsons, helements, hjsons⟩ := appendEach_eq_some hjson
      have hjson : json.elements = jsons := helements
      simp [objects, ite_isArray_mapM, hjson, mapM_detectedObject hjsons hpresent]

/-! ## The message -/

theorem length_le_flatMap_utf8EncodeChar (cs : List Char) :
    cs.length ≤ (cs.flatMap String.utf8EncodeChar).length := by
  induction cs with
  | nil => exact Nat.le_refl _
  | cons c cs ih =>
      have hpos := c.utf8Size_pos
      simp only [List.flatMap_cons, List.length_cons, List.length_append,
        String.length_utf8EncodeChar]
      omega

theorem exists_sourceIDBytes_hexText (n : Nat) : ∃ id, sourceIDBytes (hexText n) = some id := by
  have hle := length_le_flatMap_utf8EncodeChar (hexText n).toList
  have hlength : 8 ≤ (hexText n).toList.length := by
    rw [hexText, String.toList_ofList, List.length_append, List.length_replicate]
    omega
  simp only [sourceIDBytes]
  exact ⟨_, if_pos (by omega)⟩

/-- All optional fields of the message are there, with or without a regional extension. -/
def SensorDataSharingMessage.AllPresent (m : SensorDataSharingMessage) : Prop :=
  m.Complete ∧ ∀ o ∈ m.objects, o.AllPresent

/-- A new message with nothing in it. -/
def SensorDataSharingMessage.blank : SensorDataSharingMessage where
  msgCnt := 0
  sourceID := []
  equipmentType := 0
  sDSMTimeStamp := ⟨none, none, none, none, none, none, none⟩
  refPos := ⟨0, 0, none, none⟩
  refPosXYConf := ⟨0, 0, 0⟩
  refPosElConf := none
  objects := []

theorem convertJsonToSDSM_of_convertJ3224ToSDSMJSON {m : SensorDataSharingMessage} {json : Value}
    (h : convertJ3224ToSDSMJSON m = some json) (hpresent : m.AllPresent) :
    ∃ id, convertJsonToSDSM json .blank =
      some { m with
        sourceID := id
        refPos := { m.refPos with regional := none }
        objects := m.objects.map DetectedObjectData.back } := by
  obtain ⟨msgCnt, sourceID, equipmentType, t, ⟨lat, long, _, _⟩, xyConf, _, os⟩ := m
  simp only [convertJ3224ToSDSMJSON, refPosJson, ↓step_eq_some_iff] at h
  obtain ⟨timeStamp, htimeStamp, refPos, ⟨elevation, rfl, hrefPos⟩, elConf, rfl, members,
    hmembers, hjson⟩ := h
  cases hrefPos
  cases hjson
  obtain ⟨id, hid⟩ := exists_sourceIDBytes_hexText (idNum sourceID)
  have hobjects := objects_objectsJson hmembers hpresent.2
  refine ⟨id, ?_⟩
  simp [convertJsonToSDSM, objects_obj_cons, ifMember, int64At, getPath, asInt64, asString, hid,
    hobjects, dateTime_timeStampJson htimeStamp, SensorDataSharingMessage.blank]

/-! ## What is the same -/

def DetectedObjectOptionalData.withoutLights :
    DetectedObjectOptionalData → DetectedObjectOptionalData
  | .detVeh v => .detVeh v.withoutLights
  | data => data

def DetectedObjectData.withoutLights (o : DetectedObjectData) : DetectedObjectData :=
  { o with detObjOptData := o.detObjOptData.map DetectedObjectOptionalData.withoutLights }

/-- The message but for its source id and the lights of its vehicles. -/
def SensorDataSharingMessage.compared (m : SensorDataSharingMessage) : SensorDataSharingMessage :=
  { m with sourceID := [], objects := m.objects.map DetectedObjectData.withoutLights }

def PropelledInformation.IsHuman (p : PropelledInformation) : Prop :=
  ∀ type, p ≠ .animal type ∧ p ≠ .motor type

/-- No road user is propelled by an animal or a motor. -/
def DetectedObjectData.PropelledByHuman (o : DetectedObjectData) : Prop :=
  ∀ v, o.detObjOptData = some (.detVRU v) → ∀ p, v.propulsion = some p → p.IsHuman

theorem asHuman_eq_self_iff {p : PropelledInformation} : p.asHuman = p ↔ p.IsHuman := by
  cases p <;> simp [PropelledInformation.asHuman, PropelledInformation.IsHuman]

theorem DetectedVRUData.asHuman_eq_self_iff {v : DetectedVRUData} :
    v.asHuman = v ↔ ∀ p, v.propulsion = some p → p.IsHuman := by
  obtain ⟨basicType, propulsion, attachment, radius⟩ := v
  cases propulsion with
  | none => simp [DetectedVRUData.asHuman]
  | some p => simp [DetectedVRUData.asHuman, Streets.asHuman_eq_self_iff]

theorem withoutLights_back_iff {o : DetectedObjectData} :
    o.back.withoutLights = o.withoutLights ↔ o.PropelledByHuman := by
  obtain ⟨common, optional⟩ := o
  cases optional with
  | none => simp [DetectedObjectData.back, DetectedObjectData.withoutLights,
      DetectedObjectData.PropelledByHuman]
  | some data =>
      cases data with
      | detVRU v => simp [DetectedObjectData.back, DetectedObjectData.withoutLights,
          DetectedObjectData.PropelledByHuman, DetectedObjectOptionalData.back,
          DetectedObjectOptionalData.withoutLights, DetectedVRUData.asHuman_eq_self_iff]
      | _ => simp [DetectedObjectData.back, DetectedObjectData.withoutLights,
          DetectedObjectData.PropelledByHuman, DetectedObjectOptionalData.back,
          DetectedObjectOptionalData.withoutLights, DetectedVehicleData.withoutLights]

/-- The message comes back the same, but for its source id and the lights. -/
def SensorDataSharingMessage.RoundTrips (m : SensorDataSharingMessage) : Prop :=
  ∃ json m', convertJ3224ToSDSMJSON m = some json ∧ convertJsonToSDSM json .blank = some m' ∧
    m'.compared = m.compared

theorem Position3D.withoutRegional_eq_iff {p : Position3D} :
    { p with regional := none } = p ↔ p.regional = none := by
  obtain ⟨lat, long, elevation, regional⟩ := p
  simp [eq_comm]

/-- A message comes back the same exactly if its reference position has no regional extension and
none of its road users is propelled by an animal or a motor. -/
theorem convertJsonToSDSM_convertJ3224ToSDSMJSON_iff {m : SensorDataSharingMessage}
    (hpresent : m.AllPresent) :
    m.RoundTrips ↔ m.refPos.regional = none ∧ ∀ o ∈ m.objects, o.PropelledByHuman := by
  obtain ⟨json, hjson⟩ := Option.isSome_iff_exists.mp (isSome_convertJ3224ToSDSMJSON.mpr hpresent.1)
  obtain ⟨id, hid⟩ := convertJsonToSDSM_of_convertJ3224ToSDSMJSON hjson hpresent
  have hcompared : ({ m with
      sourceID := id
      refPos := { m.refPos with regional := none }
      objects := m.objects.map DetectedObjectData.back } :
        SensorDataSharingMessage).compared = m.compared ↔
      m.refPos.regional = none ∧ ∀ o ∈ m.objects, o.PropelledByHuman := by
    simp [SensorDataSharingMessage.compared, withoutLights_back_iff,
      Position3D.withoutRegional_eq_iff]
  rw [← hcompared]
  constructor
  · rintro ⟨json', m', hjson', hm', hsame⟩
    cases hjson.symm.trans hjson'
    cases hid.symm.trans hm'
    exact hsame
  · intro hsame
    exact ⟨json, _, hjson, hid, hsame⟩

/-- An object with these optional data. -/
def detected (data : DetectedObjectOptionalData) : DetectedObjectData where
  detObjCommon :=
    { objType := 2, objTypeCfd := 65, objectID := 1200, measurementTime := 500
      timeConfidence := 8
      pos := ⟨1000, 750, some 50⟩
      posConfidence := ⟨2, 3⟩
      speed := 2100, speedConfidence := 3
      speedZ := some 1200, speedConfidenceZ := some 5
      heading := 15000, headingConf := 5
      accel4way := some ⟨200, -500, 1, 400⟩
      accCfdX := some 1, accCfdY := some 2, accCfdZ := some 3, accCfdYaw := some 4 }
  detObjOptData := some data

def roadUser (p : PropelledInformation) : DetectedObjectOptionalData :=
  .detVRU ⟨some 1, some p, some 3, some 30⟩

def car : DetectedObjectOptionalData :=
  .detVeh
    { lights := some ⟨0x80, [0], 7⟩
      vehAttitude := some ⟨2400, -12000, 400⟩
      vehAttitudeConfidence := some ⟨2, 3, 4⟩
      vehAngVel := some ⟨800, -600⟩
      vehAngVelConfidence := some ⟨some 3, some 4⟩
      size := some ⟨1000, 1000⟩
      height := some 70
      vehicleSizeConfidence := some ⟨9, 10, some 9⟩
      vehicleClass := some 5
      classConf := some 87 }

def debris : DetectedObjectOptionalData := .detObst ⟨⟨400, 100, some 10⟩, ⟨5, 6, some 7⟩⟩

/-- A message with these objects. -/
def sharing (regional : Option (List RegionalExtension))
    (objects : List DetectedObjectOptionalData) : SensorDataSharingMessage where
  msgCnt := 15
  sourceID := [1, 2, 3, 4]
  equipmentType := 1
  sDSMTimeStamp := ⟨some 2000, some 7, some 4, some 21, some 15, some 10000, some 2000⟩
  refPos := ⟨400000000, 800000000, some 30, regional⟩
  refPosXYConf := ⟨250, 200, 20000⟩
  refPosElConf := some 13
  objects := objects.map detected

theorem sharing_allPresent (regional : Option (List RegionalExtension))
    {objects : List DetectedObjectOptionalData}
    (h : ∀ data ∈ objects, data.Complete ∧ data.Chosen) :
    (sharing regional objects).AllPresent := by
  have hobject : ∀ data ∈ objects, (detected data).AllPresent := by
    intro data hdata
    refine ⟨⟨⟨rfl, rfl, rfl, rfl, rfl, rfl, rfl, rfl⟩, ?_⟩, data, rfl, (h data hdata).2⟩
    rintro _ ⟨⟩
    exact (h data hdata).1
  refine ⟨⟨⟨rfl, rfl, rfl, rfl, rfl, rfl, rfl⟩, rfl, rfl, ?_⟩, ?_⟩
  · intro o ho
    obtain ⟨data, hdata, rfl⟩ := List.mem_map.mp ho
    exact (hobject data hdata).1
  · intro o ho
    obtain ⟨data, hdata, rfl⟩ := List.mem_map.mp ho
    exact hobject data hdata

theorem roadUser_complete {p : PropelledInformation} (h : p ≠ .nothing) :
    (roadUser p).Complete ∧ (roadUser p).Chosen :=
  ⟨⟨rfl, rfl, rfl, rfl⟩, fun heq => h (Option.some.inj heq)⟩

theorem car_complete : car.Complete ∧ car.Chosen :=
  ⟨⟨rfl, rfl, rfl, rfl, ⟨_, rfl, rfl, rfl⟩, rfl, rfl, ⟨_, rfl, rfl⟩, rfl, rfl⟩, trivial⟩

theorem debris_complete : debris.Complete ∧ debris.Chosen := ⟨⟨rfl, rfl⟩, trivial⟩

/-- A car, somebody on a bicycle and debris. -/
theorem convertJsonToSDSM_convertJ3224ToSDSMJSON_human :
    (sharing none [car, roadUser (.human 2), debris]).RoundTrips := by
  have hpresent : (sharing none [car, roadUser (.human 2), debris]).AllPresent := by
    refine sharing_allPresent none ?_
    rintro data (_ | ⟨_, _ | ⟨_, _ | ⟨_, ⟨⟩⟩⟩⟩)
    · exact car_complete
    · exact roadUser_complete (by decide)
    · exact debris_complete
  refine (convertJsonToSDSM_convertJ3224ToSDSMJSON_iff hpresent).mpr ⟨rfl, ?_⟩
  simp [sharing, detected, car, roadUser, debris, DetectedObjectData.PropelledByHuman,
    PropelledInformation.IsHuman]

/-- A road user on an animal comes back as one without, and a regional extension is lost. -/
theorem convertJsonToSDSM_convertJ3224ToSDSMJSON_animal :
    (sharing none [roadUser (.animal 2)]).AllPresent ∧
      ¬ (sharing none [roadUser (.animal 2)]).RoundTrips ∧
      (sharing (some [⟨1, [0]⟩]) []).AllPresent ∧
      ¬ (sharing (some [⟨1, [0]⟩]) []).RoundTrips := by
  have hrider := sharing_allPresent none
    (List.forall_mem_singleton.mpr (roadUser_complete (p := .animal 2) (by decide)))
  have hextended := sharing_allPresent (some [⟨1, [0]⟩]) (List.forall_mem_nil _)
  refine ⟨hrider, ?_, hextended, ?_⟩
  · rintro ⟨json, m', hjson, hm', hsame⟩
    obtain ⟨id, hid⟩ := convertJsonToSDSM_of_convertJ3224ToSDSMJSON hjson hrider
    cases hid.symm.trans hm'
    simp [SensorDataSharingMessage.compared, withoutLights_back_iff, sharing, detected, roadUser,
      DetectedObjectData.PropelledByHuman, PropelledInformation.IsHuman] at hsame
  · rintro ⟨json, m', hjson, hm', hsame⟩
    obtain ⟨id, hid⟩ := convertJsonToSDSM_of_convertJ3224ToSDSMJSON hjson hextended
    cases hid.symm.trans hm'
    simp [SensorDataSharingMessage.compared, sharing] at hsame

end V2XHub.Streets
