import V2XHub.Streets.Sdsm

/-!
# The optional fields of a sensor data sharing message

Which optional fields `convertJ3224ToSDSMJSON` reads: the result is `some` exactly for the messages
that have them all.
-/

namespace V2XHub.Streets

/-! ## The fields that are read -/

def DDateTime.Complete (t : DDateTime) : Prop :=
  t.year.isSome ∧ t.month.isSome ∧ t.day.isSome ∧ t.hour.isSome ∧ t.minute.isSome ∧
    t.second.isSome ∧ t.offset.isSome

def DetectedObjectCommonData.Complete (c : DetectedObjectCommonData) : Prop :=
  c.pos.offsetZ.isSome ∧ c.speedZ.isSome ∧ c.speedConfidenceZ.isSome ∧ c.accel4way.isSome ∧
    c.accCfdX.isSome ∧ c.accCfdY.isSome ∧ c.accCfdZ.isSome ∧ c.accCfdYaw.isSome

def AngularVelocityConfidence.Complete (c : AngularVelocityConfidence) : Prop :=
  c.pitchRateConfidence.isSome ∧ c.rollRateConfidence.isSome

def DetectedVehicleData.Complete (v : DetectedVehicleData) : Prop :=
  v.lights.isSome ∧ v.vehAttitude.isSome ∧ v.vehAttitudeConfidence.isSome ∧ v.vehAngVel.isSome ∧
    (∃ c, v.vehAngVelConfidence = some c ∧ c.Complete) ∧ v.size.isSome ∧ v.height.isSome ∧
    (∃ c, v.vehicleSizeConfidence = some c ∧ c.vehicleHeightConfidence.isSome) ∧
    v.vehicleClass.isSome ∧ v.classConf.isSome

def DetectedVRUData.Complete (v : DetectedVRUData) : Prop :=
  v.basicType.isSome ∧ v.propulsion.isSome ∧ v.attachment.isSome ∧ v.radius.isSome

def DetectedObstacleData.Complete (o : DetectedObstacleData) : Prop :=
  o.obstSize.height.isSome ∧ o.obstSizeConfidence.heightConfidence.isSome

def DetectedObjectOptionalData.Complete : DetectedObjectOptionalData → Prop
  | .nothing => True
  | .detVeh v => v.Complete
  | .detVRU v => v.Complete
  | .detObst o => o.Complete

/-- The optional data are asked for before they are read. -/
def DetectedObjectData.Complete (o : DetectedObjectData) : Prop :=
  o.detObjCommon.Complete ∧ ∀ data, o.detObjOptData = some data → data.Complete

def SensorDataSharingMessage.Complete (m : SensorDataSharingMessage) : Prop :=
  m.sDSMTimeStamp.Complete ∧ m.refPos.elevation.isSome ∧ m.refPosElConf.isSome ∧
    ∀ o ∈ m.objects, o.Complete

/-! ## Reading them -/

namespace J3224ToSDSMJson

open V2XHub.Lib Value

theorem isSome_timeStampJson {t : DDateTime} : (timeStampJson t).isSome = true ↔ t.Complete := by
  simp only [timeStampJson, ↓isSome_step_iff]
  simp [DDateTime.Complete, Option.isSome_iff_exists]

theorem isSome_refPosJson {p : Position3D} :
    (refPosJson p).isSome = true ↔ p.elevation.isSome = true := by
  simp only [refPosJson, ↓isSome_step_iff]
  simp [Option.isSome_iff_exists]

theorem isSome_commonDataJson {c : DetectedObjectCommonData} :
    (commonDataJson c).isSome = true ↔ c.Complete := by
  simp only [commonDataJson, ↓isSome_step_iff]
  simp [DetectedObjectCommonData.Complete, Option.isSome_iff_exists]

theorem isSome_angVelConfidenceJson {c : AngularVelocityConfidence} :
    (angVelConfidenceJson c).isSome = true ↔ c.Complete := by
  simp only [angVelConfidenceJson, ↓isSome_step_iff]
  simp [AngularVelocityConfidence.Complete, Option.isSome_iff_exists]

theorem isSome_sizeConfidenceJson {c : VehicleSizeConfidence} :
    (sizeConfidenceJson c).isSome = true ↔ c.vehicleHeightConfidence.isSome = true := by
  simp only [sizeConfidenceJson, ↓isSome_step_iff]
  simp [Option.isSome_iff_exists]

theorem isSome_vehicleJson {v : DetectedVehicleData} :
    (vehicleJson v).isSome = true ↔ v.Complete := by
  simp only [vehicleJson, ↓isSome_step_iff]
  constructor
  · rintro ⟨lights, hlights, attitude, hattitude, attitudeConf, hattitudeConf, angVel, hangVel,
      angVelConf, hangVelConf, json, hjson, size, hsize, height, hheight, sizeConf, hsizeConf,
      json', hjson', vehicleClass, hclass, classConf, hclassConf, -⟩
    have hcomplete := isSome_angVelConfidenceJson.mp (Option.isSome_of_eq_some hjson)
    have hsome := isSome_sizeConfidenceJson.mp (Option.isSome_of_eq_some hjson')
    simp [DetectedVehicleData.Complete, *]
  · rintro ⟨hlights, hattitude, hattitudeConf, hangVel, ⟨angVelConf, hangVelConf, hcomplete⟩,
      hsize, hheight, ⟨sizeConf, hsizeConf, hsome⟩, hclass, hclassConf⟩
    obtain ⟨json, hjson⟩ :=
      Option.isSome_iff_exists.mp (isSome_angVelConfidenceJson.mpr hcomplete)
    obtain ⟨json', hjson'⟩ := Option.isSome_iff_exists.mp (isSome_sizeConfidenceJson.mpr hsome)
    simp only [Option.isSome_iff_exists] at *
    simp [*]

theorem isSome_vruJson {v : DetectedVRUData} : (vruJson v).isSome = true ↔ v.Complete := by
  simp only [vruJson, ↓isSome_step_iff]
  simp [DetectedVRUData.Complete, Option.isSome_iff_exists]

theorem isSome_obstacleJson {o : DetectedObstacleData} :
    (obstacleJson o).isSome = true ↔ o.Complete := by
  simp only [obstacleJson, ↓isSome_step_iff]
  simp [DetectedObstacleData.Complete, Option.isSome_iff_exists]

theorem isSome_optionalDataJson {data : DetectedObjectOptionalData} :
    (optionalDataJson data).isSome = true ↔ data.Complete := by
  cases data with
  | nothing => exact iff_of_true rfl trivial
  | detVeh v =>
      rw [optionalDataJson, Option.isSome_map]
      exact isSome_vehicleJson
  | detVRU v =>
      rw [optionalDataJson, Option.isSome_map]
      exact isSome_vruJson
  | detObst o =>
      rw [optionalDataJson, Option.isSome_map]
      exact isSome_obstacleJson

theorem isSome_optionalData {o : DetectedObjectData} :
    (optionalData o).isSome = true ↔ ∀ data, o.detObjOptData = some data → data.Complete := by
  cases h : o.detObjOptData with
  | none => simp [optionalData, h]
  | some data =>
      rw [optionalData, h]
      simp [isSome_optionalDataJson]

theorem isSome_detectedObjectJson {o : DetectedObjectData} :
    (detectedObjectJson o).isSome = true ↔ o.Complete := by
  simp only [detectedObjectJson, ↓isSome_step_iff]
  rw [DetectedObjectData.Complete, ← isSome_commonDataJson, ← isSome_optionalData]
  simp [Option.isSome_iff_exists]

theorem isSome_objectsJson {os : List DetectedObjectData} :
    (objectsJson os).isSome = true ↔ ∀ o ∈ os, o.Complete := by
  simp only [← isSome_detectedObjectJson]
  cases os with
  | nil => exact iff_of_true rfl (List.forall_mem_nil _)
  | cons o os =>
      rw [objectsJson, Option.isSome_map]
      exact isSome_appendEach

/-- The conversion goes through exactly for complete messages. -/
theorem isSome_convertJ3224ToSDSMJSON {m : SensorDataSharingMessage} :
    (convertJ3224ToSDSMJSON m).isSome = true ↔ m.Complete := by
  simp only [convertJ3224ToSDSMJSON, ↓isSome_step_iff]
  rw [SensorDataSharingMessage.Complete, ← isSome_timeStampJson, ← isSome_refPosJson,
    ← isSome_objectsJson]
  simp [Option.isSome_iff_exists]

end J3224ToSDSMJson

end V2XHub.Streets
