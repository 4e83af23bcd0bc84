import V2XHub.Streets.MapJson
import V2XHub.Streets.SdsmFields
import V2XHub.Streets.SrmJson

/-!
# Optional fields in messages from the air

A message from the air may leave out every field that the standard marks as optional. The converters
ask for some of them and read others as they are. For each converter this is the condition on the
message under which it gets by without reading a field that is absent.
-/

namespace V2XHub.Streets

open V2XHub.Lib

/-! ## Signal requests -/

/-- Where there are requests, the requestor has a type, a position and a temporary id. -/
def SignalRequestMessage.Complete (srm : SignalRequestMessage) : Prop :=
  ∀ package ∈ srm.requests.getD [], srm.requestor.role.isSome ∧
    (∃ id, srm.requestor.id = .entityID id) ∧ srm.requestor.position.isSome

namespace J2735ToSRMJson

theorem isSome_vehicleValue {id : VehicleID} :
    (vehicleValue id).isSome = true ↔ ∃ temporary, id = .entityID temporary := by
  cases id <;> simp [vehicleValue]

theorem isSome_requestJson {srm : SignalRequestMessage} {package : SignalRequestPackage} :
    (requestJson srm package).isSome = true ↔ srm.requestor.role.isSome ∧
      (∃ id, srm.requestor.id = .entityID id) ∧ srm.requestor.position.isSome := by
  simp only [requestJson, ↓isSome_step_iff]
  rw [← isSome_vehicleValue]
  simp [Option.isSome_iff_exists]

theorem isSome_srmJson {srm : SignalRequestMessage} {package : SignalRequestPackage} :
    (srmJson srm package).isSome = true ↔ (requestJson srm package).isSome = true := by
  simp only [srmJson, ↓isSome_step_iff]
  simp [Option.isSome_iff_exists]

theorem isSome_toSRMJsonV {jsonV : List Value} {srm : SignalRequestMessage} :
    (toSRMJsonV jsonV srm).isSome = true ↔ srm.Complete := by
  unfold toSRMJsonV SignalRequestMessage.Complete
  cases srm.requests with
  | none => exact iff_of_true rfl (List.forall_mem_nil _)
  | some requests =>
      rw [Option.isSome_map, isSome_mapM]
      simp only [isSome_srmJson, isSome_requestJson, Option.getD_some]

end J2735ToSRMJson

/-! ## MAP messages -/

def IntersectionGeometry.Complete (intersection : IntersectionGeometry) : Prop :=
  intersection.laneWidth.isSome ∧ ∀ lane ∈ intersection.laneSet,
    ∀ connect ∈ lane.connectsTo.getD [], connect.signalGroup.isSome

def MapData.Complete (mapMsg : MapData) : Prop :=
  mapMsg.layerID.isSome ∧
    ∀ intersection ∈ mapMsg.intersections.getD [], intersection.Complete

namespace J2735MapToJson

theorem isSome_connJson {connect : Connection} :
    (connJson connect).isSome = true ↔ connect.signalGroup.isSome = true := by
  simp only [connJson, ↓isSome_step_iff]
  simp [Option.isSome_iff_exists]

theorem isSome_connectsTo {lane : GenericLane} :
    (connectsTo lane).isSome = true ↔
      ∀ connect ∈ lane.connectsTo.getD [], connect.signalGroup.isSome := by
  cases h : lane.connectsTo with
  | none => simp [connectsTo, h]
  | some list =>
      simp only [connectsTo, convertConnectsToJSON, h, Option.isSome_map, Option.getD_some]
      rw [Value.isSome_appendEach]
      simp only [isSome_connJson]

theorem isSome_laneJson {lane : GenericLane} :
    (laneJson lane).isSome = true ↔ (connectsTo lane).isSome = true := by
  simp only [laneJson, ↓isSome_step_iff]
  simp [Option.isSome_iff_exists]

theorem isSome_intersectionJson {intersection : IntersectionGeometry} :
    (intersectionJson intersection).isSome = true ↔ intersection.Complete := by
  have hlanes : (convertLanesetToJSON intersection .null).isSome = true ↔
      ∀ lane ∈ intersection.laneSet, ∀ connect ∈ lane.connectsTo.getD [],
        connect.signalGroup.isSome := by
    unfold convertLanesetToJSON
    rw [Value.isSome_appendEach]
    simp only [isSome_laneJson, isSome_connectsTo]
  simp only [intersectionJson, ↓isSome_step_iff]
  rw [IntersectionGeometry.Complete, ← hlanes]
  simp [Option.isSome_iff_exists]

theorem isSome_intersectionsJson {list : List IntersectionGeometry} :
    (intersectionsJson list).isSome = true ↔
      ∀ intersection ∈ list, intersection.Complete := by
  apply isSome_foldlM
  intro json intersection
  rw [isSome_step_iff, ← isSome_intersectionJson]
  simp [Option.isSome_iff_exists]

theorem isSome_convertJ2735MAPToMapJSON {timestamp : Int} {mapMsg : MapData} :
    (convertJ2735MAPToMapJSON timestamp mapMsg).isSome = true ↔ mapMsg.Complete := by
  have hlist : (intersections mapMsg).isSome = true ↔
      ∀ intersection ∈ mapMsg.intersections.getD [], intersection.Complete := by
    cases h : mapMsg.intersections with
    | none => simp [intersections, h]
    | some list =>
        simp only [intersections, h, Option.isSome_map, Option.getD_some]
        exact isSome_intersectionsJson
  simp only [convertJ2735MAPToMapJSON, ↓isSome_step_iff]
  rw [MapData.Complete, ← hlist]
  simp [Option.isSome_iff_exists]

end J2735MapToJson

/-! ## The converters together -/

/-- Each converter gets by without an absent field exactly for the complete messages. -/
theorem converters_isSome_iff (sdsm : SensorDataSharingMessage) (jsonV : List Value)
    (srm : SignalRequestMessage) (timestamp : Int) (mapMsg : MapData) :
    ((J3224ToSDSMJson.convertJ3224ToSDSMJSON sdsm).isSome = true ↔ sdsm.Complete) ∧
      ((J2735ToSRMJson.toSRMJsonV jsonV srm).isSome = true ↔ srm.Complete) ∧
      ((J2735MapToJson.convertJ2735MAPToMapJSON timestamp mapMsg).isSome = true ↔
        mapMsg.Complete) :=
  ⟨J3224ToSDSMJson.isSome_convertJ3224ToSDSMJSON, J2735ToSRMJson.isSome_toSRMJsonV,
    J2735MapToJson.isSome_convertJ2735MAPToMapJSON⟩

/-- A detected object with no optional field. -/
def bareObject : DetectedObjectData where
  detObjCommon :=
    { objType := 1, objTypeCfd := 65, objectID := 1200, measurementTime := 500
      timeConfidence := 8
      pos := ⟨1000, 750, none⟩
      posConfidence := ⟨2, 3⟩
      speed := 2100, speedConfidence := 3
      speedZ := none, speedConfidenceZ := none
      heading := 15000, headingConf := 5
      accel4way := none
      accCfdX := none, accCfdY := none, accCfdZ := none, accCfdYaw := none }
  detObjOptData := none

/-- None of the converters gets by with a message that leaves out what it may. -/
theorem converters_read_absent :
    J3224ToSDSMJson.convertJ3224ToSDSMJSON
        { msgCnt := 15
          sourceID := [1, 2, 3, 4]
          equipmentType := 1
          sDSMTimeStamp := ⟨none, none, none, none, none, some 10000, none⟩
          refPos := ⟨400000000, 800000000, none, none⟩
          refPosXYConf := ⟨250, 200, 20000⟩
          refPosElConf := none
          objects := [bareObject] } = none ∧
      J2735ToSRMJson.toSRMJsonV []
        { second := 12
          requests := some [{ intersectionID := 7, requestType := 1, inBoundLane := .lane 1 }]
          requestor := { id := .entityID ⟨[1, 2, 3, 4], rfl⟩ } } = none ∧
      J2735MapToJson.convertJ2735MAPToMapJSON 0
        { msgIssueRevision := 1, layerType := none, layerID := none, intersections := none } =
        none :=
  ⟨rfl, rfl, rfl⟩

end V2XHub.Streets
