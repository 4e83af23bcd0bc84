import V2XHub.Priority.Cancellation
import V2XHub.Priority.Prg
import V2XHub.Priority.SsmRequestor

/-!
# The SRM handler

`HandleSRM` drops an SRM whose sequence number is the last one it took from the vehicle: the same
message reaches the plugin over several intersections near the vehicle. In PRS mode the last number
is kept in a map of its own, in PRG mode with the requests of the vehicle. The number is optional in
an SRM, and a missing one is read as 0.

What it drops is the subject of `Deduplication`.
-/

namespace V2XHub.Priority

open Lib

/-! ## The message -/

inductive PluginRole where
  | PRS
  | PRG
  deriving DecidableEq, Repr

/-- The members of a `SignalRequestMessage` that the handler reads. A missing list of requests is
handled as an empty one. -/
structure SignalRequestMessage where
  sequenceNumber : Option Int := none
  requests : List SignalRequestPackage := []
  requestorId : VehicleID := .nothing
  requestorRole : Option Int := none
  deriving DecidableEq, Repr

/-- The bytes of an integer in memory, least significant first. -/
def toLittleEndian : Nat → Nat → List UInt8
  | 0, _ => []
  | n + 1, value => UInt8.ofNat value :: toLittleEndian n (value / 256)

def extractVehicleID : VehicleID → List UInt8
  | .entityID bytes => bytes
  | .stationID id => toLittleEndian sizeofStationID id
  | .nothing => []

/-- NTCIP 1211 class type and level of a `BasicVehicleRole`. -/
def mapVehicleClass (role : Int) : UInt8 × UInt8 :=
  match role with
  | 6 => (1, 1)
  | 12 => (1, 2)
  | 13 => (1, 3)
  | 14 => (1, 4)
  | 5 => (1, 5)
  | 7 => (1, 6)
  | 11 => (1, 7)
  | 1 => (3, 1)
  | 16 => (3, 2)
  | 15 => (5, 1)
  | 4 => (5, 2)
  | 3 => (7, 1)
  | 2 => (7, 2)
  | 9 => (7, 3)
  | 17 => (7, 4)
  | 18 => (7, 5)
  | _ => (10, 1)

namespace SignalRequestMessage

def vehicleKey (srm : SignalRequestMessage) : List UInt8 := extractVehicleID srm.requestorId

def role (srm : SignalRequestMessage) : Int := srm.requestorRole.getD 0

/-- `newSeq`: the number in a byte, 0 when there is none. -/
def newSeq (srm : SignalRequestMessage) : UInt8 :=
  match srm.sequenceNumber with
  | some n => UInt8.ofInt n
  | none => 0

end SignalRequestMessage

/-! ## The handler -/

/-- The members of the plugin that the handler reads and writes; those it shares with the processing
of packages in PRG mode are `PrgState`. -/
structure PriorityPlugin extends PrgState where
  pluginRole : PluginRole := .PRS
  prsLastSeqByVehicle : AList fun _ : List UInt8 => UInt8 := ∅
  requestorStates : AList fun _ : List UInt8 => RequestorState := ∅
  ssmState : SsmBroadcastState := {}
  reserviceClassTime : List UInt32 := List.replicate 10 0
  estimatedArrivalTime : UInt16 := 1
  estimatedDepartureTime : UInt16 := 1
  maxSsmBroadcastsPerStatus : UInt8 := 2
  prsBusy : Bool := false

/-- What the world contributes while one SRM is handled: the clock at each reading, and the outcome
of each SET. -/
structure SrmWorld where
  nowEpoch : Int := 0
  sweepMs : UInt64 := 0
  inputMs : UInt64 := 0
  ssmMs : Nat → UInt64 := fun _ => 0
  clearOk : TrackerKey → Bool := fun _ => true
  setOk : Nat → Bool := fun _ => true

inductive SrmOutcome where
  | skipped
  | discarded
  /-- with the messages broadcast in answer -/
  | processed (ssms : List SignalStatusMessage)
  deriving DecidableEq, Repr

namespace PriorityPlugin

variable (s : PriorityPlugin) (srm : SignalRequestMessage) (world : SrmWorld)

def handlePrsSRM : PriorityPlugin × SrmOutcome :=
  let (classType, classLevel) := mapVehicleClass srm.role
  let (currentMinuteOfYear, currentMsInMinute) := computeMinuteAndMsOfYear world.nowEpoch
  let input : PrsPackageInput :=
    { vehicleID := srm.vehicleKey
      classType := classType
      classLevel := classLevel
      newSeq := srm.newSeq
      role := srm.role
      currentMinuteOfYear := currentMinuteOfYear
      currentMsInMinute := currentMsInMinute
      nowEpoch := world.nowEpoch
      reserviceClassTime := s.reserviceClassTime
      timeToLiveSec := s.timeToLiveSec
      estimatedArrivalTime := s.estimatedArrivalTime
      estimatedDepartureTime := s.estimatedDepartureTime
      prsBusy := s.prsBusy }
  let prs := handleSrm ⟨s.processor, s.prsLastSeqByVehicle⟩ srm.vehicleKey input srm.requests
  ({ s with processor := prs.processor, prsLastSeqByVehicle := prs.prsLastSeqByVehicle },
    if s.prsLastSeqByVehicle.lookup srm.vehicleKey = some srm.newSeq then .discarded
    else .processed [])

/-- The loop over the packages, and what it notes of each for the SSM. -/
def processPrgPackages (input : PrgPackageInput) : PrgState × List SignalRequest :=
  srm.requests.zipIdx.foldl
    (fun (prg, requests) (pkg, i) =>
      let (prg, signalRequest) := prg.processPrgPackage pkg input (world.setOk i)
      (prg, requests ++ [signalRequest]))
    (s.sweepStaleTrackedRequests world.sweepMs world.clearOk, [])

/-- The SSM goes out as often as the limit says, each time built anew. -/
def broadcastSSMs (state : RequestorState) : SsmBroadcastState × List SignalStatusMessage :=
  (List.range s.maxSsmBroadcastsPerStatus.toNat).foldl
    (fun (ssmState, ssms) i =>
      let (ssmState, ssm) := buildSsmFromRequestor state (world.ssmMs i) s.estimatedArrivalTime
        s.estimatedDepartureTime ssmState
      (ssmState, ssms ++ ssm.toList))
    (s.ssmState, [])

def handlePrgSRM : PriorityPlugin × SrmOutcome :=
  if (s.requestorStates.lookup srm.vehicleKey).map (·.sequenceNumber) = some srm.newSeq then
    (s, .discarded)
  else
    let (classType, classLevel) := mapVehicleClass srm.role
    let (currentMinuteOfYear, currentMsInMinute) := computeMinuteAndMsOfYear world.nowEpoch
    let timeOfRequest := UInt32.ofInt world.nowEpoch
    let input : PrgPackageInput :=
      { vehicleID := srm.vehicleKey
        vehicleKey := srm.vehicleKey
        classType := classType
        classLevel := classLevel
        currentMinuteOfYear := currentMinuteOfYear
        currentMsInMinute := currentMsInMinute
        timeOfRequest := timeOfRequest
        estimatedArrivalTime := s.estimatedArrivalTime
        estimatedDepartureTime := s.estimatedDepartureTime
        nowMs := world.inputMs }
    let (prg, requests) := s.processPrgPackages srm world input
    let state : RequestorState :=
      { vehicleID := srm.vehicleKey
        classType := classType
        sequenceNumber := srm.newSeq
        timeOfRequest := timeOfRequest
        requests := requests
        role := srm.role }
    let (ssmState, ssms) := s.broadcastSSMs world state
    ({ s with
        toPrgState := prg
        requestorStates := s.requestorStates.insert srm.vehicleKey state
        ssmState := ssmState },
      .processed ssms)

/-- `HandleSRM`, for an SRM that was decoded. -/
def handleSRM : PriorityPlugin × SrmOutcome :=
  if srm.requests.isEmpty then (s, .skipped)
  else
    match s.pluginRole with
    | .PRS => s.handlePrsSRM srm world
    | .PRG => s.handlePrgSRM srm world

/-- The number last taken from a vehicle, in the role's own map. -/
def lastSeq (vehicleKey : List UInt8) : Option UInt8 :=
  match s.pluginRole with
  | .PRS => s.prsLastSeqByVehicle.lookup vehicleKey
  | .PRG => (s.requestorStates.lookup vehicleKey).map (·.sequenceNumber)

end PriorityPlugin

end V2XHub.Priority
