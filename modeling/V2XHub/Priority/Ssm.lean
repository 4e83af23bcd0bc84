import V2XHub.Priority.Worker
import V2XHub.Priority.Processor

/-!
# Signal status messages from the table

`buildSsmFromTable` reports the table to the vehicles. A row is reported only a few times per
status: it carries a counter that restarts when its effective status changes, so building a message
also writes to the table.
-/

namespace V2XHub.Priority

open RequestStatus

/-! ## The message -/

inductive PrioritizationResponseStatus where
  | unknown
  | requested
  | processing
  | watchOtherTraffic
  | granted
  | rejected
  | maxPresence
  | reserviceLocked
  deriving DecidableEq, Repr

/-- `VehicleID_t`, a tagged union. -/
inductive VehicleID where
  | nothing
  | entityID (bytes : List UInt8)
  | stationID (id : Nat)
  deriving DecidableEq, Repr

structure SignalStatusPackage where
  requesterId : VehicleID
  request : UInt8
  requesterSequenceNumber : UInt8
  role : Int
  inboundOn : IntersectionAccessPoint
  minute : Option Int
  second : Option Int
  duration : Option Int
  status : PrioritizationResponseStatus
  deriving DecidableEq, Repr

structure SignalStatus where
  id : Int
  sequenceNumber : UInt8
  sigStatus : List SignalStatusPackage
  deriving DecidableEq, Repr

structure SignalStatusMessage where
  timeStamp : Int
  second : Int
  sequenceNumber : UInt8
  status : List SignalStatus
  deriving DecidableEq, Repr

/-- `sizeof(StationID_t)`, an `unsigned long`. -/
def sizeofStationID : Nat := 8

/-- `memcpy` of the bytes over an integer, least significant first. -/
def ofLittleEndian : List UInt8 → Nat
  | [] => 0
  | b :: bs => b.toNat + 256 * ofLittleEndian bs

def requesterVehicleID (vehicleID : List UInt8) : VehicleID :=
  if vehicleID.length = sizeofStationID then .stationID (ofLittleEndian vehicleID)
  else if vehicleID ≠ [] then .entityID vehicleID
  else .nothing

/-- The union rebuilt from the tag and value a row keeps. -/
def inboundOn (inboundPresent : UInt8) (inboundValue : Int) : IntersectionAccessPoint :=
  if inboundPresent = 1 then .lane inboundValue
  else if inboundPresent = 2 then .approach inboundValue
  else if inboundPresent = 3 then .connection 0
  else .nothing

def mapNTCIPstatusToSSM : RequestStatus → PrioritizationResponseStatus
  | readyQueued => .requested
  | readyOverridden | activeOverride => .processing
  | activeProcessing | activeAdjustNotNeeded | activeNotOverridden | closedCompleted => .granted
  | activeCancel | closedCanceled => .watchOtherTraffic
  | closedTimerError | closedStrategyError | closedFlash => .rejected
  | closedTimeToLiveError => .maxPresence
  | reserviceError => .reserviceLocked
  | idleNotValid => .unknown

namespace PriorityRequestEntry

/-- The CO state when active, otherwise the PRS state. -/
def effectiveStatus (e : PriorityRequestEntry) : RequestStatus :=
  if e.statusInCO.isActiveX then e.statusInCO else e.statusInPRS

def statusPackage (e : PriorityRequestEntry) : SignalStatusPackage where
  requesterId := requesterVehicleID e.vehicleID
  request := e.requestID
  requesterSequenceNumber := e.sequenceNumber
  role := e.role
  inboundOn := inboundOn e.inboundPresent e.inboundValue
  minute :=
    if e.timeOfServiceDesiredInPRS > 0 then
      some (gmtime_r e.timeOfServiceDesiredInPRS.toNat).minuteOfTheYear
    else none
  second :=
    if e.timeOfServiceDesiredInPRS > 0 then
      some ((gmtime_r e.timeOfServiceDesiredInPRS.toNat).tm_sec * 1000)
    else none
  duration :=
    -- the product is taken in 32 bits
    if e.timeOfEstimatedDepartureInPRS > e.timeOfServiceDesiredInPRS then
      some ((e.timeOfEstimatedDepartureInPRS - e.timeOfServiceDesiredInPRS) * 1000).toNat
    else none
  status := mapNTCIPstatusToSSM e.effectiveStatus

/-- The numbers of `seqKey`, in order. The text separates them by commas and ends with a
semicolon. -/
def seqKey (e : PriorityRequestEntry) : List Int :=
  [e.requestID.toNat, e.effectiveStatus.toByte.toNat, e.sequenceNumber.toNat,
    e.timeOfServiceDesiredInPRS.toNat, e.timeOfEstimatedDepartureInPRS.toNat,
    e.inboundPresent.toNat, e.inboundValue]

/-! ## The broadcast limiter -/

/-- A change of the effective status restarts the counter. -/
def refresh (e : PriorityRequestEntry) : PriorityRequestEntry :=
  if e.effectiveStatus ≠ e.ssmLastStatus then
    { e with ssmBroadcastCount := 0, ssmLastStatus := e.effectiveStatus }
  else e

/-- The row is due to be reported. -/
def due (maxBroadcastsPerStatus : UInt8) (e : PriorityRequestEntry) : Bool :=
  e.statusInPRS ≠ idleNotValid && e.refresh.ssmBroadcastCount < maxBroadcastsPerStatus

/-- The first loop on one row. -/
def charge (maxBroadcastsPerStatus : UInt8) (e : PriorityRequestEntry) : PriorityRequestEntry :=
  if e.statusInPRS = idleNotValid then e
  else if e.due maxBroadcastsPerStatus then
    { e.refresh with ssmBroadcastCount := e.refresh.ssmBroadcastCount + 1 }
  else e.refresh

end PriorityRequestEntry

/-! ## Building the message -/

/-- `byIntersection[entry.intersectionID].push_back(&entry)`, the keys ascending. -/
def addByIntersection (groups : List (Int × List PriorityRequestEntry))
    (entry : PriorityRequestEntry) : List (Int × List PriorityRequestEntry) :=
  match groups with
  | [] => [(entry.intersectionID, [entry])]
  | (intID, entries) :: rest =>
      if entry.intersectionID < intID then (entry.intersectionID, [entry]) :: groups
      else if entry.intersectionID = intID then (intID, entries ++ [entry]) :: rest
      else (intID, entries) :: addByIntersection rest entry

structure SsmBroadcastState where
  ssmSequenceCounter : UInt8 := 0
  signalStatusSeqByIntersection : AList fun _ : Int => UInt8 := ∅
  lastSignalStatusKey : AList fun _ : Int => List (List Int) := ∅

namespace SsmBroadcastState

/-- The sequence number of an intersection's status; 0 before the first. -/
def signalStatusSeq (st : SsmBroadcastState) (intID : Int) : UInt8 :=
  (st.signalStatusSeqByIntersection.lookup intID).getD 0

/-- The sequence number of an intersection advances when the contents of its status changed. -/
def advance (st : SsmBroadcastState) (intID : Int) (currentSeqKey : List (List Int)) :
    SsmBroadcastState :=
  if st.lastSignalStatusKey.lookup intID = some currentSeqKey then st
  else
    { st with
      signalStatusSeqByIntersection :=
        st.signalStatusSeqByIntersection.insert intID (st.signalStatusSeq intID + 1)
      lastSignalStatusKey := st.lastSignalStatusKey.insert intID currentSeqKey }

/-- The loop over the intersections. -/
def signalStatuses (st : SsmBroadcastState) :
    List (Int × List PriorityRequestEntry) → SsmBroadcastState × List SignalStatus
  | [] => (st, [])
  | (intID, entries) :: rest =>
      let st := st.advance intID (entries.map PriorityRequestEntry.seqKey)
      let signalStatus : SignalStatus :=
        { id := intID
          sequenceNumber := st.signalStatusSeq intID
          sigStatus := entries.map PriorityRequestEntry.statusPackage }
      let (st, statuses) := st.signalStatuses rest
      (st, signalStatus :: statuses)

end SsmBroadcastState

/-- The table after the limiter counted this broadcast, the sequencing state, and the message;
none when no row is due. -/
def buildSsmFromTable (table : PriorityTable) (maxBroadcastsPerStatus : UInt8) (nowEpoch : Int)
    (ssmState : SsmBroadcastState) :
    PriorityTable × SsmBroadcastState × Option SignalStatusMessage :=
  let charged := table.map (PriorityRequestEntry.charge maxBroadcastsPerStatus)
  let byIntersection :=
    (table.rows.filter fun entry => entry.due maxBroadcastsPerStatus).foldl addByIntersection []
  if byIntersection.isEmpty then (charged, ssmState, none)
  else
    let utcNow := gmtime_r nowEpoch
    let ssmState :=
      { ssmState with ssmSequenceCounter := ssmState.ssmSequenceCounter + 1 }
    let (ssmState', statuses) := ssmState.signalStatuses byIntersection
    (charged, ssmState',
      some { timeStamp := utcNow.minuteOfTheYear
             second := utcNow.tm_sec * 1000
             sequenceNumber := ssmState.ssmSequenceCounter
             status := statuses })

/-- All a broadcast does to the table is count it. -/
@[simp] theorem buildSsmFromTable_table (table : PriorityTable) (maxBroadcastsPerStatus : UInt8)
    (nowEpoch : Int) (ssmState : SsmBroadcastState) :
    (buildSsmFromTable table maxBroadcastsPerStatus nowEpoch ssmState).1 =
      table.map (PriorityRequestEntry.charge maxBroadcastsPerStatus) := by
  simp only [buildSsmFromTable]
  split <;> rfl

end V2XHub.Priority
