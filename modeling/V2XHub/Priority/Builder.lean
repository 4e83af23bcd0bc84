import V2XHub.Priority.Worker
import V2XHub.Priority.Processor

/-!
# From signal requests to table rows and commands

One J2735 signal request package becomes, in PRS mode, a row of the table (`applyPrsPackage`) and,
in PRG mode, a command for the controller (`buildPrgPackage`). Both first turn the ETA of the
package into times and look up the strategy configured for its lane.
-/

namespace V2XHub.Priority

open RequestStatus

/-! ## PRS mode -/

inductive PrsAction where
  | updated
  | inserted
  | rejected
  | tableFull
  deriving DecidableEq, Repr

structure PrsPackageResult where
  action : PrsAction := .tableFull
  slotIndex : Nat := 0
  overrideTriggered : Bool := false
  deriving DecidableEq, Repr

structure PrsPackageInput where
  vehicleID : List UInt8
  classType : UInt8 := 0
  classLevel : UInt8 := 0
  newSeq : UInt8 := 0
  role : Int := 0
  currentMinuteOfYear : Int := 0
  currentMsInMinute : Int := 0
  nowEpoch : Int := 0
  reserviceClassTime : List UInt32 := List.replicate 10 0
  timeToLiveSec : UInt32 := 0
  estimatedArrivalTime : UInt16 := 0
  estimatedDepartureTime : UInt16 := 0
  prsBusy : Bool := false
  deriving DecidableEq, Repr

namespace PrsPackageInput

/-- `static_cast<uint32_t>(input.nowEpoch)`. -/
def now (input : PrsPackageInput) : UInt32 := UInt32.ofInt input.nowEpoch

/-- `globalTSD` and `globalTED`: from the ETA of the package, or the configured estimates when it
has none. -/
def serviceTimes (input : PrsPackageInput) (pkg : SignalRequestPackage) : UInt32 × UInt32 :=
  match pkg.minute with
  | some minute =>
      let etaOffsetMs := computeEtaOffsetMs minute (pkg.second.getD 0)
        input.currentMinuteOfYear input.currentMsInMinute
      let departOffsetMs := etaOffsetMs + pkg.duration.getD 0
      (input.now + UInt32.ofInt (etaOffsetMs.tdiv 1000),
        input.now + UInt32.ofInt (departOffsetMs.tdiv 1000))
  | none =>
      (input.now + input.estimatedArrivalTime.toUInt32,
        input.now + input.estimatedDepartureTime.toUInt32)

end PrsPackageInput

section

variable (p : PriorityRequestProcessor) (pkg : SignalRequestPackage) (input : PrsPackageInput)

/-- The strategy configured for the package's intersection and inbound lane. -/
def strategyFor : Option UInt8 :=
  p.lookupStrategy pkg.intersectionID pkg.inBoundLane.laneOrNone

/-- The row already holds this request, which makes the package an update of it. Without a strategy
no row does. -/
def holdsRequest (entry : PriorityRequestEntry) : Bool :=
  entry.statusInPRS ≠ idleNotValid && entry.requestID = UInt8.ofInt pkg.requestID &&
    entry.vehicleID = input.vehicleID && entry.vehicleClassType = input.classType &&
    entry.vehicleClassLevel = input.classLevel &&
    strategyFor p pkg = some entry.serviceStrategyNumber

/-- The class was served too recently. -/
def reserviceLocked : Bool :=
  let reservicePeriod := input.reserviceClassTime.getD (classIdx input.classType) 0
  let lastCompleted := p.reserviceLastCompleted input.classType
  -- the difference is unsigned: a clock set back before the last completion gives a long time
  reservicePeriod > 0 && lastCompleted > 0 && input.now - lastCompleted < reservicePeriod

/-- The status a new request is stored with. -/
def storedStatus : RequestStatus :=
  match strategyFor p pkg with
  | none => closedStrategyError
  | some _ => if reserviceLocked p input then reserviceError else readyQueued

/-- The free row after the request was written into it, field by field. What is not written keeps
the row's value: the strategy when there is none for the lane, the inbound value when the access
point is neither lane nor approach, and the CO and SSM members. -/
def storedEntry (entry : PriorityRequestEntry) : PriorityRequestEntry :=
  { entry with
    requestID := UInt8.ofInt pkg.requestID
    vehicleID := input.vehicleID
    vehicleClassType := input.classType
    vehicleClassLevel := input.classLevel
    role := input.role
    inboundPresent := pkg.inBoundLane.present
    inboundValue := pkg.inBoundLane.value?.getD entry.inboundValue
    serviceStrategyNumber := (strategyFor p pkg).getD entry.serviceStrategyNumber
    timeOfServiceDesiredInPRS := (input.serviceTimes pkg).1
    timeOfEstimatedDepartureInPRS := (input.serviceTimes pkg).2
    timeOfMessage := input.now
    timeToLive := input.now + input.timeToLiveSec
    intersectionID := pkg.intersectionID
    sequenceNumber := input.newSeq
    statusInPRS := storedStatus p pkg input }

/-- The row after an update of the request it holds. -/
def updatedEntry (entry : PriorityRequestEntry) : PriorityRequestEntry :=
  { entry with
    timeOfServiceDesiredInPRS := (input.serviceTimes pkg).1
    timeOfEstimatedDepartureInPRS := (input.serviceTimes pkg).2
    sequenceNumber := input.newSeq }

/-- The CO is serving this row for a vehicle of lower priority than the new request's. -/
def overriddenBy (other : PriorityRequestEntry) : Bool :=
  (other.statusInCO = activeProcessing || other.statusInCO = activeAdjustNotNeeded) &&
    (input.classType < other.vehicleClassType ||
      (input.classType = other.vehicleClassType && input.classLevel < other.vehicleClassLevel))

/-- The override loop after an insertion into row `slot` while the PRS is busy. -/
def overrideActive (table : PriorityTable) (slot : Nat) : PriorityTable :=
  table.mapIdx fun i other =>
    if i ≠ slot && overriddenBy input other then { other with statusInPRS := activeOverride }
    else other

def applyPrsPackage (table : PriorityTable) : PriorityTable × PrsPackageResult :=
  match table.rows.findIdx? (holdsRequest p pkg input) with
  | some existing =>
      (table.modify existing (updatedEntry pkg input),
        { action := .updated, slotIndex := existing })
  | none =>
      match table.rows.findIdx? fun entry => entry.statusInPRS = idleNotValid with
      | none => (table, { action := .tableFull })
      | some slot =>
          -- also a refused request takes the row, with its error as status
          let stored := table.modify slot (storedEntry p pkg input)
          if storedStatus p pkg input = readyQueued then
            if input.prsBusy then
              (overrideActive input stored slot,
                { action := .inserted, slotIndex := slot,
                  overrideTriggered := stored.rows.zipIdx.any fun (other, i) =>
                    i ≠ slot && overriddenBy input other })
            else (stored, { action := .inserted, slotIndex := slot })
          else (stored, { action := .rejected, slotIndex := slot })

/-- The plugin applies packages to the processor's own table. -/
def PriorityRequestProcessor.processPrsPackage : PriorityRequestProcessor :=
  { p with table := (applyPrsPackage p pkg input p.table).1 }

/-- **What a package can do to the table**: update the row that holds its request, find the table
full, or be stored in the first idle row when no row holds its request — in which case rows the CO
is serving may be marked for override. -/
theorem applyPrsPackage_cases (table : PriorityTable) :
    (∃ i entry, table.rows[i]? = some entry ∧ holdsRequest p pkg input entry = true ∧
      (applyPrsPackage p pkg input table).1 = table.modify i (updatedEntry pkg input)) ∨
    (applyPrsPackage p pkg input table).1 = table ∨
    (∃ slot entry, table.rows[slot]? = some entry ∧ entry.statusInPRS = idleNotValid ∧
      (∀ other ∈ table.rows, holdsRequest p pkg input other = false) ∧
      ((applyPrsPackage p pkg input table).1 = table.modify slot (storedEntry p pkg input) ∨
        (applyPrsPackage p pkg input table).1 =
          overrideActive input (table.modify slot (storedEntry p pkg input)) slot)) := by
  unfold applyPrsPackage
  split
  next existing hex =>
    obtain ⟨hlt, hholds, -⟩ := List.findIdx?_eq_some_iff_getElem.mp hex
    exact .inl ⟨existing, _, List.getElem?_eq_getElem hlt, hholds, rfl⟩
  next hnone =>
    rw [List.findIdx?_eq_none_iff] at hnone
    split
    · exact .inr (.inl rfl)
    next slot hslot =>
      obtain ⟨hlt, hidle, -⟩ := List.findIdx?_eq_some_iff_getElem.mp hslot
      refine .inr (.inr ⟨slot, _, List.getElem?_eq_getElem hlt, of_decide_eq_true hidle,
        hnone, ?_⟩)
      simp only []
      split_ifs
      · exact .inr rfl
      · exact .inl rfl
      · exact .inl rfl

end

/-! ## PRG mode -/

/-- The objects of the PRS a command is SET on. -/
inductive PrgOid where
  | priorityRequestAbsolute
  | priorityUpdateAbsolute
  | priorityCancel
  | priorityClear
  deriving DecidableEq, Repr

def vehicleIdFieldSize : Nat := 17

/-- The vehicle id in its field of 17 bytes: cut off after 17, padded with zeros on the left. -/
def vehicleIdField (vehicleID : List UInt8) : List UInt8 :=
  let copyLen := min vehicleID.length vehicleIdFieldSize
  List.replicate (vehicleIdFieldSize - copyLen) 0 ++ vehicleID.take copyLen

def be16 (x : UInt16) : List UInt8 := [(x >>> 8).toUInt8, x.toUInt8]

/-- 21 bytes: the payload of a cancel, and the head of a request. -/
def encodePriorityCancel (requestID : UInt8) (vehicleID : List UInt8)
    (classType classLevel strategyNum : UInt8) : List UInt8 :=
  [requestID] ++ vehicleIdField vehicleID ++ [classType, classLevel, strategyNum]

/-- 29 bytes. -/
def encodePriorityRequest (requestID : UInt8) (vehicleID : List UInt8)
    (classType classLevel strategyNum : UInt8) (timeOfService timeOfDepart : UInt16)
    (timeOfRequest : UInt32) : List UInt8 :=
  encodePriorityCancel requestID vehicleID classType classLevel strategyNum ++
    be16 timeOfService ++ be16 timeOfDepart ++ be32 timeOfRequest

def encodePriorityUpdate (requestID : UInt8) (vehicleID : List UInt8)
    (classType classLevel strategyNum : UInt8) (timeOfService timeOfDepart : UInt16)
    (timeOfRequest : UInt32) : List UInt8 :=
  encodePriorityRequest requestID vehicleID classType classLevel strategyNum timeOfService
    timeOfDepart timeOfRequest

def encodePriorityClear (requestID : UInt8) (vehicleID : List UInt8)
    (classType classLevel strategyNum : UInt8) : List UInt8 :=
  encodePriorityCancel requestID vehicleID classType classLevel strategyNum

inductive PrgOutcome where
  | send
  | noStrategy
  | noController
  | invalidEta
  deriving DecidableEq, Repr

/-- Tracker keys are strings; vehicle ids are raw bytes, so the model keeps bytes. -/
abbrev TrackerKey := List UInt8

structure PrgPackageInput where
  vehicleID : List UInt8
  vehicleKey : List UInt8
  classType : UInt8 := 0
  classLevel : UInt8 := 0
  currentMinuteOfYear : Int := 0
  currentMsInMinute : Int := 0
  timeOfRequest : UInt32 := 0
  estimatedArrivalTime : UInt16 := 0
  estimatedDepartureTime : UInt16 := 0
  nowMs : UInt64 := 0
  deriving DecidableEq, Repr

/-- What to send, and the tracker entry to store after a successful SET that is not a cancel. -/
structure PrgCommand where
  encodedPayload : List UInt8
  targetOID : PrgOid
  isCancel : Bool := false
  trackerKey : TrackerKey
  trackerEntry : PrgTrackedRequest
  deriving DecidableEq, Repr

/-- The outcome, with the command when it is `send`. -/
structure PrgPackageResult where
  outcome : PrgOutcome
  signalRequest : SignalRequest
  command : Option PrgCommand := none
  deriving DecidableEq, Repr

/-- `std::to_string`. -/
def toDecimal (z : Int) : List UInt8 :=
  (if z < 0 then [0x2D] else []) ++
    (Nat.toDigits 10 z.natAbs).map fun c => UInt8.ofNat c.toNat

section

variable (p : PriorityRequestProcessor) (pkg : SignalRequestPackage) (input : PrgPackageInput)

/-- `timeOfService` and `timeOfDepart`, in seconds from now; `none` when the ETA is out of the range
1..65535. -/
def serviceOffsets : Option (UInt16 × UInt16) :=
  match pkg.minute with
  | some minute =>
      let etaOffsetMs := computeEtaOffsetMs minute (pkg.second.getD 0)
        input.currentMinuteOfYear input.currentMsInMinute
      let timeOfServiceSec := etaOffsetMs.tdiv 1000
      let timeOfDepartSec := (etaOffsetMs + pkg.duration.getD 0).tdiv 1000
      if timeOfServiceSec < 1 ∨ timeOfServiceSec > 65535 ∨ timeOfDepartSec < 1 ∨
          timeOfDepartSec > 65535 then none
      else some (UInt16.ofInt timeOfServiceSec, UInt16.ofInt timeOfDepartSec)
  | none => some (input.estimatedArrivalTime, input.estimatedDepartureTime)

/-- `vehicleKey|requestID|intersectionID`. -/
def trackerKey : TrackerKey :=
  input.vehicleKey ++ [0x7C] ++ toDecimal (UInt8.ofInt pkg.requestID).toNat ++ [0x7C] ++
    toDecimal pkg.intersectionID

/-- The request as the SSM will report it. -/
def signalRequestOf (offsets : Option (UInt16 × UInt16)) (rejected : Bool) : SignalRequest where
  requestID := UInt8.ofInt pkg.requestID
  intersectionID := pkg.intersectionID
  requestType := pkg.requestType
  timeOfService := (offsets.getD (0, 0)).1
  timeOfDepart := (offsets.getD (0, 0)).2
  rejected := rejected
  inboundPresent := pkg.inBoundLane.present
  inboundValue := pkg.inBoundLane.value?.getD 0
  etaMinute := pkg.minute.getD 0
  etaSecond := pkg.second.getD 0
  duration := pkg.duration.getD 0

/-- Which command a package becomes. A cancellation is a cancel; an explicit update is an update as
long as the key is tracked; anything else is an update only of a request in state `sent`. -/
def targetOid (tracked : Option PrgTrackedRequest) : PrgOid :=
  match pkg.requestType with
  | .priorityCancellation => .priorityCancel
  | .priorityRequestUpdate =>
      match tracked with
      | none => .priorityRequestAbsolute
      | some _ => .priorityUpdateAbsolute
  | _ =>
      match tracked with
      | some request =>
          if request.state = .sent then .priorityUpdateAbsolute else .priorityRequestAbsolute
      | none => .priorityRequestAbsolute

def buildPrgPackage (trackedRequests : AList fun _ : TrackerKey => PrgTrackedRequest)
    (configuredIntersectionIDs : List Int) : PrgPackageResult :=
  let requestID := UInt8.ofInt pkg.requestID
  -- the ETA is checked for every type of request, cancellations included
  match serviceOffsets pkg input with
  | none => { outcome := .invalidEta, signalRequest := signalRequestOf pkg none true }
  | some (timeOfService, timeOfDepart) =>
      let offsets := some (timeOfService, timeOfDepart)
      match strategyFor p pkg with
      | none => { outcome := .noStrategy, signalRequest := signalRequestOf pkg offsets true }
      | some strategy =>
          if pkg.intersectionID ∉ configuredIntersectionIDs then
            { outcome := .noController, signalRequest := signalRequestOf pkg offsets true }
          else
            let key := trackerKey pkg input
            let oid := targetOid pkg (trackedRequests.lookup key)
            let encodedPayload :=
              match oid with
              | .priorityCancel =>
                  encodePriorityCancel requestID input.vehicleID input.classType input.classLevel
                    strategy
              | .priorityUpdateAbsolute =>
                  encodePriorityUpdate requestID input.vehicleID input.classType input.classLevel
                    strategy timeOfService timeOfDepart input.timeOfRequest
              | _ =>
                  encodePriorityRequest requestID input.vehicleID input.classType input.classLevel
                    strategy timeOfService timeOfDepart input.timeOfRequest
            { outcome := .send
              signalRequest := signalRequestOf pkg offsets false
              command := some
                { encodedPayload := encodedPayload
                  targetOID := oid
                  isCancel := pkg.requestType = .priorityCancellation
                  trackerKey := key
                  trackerEntry :=
                    { requestID := requestID
                      intersectionID := pkg.intersectionID
                      vehicleID := input.vehicleID
                      classType := input.classType
                      classLevel := input.classLevel
                      strategyNumber := strategy
                      sentTimeMs := input.nowMs } } }

/-- The package passes every check: its ETA is in range, its lane has a strategy, and its
intersection has a controller. -/
def accepted (configuredIntersectionIDs : List Int) : Bool :=
  (serviceOffsets pkg input).isSome && (strategyFor p pkg).isSome &&
    configuredIntersectionIDs.contains pkg.intersectionID

/-- **What a package becomes**: a command exactly when it passes the checks, on the object chosen by
its type and the tracker. -/
theorem buildPrgPackage_command (trackedRequests : AList fun _ : TrackerKey => PrgTrackedRequest)
    (configuredIntersectionIDs : List Int) {command : PrgCommand}
    (h : (buildPrgPackage p pkg input trackedRequests configuredIntersectionIDs).command =
      some command) :
    accepted p pkg input configuredIntersectionIDs = true ∧
      command.trackerKey = trackerKey pkg input ∧
      command.targetOID = targetOid pkg (trackedRequests.lookup (trackerKey pkg input)) ∧
      command.isCancel = decide (pkg.requestType = .priorityCancellation) ∧
      command.trackerEntry.state = .sent := by
  unfold buildPrgPackage at h
  split at h
  · cases h
  next hoffsets =>
    split at h
    · cases h
    next hstrategy =>
      split_ifs at h with hconfigured
      obtain rfl := Option.some.inj h
      refine ⟨?_, rfl, rfl, rfl, rfl⟩
      simp [accepted, hoffsets, hstrategy, hconfigured]

end

end V2XHub.Priority
