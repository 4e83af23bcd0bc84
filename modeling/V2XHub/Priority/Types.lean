import Mathlib.Data.List.AList

/-!
# Data model of the priority plugin

The plugin serves vehicles that ask a signal controller (the *CO*) for priority, following NTCIP
1211. As *PRS* it keeps a table of ten requests and negotiates it with the controller; as *PRG* it
forwards each request as a command of its own.

Machine integers keep their widths: the tables are encoded byte by byte and times wrap. `long` and
`time_t` are `Int`.
-/

namespace V2XHub.Priority

def maxServiceRequests : Nat := 10

/-! ## Request status -/

/-- NTCIP 1211 request status, in the PRS and in the CO. -/
inductive RequestStatus where
  | idleNotValid
  | readyQueued
  | readyOverridden
  | activeProcessing
  | activeCancel
  | activeOverride
  | activeNotOverridden
  | closedCanceled
  | reserviceError
  | closedTimeToLiveError
  | closedTimerError
  | closedStrategyError
  | closedCompleted
  | activeAdjustNotNeeded
  | closedFlash
  deriving DecidableEq, Repr

namespace RequestStatus

/-- The value of the enumerator, as it travels on the wire. -/
def toByte : RequestStatus → UInt8
  | idleNotValid => 1
  | readyQueued => 2
  | readyOverridden => 3
  | activeProcessing => 4
  | activeCancel => 5
  | activeOverride => 6
  | activeNotOverridden => 7
  | closedCanceled => 8
  | reserviceError => 9
  | closedTimeToLiveError => 10
  | closedTimerError => 11
  | closedStrategyError => 12
  | closedCompleted => 13
  | activeAdjustNotNeeded => 14
  | closedFlash => 15

/-- A received status byte; one outside 1..15 is read as `idleNotValid`. -/
def ofByte (b : UInt8) : RequestStatus :=
  match b.toNat with
  | 2 => readyQueued
  | 3 => readyOverridden
  | 4 => activeProcessing
  | 5 => activeCancel
  | 6 => activeOverride
  | 7 => activeNotOverridden
  | 8 => closedCanceled
  | 9 => reserviceError
  | 10 => closedTimeToLiveError
  | 11 => closedTimerError
  | 12 => closedStrategyError
  | 13 => closedCompleted
  | 14 => activeAdjustNotNeeded
  | 15 => closedFlash
  | _ => idleNotValid

@[simp] theorem ofByte_toByte (s : RequestStatus) : ofByte s.toByte = s := by
  cases s <;> rfl

def isReadyX (s : RequestStatus) : Bool :=
  s = readyQueued || s = readyOverridden

def isActiveX (s : RequestStatus) : Bool :=
  s = activeProcessing || s = activeCancel || s = activeOverride || s = activeNotOverridden ||
    s = activeAdjustNotNeeded

def isClosedX (s : RequestStatus) : Bool :=
  s = closedCanceled || s = closedTimeToLiveError || s = closedTimerError ||
    s = closedStrategyError || s = closedCompleted || s = closedFlash

/-- The states only the CO may report: the PRS tracks them and must not echo them back. -/
def isCoOwned (s : RequestStatus) : Bool :=
  s = activeProcessing || s = activeCancel || s = activeNotOverridden || s = activeAdjustNotNeeded

/-- Ready and closed states belong to the PRS. -/
theorem prsOwned_of_readyOrClosed {s : RequestStatus}
    (h : s.isReadyX = true ∨ s.isClosedX = true) :
    s ≠ idleNotValid ∧ s.isCoOwned = false := by
  cases s <;> revert h <;> decide

/-- Of the states a request can have in the PRS, two are neither ready nor closed. -/
theorem readyOrClosed_iff {s : RequestStatus} (hopen : s ≠ idleNotValid)
    (hco : s.isCoOwned = false) :
    (s.isReadyX || s.isClosedX) = true ↔ s ≠ reserviceError ∧ s ≠ activeOverride := by
  cases s <;> revert hopen hco <;> decide

end RequestStatus

/-! ## The priority request table -/

/-- One row of the PRS `priorityRequestTable`. -/
structure PriorityRequestEntry where
  requestID : UInt8 := 0
  vehicleID : List UInt8 := []
  vehicleClassType : UInt8 := 10
  vehicleClassLevel : UInt8 := 1
  serviceStrategyNumber : UInt8 := 0
  timeOfServiceDesiredInPRS : UInt32 := 0
  timeOfEstimatedDepartureInPRS : UInt32 := 0
  timeOfMessage : UInt32 := 0
  timeToLive : UInt32 := 0
  statusInPRS : RequestStatus := .idleNotValid
  statusInCO : RequestStatus := .idleNotValid
  intersectionID : Int := 0
  sequenceNumber : UInt8 := 0
  role : Int := 0
  ssmBroadcastCount : UInt8 := 0
  ssmLastStatus : RequestStatus := .idleNotValid
  inboundPresent : UInt8 := 0
  inboundValue : Int := 0
  deriving DecidableEq, Repr

/-- One row of the CO's answer to a GET of `prsServiceRequest`. -/
structure CoServiceResponseRow where
  strategyRequested : UInt8 := 0
  requestedTimeOfServiceDesired : UInt32 := 0
  requestedTimeOfEstimatedDeparture : UInt32 := 0
  requestStatusInCO : RequestStatus := .idleNotValid
  deriving DecidableEq, Repr

/-! ## J2735 signal requests -/

/-- `IntersectionAccessPoint_t`, a tagged union. -/
inductive IntersectionAccessPoint where
  | nothing
  | lane (lane : Int)
  | approach (approach : Int)
  | connection (connection : Int)
  deriving DecidableEq, Repr

namespace IntersectionAccessPoint

/-- The tag, `IntersectionAccessPoint_PR`. -/
def present : IntersectionAccessPoint → UInt8
  | nothing => 0
  | lane _ => 1
  | approach _ => 2
  | connection _ => 3

/-- What the builders record of the access point: the lane or the approach. -/
def value? : IntersectionAccessPoint → Option Int
  | lane l => some l
  | approach a => some a
  | _ => none

/-- `inBoundLane` of the builders: -1 when the access point is not a lane. -/
def laneOrNone : IntersectionAccessPoint → Int
  | lane l => l
  | _ => -1

end IntersectionAccessPoint

/-- `PriorityRequestType`. -/
inductive PriorityRequestType where
  | priorityRequestTypeReserved
  | priorityRequest
  | priorityRequestUpdate
  | priorityCancellation
  deriving DecidableEq, Repr

/-- The fields of a `SignalRequestPackage` the builders read. -/
structure SignalRequestPackage where
  requestID : Int
  intersectionID : Int
  requestType : PriorityRequestType
  inBoundLane : IntersectionAccessPoint
  minute : Option Int := none
  second : Option Int := none
  duration : Option Int := none
  deriving DecidableEq, Repr

/-! ## Requests tracked in PRG mode -/

inductive PrgRequestState where
  | sent
  | canceled
  deriving DecidableEq, Repr

structure PrgTrackedRequest where
  requestID : UInt8
  intersectionID : Int
  vehicleID : List UInt8
  classType : UInt8
  classLevel : UInt8
  strategyNumber : UInt8
  sentTimeMs : UInt64
  state : PrgRequestState := .sent
  deriving DecidableEq, Repr

/-- What is kept of one package for the SSM that answers its SRM. -/
structure SignalRequest where
  requestID : UInt8
  intersectionID : Int
  requestType : PriorityRequestType
  timeOfService : UInt16
  timeOfDepart : UInt16
  rejected : Bool := false
  inboundPresent : UInt8 := 0
  inboundValue : Int := 0
  etaMinute : Int := 0
  etaSecond : Int := 0
  duration : Int := 0
  deriving DecidableEq, Repr

/-- All requests of one vehicle's last SRM. -/
structure RequestorState where
  vehicleID : List UInt8
  classType : UInt8
  sequenceNumber : UInt8
  timeOfRequest : UInt32
  requests : List SignalRequest
  role : Int := 0
  deriving DecidableEq, Repr

end V2XHub.Priority
