import Mathlib.Data.List.AList
import V2XHub.Lib.Traced
import V2XHub.Priority.Worker

/-!
# From the signal controller's broadcast to SPaT

The traffic signal controller broadcasts its state as a TSCBM: a packed structure of 245 bytes with
a time entry for each of up to 16 phases and, for each kind of signal, groups of 16 bits with a bit
for each phase. `Ntcip1202` copies a payload over that structure and builds a J2735 SPaT message
from it, one movement for each signal group that is configured for a phase of the message.

The payload is not checked beyond its length: phase numbers are bytes from the wire. The accesses
that depend on them, the indices into `phaseTimes` and the amounts that status groups are shifted
by, are noted with `Lib.Traced`.
-/

namespace V2XHub.Spat

open Lib

/-! ## The structure -/

/-- `Ntcip1202Ext_PhaseTime`. Words are as they lie in memory: most significant byte first, read by
a machine that takes it for the least. -/
structure PhaseTime where
  phaseNumber : UInt8
  spatVehMinTimeToChange : UInt16
  spatVehMaxTimeToChange : UInt16
  spatPedMinTimeToChange : UInt16
  spatPedMaxTimeToChange : UInt16
  spatOvlpMinTimeToChange : UInt16
  spatOvpMaxTimeToChange : UInt16
  deriving DecidableEq, Repr

def phaseTimesSize : Nat := 16

/-- The members of `Ntcip1202Ext` that are read. -/
structure Ntcip1202Ext where
  phaseTimes : List PhaseTime
  phaseStatusGroupReds : UInt16
  phaseStatusGroupYellows : UInt16
  phaseStatusGroupGreens : UInt16
  phaseStatusGroupDontWalks : UInt16
  phaseStatusGroupPedClears : UInt16
  phaseStatusGroupWalks : UInt16
  overlapStatusGroupReds : UInt16
  overlapStatusGroupYellows : UInt16
  overlapStatusGroupGreens : UInt16
  flashingOutputPhaseStatus : UInt16
  flashingOutputOverlapStatus : UInt16
  spatIntersectionStatus : UInt8
  spatPedestrianDetect : UInt16
  length_phaseTimes : phaseTimes.length = phaseTimesSize
  deriving DecidableEq

/-- `sizeof(ntcip1202Data)`. -/
def structSize : Nat := 245

def byteAt (memory : List UInt8) (offset : Nat) : UInt8 := memory.getD offset 0

/-- A word of memory. -/
def wordAt (memory : List UInt8) (offset : Nat) : UInt16 :=
  (byteAt memory offset).toUInt16 ||| ((byteAt memory (offset + 1)).toUInt16 <<< 8)

def ntohs (x : UInt16) : UInt16 := (x <<< 8) ||| (x >>> 8)

/-- The thirteen bytes of an entry. -/
def phaseTimeAt (memory : List UInt8) (offset : Nat) : PhaseTime where
  phaseNumber := byteAt memory offset
  spatVehMinTimeToChange := wordAt memory (offset + 1)
  spatVehMaxTimeToChange := wordAt memory (offset + 3)
  spatPedMinTimeToChange := wordAt memory (offset + 5)
  spatPedMaxTimeToChange := wordAt memory (offset + 7)
  spatOvlpMinTimeToChange := wordAt memory (offset + 9)
  spatOvpMaxTimeToChange := wordAt memory (offset + 11)

/-- The structure over the memory; past the end of a short payload all is zero. -/
def Ntcip1202Ext.ofMemory (memory : List UInt8) : Ntcip1202Ext where
  phaseTimes := (List.range phaseTimesSize).map fun i => phaseTimeAt memory (2 + 13 * i)
  phaseStatusGroupReds := wordAt memory 210
  phaseStatusGroupYellows := wordAt memory 212
  phaseStatusGroupGreens := wordAt memory 214
  phaseStatusGroupDontWalks := wordAt memory 216
  phaseStatusGroupPedClears := wordAt memory 218
  phaseStatusGroupWalks := wordAt memory 220
  overlapStatusGroupReds := wordAt memory 222
  overlapStatusGroupYellows := wordAt memory 224
  overlapStatusGroupGreens := wordAt memory 226
  flashingOutputPhaseStatus := wordAt memory 228
  flashingOutputOverlapStatus := wordAt memory 230
  spatIntersectionStatus := byteAt memory 232
  spatPedestrianDetect := wordAt memory 243
  length_phaseTimes := by rw [List.length_map, List.length_range]

/-! ## Configuration and payload -/

structure SignalGroupMapping where
  signalGroupId : Int
  phaseId : Int
  typeName : String
  deriving DecidableEq, Repr

/-- An entry of the configured JSON: what `get` finds under each name. -/
structure SignalGroupNode where
  signalGroupId : Option Int
  phase : Option Int := none
  typeName : Option String
  deriving DecidableEq, Repr

structure Ntcip1202 where
  ntcip1202Data : Ntcip1202Ext := .ofMemory []
  phaseToIndexMapping : AList fun _ : UInt8 => Nat := ∅
  signalGroupMappingList : List SignalGroupMapping := []

namespace Ntcip1202

/-- Every entry is appended to the list; a missing group or type throws, and the entries before it
stay. -/
def setSignalGroupMappingList (s : Ntcip1202) : List SignalGroupNode → Except Ntcip1202 Ntcip1202
  | [] => .ok s
  | node :: nodes =>
      match node.signalGroupId, node.typeName with
      | some signalGroupId, some typeName =>
          let sgm : SignalGroupMapping := ⟨signalGroupId, node.phase.getD 0, typeName⟩
          { s with signalGroupMappingList := s.signalGroupMappingList ++ [sgm] }
            |>.setSignalGroupMappingList nodes
      | _, _ => .error s

/-- The map from phases to the indices of their entries; the later of two entries counts. -/
def indexPhases (phaseTimes : List PhaseTime) : AList fun _ : UInt8 => Nat :=
  phaseTimes.zipIdx.foldl
    (fun mapping (entry, i) =>
      if entry.phaseNumber > 0 then mapping.insert entry.phaseNumber i else mapping)
    ∅

/-- The text of the exception, or the object after the copy. -/
def copyBytesIntoNtcip1202 (s : Ntcip1202) (buff : List UInt8) : Except String Ntcip1202 :=
  if buff.isEmpty then .error "Received SPaT payload is empty or null"
  else if buff.length > structSize then
    .error "Received SPaT payload is larger than the TSCBM size"
  else
    let data := Ntcip1202Ext.ofMemory buff
    .ok { s with ntcip1202Data := data, phaseToIndexMapping := indexPhases data.phaseTimes }

/-! ## Reading -/

end Ntcip1202

/-- An access that depends on a phase number. -/
inductive Access where
  /-- index into `phaseTimes` -/
  | phaseTimes (index : Nat)
  /-- amount a group of 16 bits is shifted right by -/
  | shift (amount : Int)
  deriving DecidableEq, Repr

/-- Inside the array, and inside the group. -/
def Access.InRange : Access → Prop
  | phaseTimes index => index < phaseTimesSize
  | shift amount => 0 ≤ amount ∧ amount ≤ 15

namespace Ntcip1202

variable (s : Ntcip1202)

def phaseTimeOf (index : Nat) : Traced Access PhaseTime :=
  .access (.phaseTimes index) s.ntcip1202Data.phaseTimes[index]?

/-- A time of the entry that the map has for a phase. `operator[]` of the map gives 0 for a phase it
does not have. -/
def timeOf (field : PhaseTime → UInt16) (phaseNumber : Nat) : Traced Access UInt16 := do
  let index := (s.phaseToIndexMapping.lookup (UInt8.ofNat phaseNumber)).getD 0
  let entry ← s.phaseTimeOf index
  return ntohs (field entry)

def getVehicleMinTime := s.timeOf PhaseTime.spatVehMinTimeToChange
def getVehicleMaxTime := s.timeOf PhaseTime.spatVehMaxTimeToChange
def getPedMinTime := s.timeOf PhaseTime.spatPedMinTimeToChange
def getPedMaxTime := s.timeOf PhaseTime.spatPedMaxTimeToChange
def getOverlapMinTime := s.timeOf PhaseTime.spatOvlpMinTimeToChange
def getOverlapMaxTime := s.timeOf PhaseTime.spatOvpMaxTimeToChange

/-- The bit of a phase in a group. The group is promoted to 32 bits: a shift by less than 0 or more
than 31 is undefined. -/
def statusBit (group : Ntcip1202Ext → UInt16) (phaseNumber : Nat) : Traced Access Bool :=
  .access (.shift (phaseNumber - 1))
    (if 1 ≤ phaseNumber ∧ phaseNumber ≤ 32 then
      some ((ntohs (group s.ntcip1202Data)).toNat.testBit (phaseNumber - 1))
    else none)

def getPhaseFlashingStatus := s.statusBit Ntcip1202Ext.flashingOutputPhaseStatus
def getOverlapFlashingStatus := s.statusBit Ntcip1202Ext.flashingOutputOverlapStatus
def getPhaseRedStatus := s.statusBit Ntcip1202Ext.phaseStatusGroupReds
def getPhaseYellowStatus := s.statusBit Ntcip1202Ext.phaseStatusGroupYellows
def getPhaseGreensStatus := s.statusBit Ntcip1202Ext.phaseStatusGroupGreens
def getPhaseDontWalkStatus := s.statusBit Ntcip1202Ext.phaseStatusGroupDontWalks
def getPhasePedClearsStatus := s.statusBit Ntcip1202Ext.phaseStatusGroupPedClears
def getPhaseWalkStatus := s.statusBit Ntcip1202Ext.phaseStatusGroupWalks
def getOverlapRedStatus := s.statusBit Ntcip1202Ext.overlapStatusGroupReds
def getOverlapYellowStatus := s.statusBit Ntcip1202Ext.overlapStatusGroupYellows
def getOverlapGreenStatus := s.statusBit Ntcip1202Ext.overlapStatusGroupGreens
def getSpatPedestrianDetect := s.statusBit Ntcip1202Ext.spatPedestrianDetect

end Ntcip1202

/-- The J2735 time mark: tenths of a second in the hour. The sum of milliseconds is an
`unsigned long`. -/
def getAdjustedTime (offsetTenthOfSec : UInt16) (msEpoch : UInt64) : Nat :=
  let epochMs := msEpoch + (offsetTenthOfSec.toUInt32 * 100).toUInt64
  let utctime := Priority.gmtime_r (epochMs / 1000).toNat
  (utctime.tm_min * 600 + utctime.tm_sec * 10).toNat + (epochMs % 1000 / 100).toNat

/-! ## The message -/

/-- The states of `MovementPhaseState` that are given. -/
inductive MovementPhaseState where
  | dark
  | stopThenProceed
  | stopAndRemain
  | permissiveMovementAllowed
  | protectedMovementAllowed
  | protectedClearance
  | cautionConflictingTraffic
  deriving DecidableEq, Repr

structure TimeChangeDetails where
  minEndTime : Nat
  maxEndTime : Option Nat
  deriving DecidableEq, Repr

/-- `MovementEvent`. -/
structure MovementEvent where
  eventState : MovementPhaseState
  timing : TimeChangeDetails
  deriving DecidableEq, Repr

/-- `ConnectionManeuverAssist`. -/
structure ConnectionManeuverAssist where
  connectionID : Int
  pedBicycleDetect : Bool
  deriving DecidableEq, Repr

structure MovementState where
  signalGroup : Int
  stateTimeSpeed : List MovementEvent
  maneuverAssistList : List ConnectionManeuverAssist := []
  deriving DecidableEq, Repr

structure IntersectionState where
  name : String
  id : Int
  revision : Nat
  moy : Int
  timeStamp : Nat
  /-- the two bytes of `status` -/
  status : List UInt8
  states : List MovementState
  deriving DecidableEq, Repr

/-- `boost::iequals`. -/
def iequals (a b : String) : Bool := a.toList.map Char.toLower = b.toList.map Char.toLower

namespace Ntcip1202

variable (s : Ntcip1202)

/-- The state of a signal with lights. -/
def lightState (flashing red yellow green : Nat → Traced Access Bool)
    (allowed : MovementPhaseState) (phase : Nat) : Traced Access MovementPhaseState := do
  let isFlashing ← flashing phase
  if ← red phase then
    return if isFlashing then .stopThenProceed else .stopAndRemain
  else if ← yellow phase then
    return if isFlashing then .cautionConflictingTraffic else .protectedClearance
  else if ← green phase then
    return allowed
  else
    return .dark

/-- The state of a pedestrian signal. -/
def walkState (phase : Nat) : Traced Access MovementPhaseState := do
  if ← s.getPhaseDontWalkStatus phase then
    return .stopAndRemain
  else if ← s.getPhasePedClearsStatus phase then
    return .protectedClearance
  else if ← s.getPhaseWalkStatus phase then
    return .permissiveMovementAllowed
  else
    return .dark

/-- The times of a movement; `hasMax` is the condition for the later one. -/
def timeChangeDetails (minTime : Traced Access UInt16) (hasMax : Traced Access Bool)
    (maxTime : Traced Access UInt16) (msEpoch : UInt64) : Traced Access TimeChangeDetails := do
  let minEndTime := getAdjustedTime (← minTime) msEpoch
  if ← hasMax then
    return ⟨minEndTime, some (getAdjustedTime (← maxTime) msEpoch)⟩
  else
    return ⟨minEndTime, none⟩

/-- Vehicle signals and overlaps differ in the groups and times they read and in what green
allows. -/
def populateLights (flashing red yellow green : Nat → Traced Access Bool)
    (allowed : MovementPhaseState) (minTime maxTime : Nat → Traced Access UInt16)
    (signalGroupId : Int) (phase : Nat) (msEpoch : UInt64) : Traced Access MovementState := do
  let eventState ← lightState flashing red yellow green allowed phase
  let hasMax := do
    let maxTime ← maxTime phase
    return decide (maxTime > 0)
  let timing ← timeChangeDetails (minTime phase) hasMax (maxTime phase) msEpoch
  return { signalGroup := signalGroupId
           stateTimeSpeed := [⟨eventState, timing⟩] }

def populateVehicleSignalGroup :=
  populateLights s.getPhaseFlashingStatus s.getPhaseRedStatus s.getPhaseYellowStatus
    s.getPhaseGreensStatus .protectedMovementAllowed s.getVehicleMinTime s.getVehicleMaxTime

def populateOverlapSignalGroup :=
  populateLights s.getOverlapFlashingStatus s.getOverlapRedStatus s.getOverlapYellowStatus
    s.getOverlapGreenStatus .permissiveMovementAllowed s.getOverlapMinTime s.getOverlapMaxTime

def populatePedestrianSignalGroup (signalGroupId : Int) (phase : Nat) (msEpoch : UInt64) :
    Traced Access MovementState := do
  let eventState ← s.walkState phase
  -- the condition looks at the entry with the index `phase`, not at the entry of the phase
  let hasMax := do
    let entry ← s.phaseTimeOf phase
    return decide (entry.spatPedMaxTimeToChange > 0)
  let timing ← timeChangeDetails (s.getPedMinTime phase) hasMax (s.getPedMaxTime phase) msEpoch
  let detected ← s.getSpatPedestrianDetect phase
  return { signalGroup := signalGroupId
           stateTimeSpeed := [⟨eventState, timing⟩]
           maneuverAssistList := if detected then [⟨0, true⟩] else [] }

/-- The groups configured for a phase, of one type. -/
def groupsFor (phase : Nat) (typeName : String) : List SignalGroupMapping :=
  s.signalGroupMappingList.filter fun it =>
    it.phaseId = phase && iequals it.typeName typeName && it.signalGroupId > 0

/-- The loop over the groups of one type. -/
def movementsFor (phase : Nat) (typeName : String)
    (populate : Int → Nat → UInt64 → Traced Access MovementState) (msEpoch : UInt64) :
    Traced Access (List MovementState) :=
  Traced.collect
    (fun it => do
      let movement ← populate it.signalGroupId phase msEpoch
      return [movement])
    (s.groupsFor phase typeName)

/-- The movement list. -/
def movements (msEpoch : UInt64) : Traced Access (List MovementState) :=
  Traced.collect
    (fun m => do
      let entry ← s.phaseTimeOf m
      let phase := entry.phaseNumber.toNat
      let vehicles ← s.movementsFor phase "vehicle" s.populateVehicleSignalGroup msEpoch
      let pedestrians ← s.movementsFor phase "pedestrian" s.populatePedestrianSignalGroup msEpoch
      let overlaps ← s.movementsFor phase "overlap" s.populateOverlapSignalGroup msEpoch
      return vehicles ++ pedestrians ++ overlaps)
    (List.range phaseTimesSize)

/-- `ToJ2735SPAT`: the intersection it adds to the message. -/
def toJ2735SPAT (msEpoch : UInt64) (intersectionName : String) (intersectionId : Int) :
    Traced Access IntersectionState := do
  let epochSec := (msEpoch / 1000).toNat
  let utctime := Priority.gmtime_r epochSec
  let states ← s.movements msEpoch
  return { name := intersectionName
           id := intersectionId
           revision := 1
           moy := utctime.minuteOfTheYear
           timeStamp := 1000 * (epochSec % 60) + (msEpoch % 1000).toNat
           -- one byte of status, in sixteen bits
           status := [0, s.ntcip1202Data.spatIntersectionStatus]
           states := states }

end Ntcip1202

end V2XHub.Spat
