import Mathlib.Algebra.Group.Nat.Defs
import Mathlib.Data.List.Induction
import V2XHub.Spat.Ntcip1202

/-!
# The movements of a SPaT message

What the movement of a signal group should say is given by the phase's own entry and the phase's
bits. The three routines that fill movements in are compared with that, and the accesses they make
are counted up.

**Main results**

* `states_exact_iff`: exactly when every movement is right.
* `accesses_inRange_iff`: exactly when every access stays inside the array and the groups.
-/

namespace V2XHub.Spat

open Lib

/-! ## Times -/

/-- The mark for a time so many tenths of a second from now. -/
def tenthOfHour (msEpoch : UInt64) (tenths : Nat) : Nat := (msEpoch.toNat / 100 + tenths) % 36000

theorem tenths_of_ms (x : Nat) :
    (((x / 1000 : Nat) : Int) % 3600 / 60 * 600 + ((x / 1000 : Nat) : Int) % 60 * 10).toNat +
      x % 1000 / 100 = x / 100 % 36000 := by
  omega

theorem toNat_epochMs (offset : UInt16) (msEpoch : UInt64) :
    (msEpoch + (offset.toUInt32 * 100).toUInt64).toNat =
      (msEpoch.toNat + 100 * offset.toNat) % 2 ^ 64 := by
  have hoffset := offset.toNat_lt
  have hundred : (100 : UInt32).toNat = 100 := rfl
  rw [UInt64.toNat_add, UInt32.toNat_toUInt64, UInt32.toNat_mul, UInt16.toNat_toUInt32, hundred,
    Nat.mod_eq_of_lt (a := offset.toNat * 100) (by omega), Nat.mul_comm]

theorem getAdjustedTime_eq (offset : UInt16) (msEpoch : UInt64) :
    getAdjustedTime offset msEpoch =
      (msEpoch.toNat + 100 * offset.toNat) % 2 ^ 64 / 100 % 36000 := by
  rw [← toNat_epochMs]
  unfold getAdjustedTime
  generalize msEpoch + (offset.toUInt32 * 100).toUInt64 = epochMs
  have hthousand : (1000 : UInt64).toNat = 1000 := rfl
  have hhundred : (100 : UInt64).toNat = 100 := rfl
  simp only [Priority.gmtime_r, UInt64.toNat_div, UInt64.toNat_mod, hthousand, hhundred]
  exact tenths_of_ms _

/-- A sum past 64 bits loses more than whole hours. -/
theorem tenths_of_wrapped {x ms tenths : Nat} (h : ms + 100 * tenths = x + 2 ^ 64) :
    x / 100 % 36000 ≠ (ms / 100 + tenths) % 36000 := by
  have hsum : ms / 100 + tenths = (x + 16) / 100 + 184467440737095516 := by omega
  have hnear : (x + 16) / 100 = x / 100 ∨ (x + 16) / 100 = x / 100 + 1 := by omega
  have hmod : (ms / 100 + tenths) % 36000 = ((x + 16) / 100 + 15516) % 36000 := by
    rw [hsum]
    omega
  rw [hmod]
  omega

/-- The mark is right unless the sum of milliseconds passes 64 bits; then it never is. -/
theorem getAdjustedTime_eq_iff (offset : UInt16) (msEpoch : UInt64) :
    getAdjustedTime offset msEpoch = tenthOfHour msEpoch offset.toNat ↔
      msEpoch.toNat + 100 * offset.toNat < 2 ^ 64 := by
  have hoffset := offset.toNat_lt
  have hms := msEpoch.toNat_lt
  rw [getAdjustedTime_eq]
  unfold tenthOfHour
  rcases Nat.lt_or_ge (msEpoch.toNat + 100 * offset.toNat) (2 ^ 64) with hlt | hge
  · refine iff_of_true ?_ hlt
    rw [Nat.mod_eq_of_lt hlt]
    omega
  · refine iff_of_false ?_ (Nat.not_lt.mpr hge)
    have hrest : msEpoch.toNat + 100 * offset.toNat - 2 ^ 64 < 2 ^ 64 := by omega
    rw [Nat.mod_eq_sub_mod hge, Nat.mod_eq_of_lt hrest]
    exact tenths_of_wrapped (Nat.sub_add_cancel hge).symm

/-! ## The phases of a message -/

namespace Ntcip1202

/-- What `copyBytesIntoNtcip1202` leaves: the map is that of the entries. -/
def Loaded (s : Ntcip1202) : Prop :=
  s.phaseToIndexMapping = indexPhases s.ntcip1202Data.phaseTimes

theorem loaded_of_copyBytes {s s' : Ntcip1202} {buff : List UInt8}
    (h : s.copyBytesIntoNtcip1202 buff = .ok s') : s'.Loaded := by
  unfold copyBytesIntoNtcip1202 at h
  split_ifs at h
  cases h
  rfl

section

variable {phaseTimes : List PhaseTime} {phase : UInt8} {i : Nat}

theorem indexPhases_concat (entry : PhaseTime) :
    (indexPhases (phaseTimes ++ [entry])).lookup phase =
      if entry.phaseNumber > 0 ∧ phase = entry.phaseNumber then some phaseTimes.length
      else (indexPhases phaseTimes).lookup phase := by
  unfold indexPhases
  rw [List.zipIdx_append, List.foldl_append]
  simp only [List.zipIdx_cons, List.zipIdx_nil, List.foldl_cons, List.foldl_nil, Nat.zero_add]
  split_ifs with hpos hand hand
  · rw [hand.2, AList.lookup_insert]
  · exact AList.lookup_insert_ne fun heq => hand ⟨hpos, heq⟩
  · exact absurd hand.1 hpos
  · rfl

/-- The map leads to an entry of the phase. -/
theorem lookup_indexPhases_lt (h : (indexPhases phaseTimes).lookup phase = some i) :
    i < phaseTimes.length := by
  induction phaseTimes using List.reverseRecOn with
  | nil => exact nomatch h
  | append_singleton phaseTimes entry ih =>
      rw [indexPhases_concat] at h
      rw [List.length_append, List.length_singleton]
      split_ifs at h
      · cases h
        omega
      · have := ih h
        omega

/-- With distinct phases it leads to the phase's own entry. -/
theorem lookup_indexPhases {entry : PhaseTime} (hentry : phaseTimes[i]? = some entry)
    (hpos : entry.phaseNumber > 0)
    (hdistinct : ∀ j other, phaseTimes[j]? = some other →
      other.phaseNumber = entry.phaseNumber → j = i) :
    (indexPhases phaseTimes).lookup entry.phaseNumber = some i := by
  induction phaseTimes using List.reverseRecOn with
  | nil => exact nomatch hentry
  | append_singleton phaseTimes last ih =>
      rw [indexPhases_concat]
      have hlast : (phaseTimes ++ [last])[phaseTimes.length]? = some last := by
        rw [List.getElem?_append_right (Nat.le_refl _), Nat.sub_self]
        rfl
      split_ifs with hand
      · exact congrArg some (hdistinct _ _ hlast hand.2.symm)
      · have hlt : i < phaseTimes.length := by
          have hi := (List.getElem?_eq_some_iff.mp hentry).1
          rw [List.length_append, List.length_singleton] at hi
          by_contra hge
          have heq : i = phaseTimes.length := by omega
          rw [heq, hlast] at hentry
          exact hand ⟨Option.some.inj hentry ▸ hpos, (Option.some.inj hentry ▸ rfl)⟩
        refine ih ?_ fun j other hother hsame => ?_
        · rwa [List.getElem?_append_left hlt] at hentry
        · have hj := (List.getElem?_eq_some_iff.mp hother).1
          exact hdistinct j other (by rwa [List.getElem?_append_left hj]) hsame

end

/-! ## Single reads -/

section

variable {s : Ntcip1202}

theorem safe_phaseTimeOf {index : Nat} :
    (s.phaseTimeOf index).Safe Access.InRange ↔ index < phaseTimesSize := Traced.safe_access

theorem result_phaseTimeOf_of_lt {index : Nat} (h : index < phaseTimesSize) :
    ∃ entry, (s.phaseTimeOf index).result = some entry := by
  have hlen := s.ntcip1202Data.length_phaseTimes
  exact ⟨_, List.getElem?_eq_getElem (by rwa [hlen])⟩

theorem safe_statusBit {group : Ntcip1202Ext → UInt16} {phase : Nat} :
    (s.statusBit group phase).Safe Access.InRange ↔ 1 ≤ phase ∧ phase ≤ 16 := by
  rw [statusBit, Traced.safe_access, Access.InRange]
  omega

/-- The bit of a phase. -/
def bitOf (s : Ntcip1202) (group : Ntcip1202Ext → UInt16) (phase : Nat) : Bool :=
  (ntohs (group s.ntcip1202Data)).toNat.testBit (phase - 1)

theorem result_statusBit {group : Ntcip1202Ext → UInt16} {phase : Nat}
    (h : 1 ≤ phase ∧ phase ≤ 16) : (s.statusBit group phase).result = some (s.bitOf group phase) :=
  if_pos ⟨h.1, by omega⟩

/-- The index the map gives is one of the array. -/
theorem index_lt (hloaded : s.Loaded) (phase : UInt8) :
    (s.phaseToIndexMapping.lookup phase).getD 0 < phaseTimesSize := by
  rw [hloaded]
  cases h : (indexPhases s.ntcip1202Data.phaseTimes).lookup phase with
  | none => exact Nat.zero_lt_succ 15
  | some i =>
      rw [← s.ntcip1202Data.length_phaseTimes]
      exact lookup_indexPhases_lt h

theorem safe_timeOf (hloaded : s.Loaded) (field : PhaseTime → UInt16) (phase : Nat) :
    (s.timeOf field phase).Safe Access.InRange := by
  unfold timeOf
  exact Traced.safe_bind.mpr
    ⟨safe_phaseTimeOf.mpr (index_lt hloaded _), fun _ _ => Traced.safe_pure _⟩

theorem result_timeOf_isSome (hloaded : s.Loaded) (field : PhaseTime → UInt16) (phase : Nat) :
    ∃ time, (s.timeOf field phase).result = some time := by
  obtain ⟨entry, hentry⟩ := result_phaseTimeOf_of_lt (s := s)
    (index_lt hloaded (UInt8.ofNat phase))
  refine ⟨ntohs (field entry), ?_⟩
  unfold timeOf
  rw [Traced.result_bind, hentry]
  rfl

end

/-! ## States and times of a movement -/

section

variable {s : Ntcip1202} {flashing red yellow green : Ntcip1202Ext → UInt16}
variable {allowed : MovementPhaseState} {phase : Nat} {msEpoch : UInt64}

/-- The state that the bits of a signal with lights stand for. -/
def lightStateOf (isFlashing isRed isYellow isGreen : Bool) (allowed : MovementPhaseState) :
    MovementPhaseState :=
  if isRed then if isFlashing then .stopThenProceed else .stopAndRemain
  else if isYellow then if isFlashing then .cautionConflictingTraffic else .protectedClearance
  else if isGreen then allowed
  else .dark

/-- The state that the bits of a pedestrian signal stand for. -/
def walkStateOf (isDontWalk isPedClear isWalk : Bool) : MovementPhaseState :=
  if isDontWalk then .stopAndRemain
  else if isPedClear then .protectedClearance
  else if isWalk then .permissiveMovementAllowed
  else .dark

theorem result_lightState (h : 1 ≤ phase ∧ phase ≤ 16) :
    (lightState (s.statusBit flashing) (s.statusBit red) (s.statusBit yellow)
        (s.statusBit green) allowed phase).result =
      some (lightStateOf (s.bitOf flashing phase) (s.bitOf red phase) (s.bitOf yellow phase)
        (s.bitOf green phase) allowed) := by
  have hbit (group : Ntcip1202Ext → UInt16) :
      (s.statusBit group phase).result = some (s.bitOf group phase) := result_statusBit h
  unfold lightState lightStateOf
  rw [Traced.result_bind, hbit, Option.bind_some, Traced.result_bind, hbit, Option.bind_some]
  cases s.bitOf red phase with
  | true => rfl
  | false =>
      show Traced.result (s.statusBit yellow phase >>= _) = _
      rw [Traced.result_bind, hbit, Option.bind_some]
      cases s.bitOf yellow phase with
      | true => rfl
      | false =>
          show Traced.result (s.statusBit green phase >>= _) = _
          rw [Traced.result_bind, hbit, Option.bind_some]
          cases s.bitOf green phase <;> rfl

theorem result_walkState (h : 1 ≤ phase ∧ phase ≤ 16) :
    (s.walkState phase).result =
      some (walkStateOf (s.bitOf Ntcip1202Ext.phaseStatusGroupDontWalks phase)
        (s.bitOf Ntcip1202Ext.phaseStatusGroupPedClears phase)
        (s.bitOf Ntcip1202Ext.phaseStatusGroupWalks phase)) := by
  have hbit (group : Ntcip1202Ext → UInt16) :
      (s.statusBit group phase).result = some (s.bitOf group phase) := result_statusBit h
  unfold walkState walkStateOf getPhaseDontWalkStatus getPhasePedClearsStatus getPhaseWalkStatus
  rw [Traced.result_bind, hbit, Option.bind_some]
  cases s.bitOf Ntcip1202Ext.phaseStatusGroupDontWalks phase with
  | true => rfl
  | false =>
      show Traced.result (s.statusBit Ntcip1202Ext.phaseStatusGroupPedClears phase >>= _) = _
      rw [Traced.result_bind, hbit, Option.bind_some]
      cases s.bitOf Ntcip1202Ext.phaseStatusGroupPedClears phase with
      | true => rfl
      | false =>
          show Traced.result (s.statusBit Ntcip1202Ext.phaseStatusGroupWalks phase >>= _) = _
          rw [Traced.result_bind, hbit, Option.bind_some]
          cases s.bitOf Ntcip1202Ext.phaseStatusGroupWalks phase <;> rfl

theorem safe_lightState :
    (lightState (s.statusBit flashing) (s.statusBit red) (s.statusBit yellow)
        (s.statusBit green) allowed phase).Safe Access.InRange ↔ 1 ≤ phase ∧ phase ≤ 16 := by
  constructor
  · intro h
    exact safe_statusBit.mp (Traced.safe_bind.mp h).1
  · intro h
    have hbit (group : Ntcip1202Ext → UInt16) :
        (s.statusBit group phase).Safe Access.InRange := safe_statusBit.mpr h
    refine Traced.safe_bind.mpr ⟨hbit _, fun _ _ => Traced.safe_bind.mpr ⟨hbit _, fun _ _ => ?_⟩⟩
    refine Traced.safe_ite (Traced.safe_pure _) (Traced.safe_bind.mpr ⟨hbit _, fun _ _ => ?_⟩)
    refine Traced.safe_ite (Traced.safe_pure _) (Traced.safe_bind.mpr ⟨hbit _, fun _ _ => ?_⟩)
    exact Traced.safe_ite (Traced.safe_pure _) (Traced.safe_pure _)

theorem safe_walkState :
    (s.walkState phase).Safe Access.InRange ↔ 1 ≤ phase ∧ phase ≤ 16 := by
  constructor
  · intro h
    exact safe_statusBit.mp (Traced.safe_bind.mp h).1
  · intro h
    have hbit (group : Ntcip1202Ext → UInt16) :
        (s.statusBit group phase).Safe Access.InRange := safe_statusBit.mpr h
    refine Traced.safe_bind.mpr ⟨hbit _, fun _ _ => ?_⟩
    refine Traced.safe_ite (Traced.safe_pure _) (Traced.safe_bind.mpr ⟨hbit _, fun _ _ => ?_⟩)
    refine Traced.safe_ite (Traced.safe_pure _) (Traced.safe_bind.mpr ⟨hbit _, fun _ _ => ?_⟩)
    exact Traced.safe_ite (Traced.safe_pure _) (Traced.safe_pure _)

theorem result_timeChangeDetails {minTime maxTime : Traced Access UInt16}
    {hasMax : Traced Access Bool} {tMin tMax : UInt16} {later : Bool}
    (hmin : minTime.result = some tMin) (hhas : hasMax.result = some later)
    (hmax : maxTime.result = some tMax) :
    (timeChangeDetails minTime hasMax maxTime msEpoch).result =
      some ⟨getAdjustedTime tMin msEpoch,
        if later then some (getAdjustedTime tMax msEpoch) else none⟩ := by
  unfold timeChangeDetails
  rw [Traced.result_bind, hmin, Option.bind_some, Traced.result_bind, hhas, Option.bind_some]
  cases later with
  | false => rfl
  | true =>
      show Traced.result (maxTime >>= _) = _
      rw [Traced.result_bind, hmax]
      rfl

/-- The times are safe when the condition is. -/
theorem safe_timeChangeDetails {minTime maxTime : Traced Access UInt16}
    {hasMax : Traced Access Bool} (hmin : minTime.Safe Access.InRange)
    (hminDefined : ∃ t, minTime.result = some t) (hmax : maxTime.Safe Access.InRange) :
    (timeChangeDetails minTime hasMax maxTime msEpoch).Safe Access.InRange ↔
      hasMax.Safe Access.InRange := by
  obtain ⟨tMin, htMin⟩ := hminDefined
  constructor
  · intro h
    exact (Traced.safe_bind.mp ((Traced.safe_bind.mp h).2 tMin htMin)).1
  · intro h
    refine Traced.safe_bind.mpr ⟨hmin, fun _ _ => Traced.safe_bind.mpr ⟨h, fun _ _ => ?_⟩⟩
    exact Traced.safe_ite (Traced.safe_bind.mpr ⟨hmax, fun _ _ => Traced.safe_pure _⟩)
      (Traced.safe_pure _)

end

end Ntcip1202

/-! ## What should be reported -/

inductive SignalType where
  | vehicle
  | pedestrian
  | overlap
  deriving DecidableEq, Repr

/-- A phase of the message, a type, and a group that is configured for both. -/
structure Reported where
  entry : PhaseTime
  type : SignalType
  group : SignalGroupMapping
  deriving DecidableEq, Repr

namespace SignalType

def typeName : SignalType → String
  | vehicle => "vehicle"
  | pedestrian => "pedestrian"
  | overlap => "overlap"

def populate (s : Ntcip1202) : SignalType → Int → Nat → UInt64 → Traced Access MovementState
  | vehicle => s.populateVehicleSignalGroup
  | pedestrian => s.populatePedestrianSignalGroup
  | overlap => s.populateOverlapSignalGroup

/-- The times an entry has for the type. -/
def minTime : SignalType → PhaseTime → UInt16
  | vehicle => PhaseTime.spatVehMinTimeToChange
  | pedestrian => PhaseTime.spatPedMinTimeToChange
  | overlap => PhaseTime.spatOvlpMinTimeToChange

def maxTime : SignalType → PhaseTime → UInt16
  | vehicle => PhaseTime.spatVehMaxTimeToChange
  | pedestrian => PhaseTime.spatPedMaxTimeToChange
  | overlap => PhaseTime.spatOvpMaxTimeToChange

/-- The state by the phase's bits in the groups of the type. -/
def state (s : Ntcip1202) (phase : Nat) : SignalType → MovementPhaseState
  | vehicle =>
      Ntcip1202.lightStateOf (s.bitOf Ntcip1202Ext.flashingOutputPhaseStatus phase)
        (s.bitOf Ntcip1202Ext.phaseStatusGroupReds phase)
        (s.bitOf Ntcip1202Ext.phaseStatusGroupYellows phase)
        (s.bitOf Ntcip1202Ext.phaseStatusGroupGreens phase) .protectedMovementAllowed
  | pedestrian =>
      Ntcip1202.walkStateOf (s.bitOf Ntcip1202Ext.phaseStatusGroupDontWalks phase)
        (s.bitOf Ntcip1202Ext.phaseStatusGroupPedClears phase)
        (s.bitOf Ntcip1202Ext.phaseStatusGroupWalks phase)
  | overlap =>
      Ntcip1202.lightStateOf (s.bitOf Ntcip1202Ext.flashingOutputOverlapStatus phase)
        (s.bitOf Ntcip1202Ext.overlapStatusGroupReds phase)
        (s.bitOf Ntcip1202Ext.overlapStatusGroupYellows phase)
        (s.bitOf Ntcip1202Ext.overlapStatusGroupGreens phase) .permissiveMovementAllowed

end SignalType

namespace Reported

variable (s : Ntcip1202) (msEpoch : UInt64) (r : Reported)

def phase : Nat := r.entry.phaseNumber.toNat

/-- The times in tenths of a second, as numbers. -/
def minTenths : Nat := (ntohs (r.type.minTime r.entry)).toNat

def maxTenths : Nat := (ntohs (r.type.maxTime r.entry)).toNat

/-- The pedestrian detector of the phase. -/
def detected : Bool :=
  r.type = .pedestrian && s.bitOf Ntcip1202Ext.spatPedestrianDetect r.phase

/-- A movement of the group with given times. -/
def movementWith (timing : TimeChangeDetails) : MovementState where
  signalGroup := r.group.signalGroupId
  stateTimeSpeed := [⟨r.type.state s r.phase, timing⟩]
  maneuverAssistList := if r.detected s then [⟨0, true⟩] else []

/-- The movement with the times of the phase's own entry. -/
def movement : MovementState :=
  r.movementWith s
    ⟨tenthOfHour msEpoch r.minTenths,
      if r.maxTenths > 0 then some (tenthOfHour msEpoch r.maxTenths) else none⟩

/-- The marks fit 64 bits of milliseconds. -/
def Fits : Prop :=
  msEpoch.toNat + 100 * r.minTenths < 2 ^ 64 ∧
    (r.maxTenths > 0 → msEpoch.toNat + 100 * r.maxTenths < 2 ^ 64)

/-- A pedestrian signal has a later time exactly when the entry whose index is the phase number has
one. -/
def SameAtIndex : Prop :=
  r.type = .pedestrian → ∃ other, s.ntcip1202Data.phaseTimes[r.phase]? = some other ∧
    (other.spatPedMaxTimeToChange > 0 ↔ r.entry.spatPedMaxTimeToChange > 0)

end Reported

namespace Ntcip1202

def reportedBy (s : Ntcip1202) (entry : PhaseTime) : List Reported :=
  [SignalType.vehicle, .pedestrian, .overlap].flatMap fun type =>
    (s.groupsFor entry.phaseNumber.toNat type.typeName).map (Reported.mk entry type)

/-- One for each phase of the message, type and group configured for them, in the order of the
entries, the types and the configuration. -/
def reported (s : Ntcip1202) : List Reported :=
  s.ntcip1202Data.phaseTimes.flatMap s.reportedBy

/-- The movement of a group as it is filled in. -/
def populated (s : Ntcip1202) (msEpoch : UInt64) (r : Reported) : Traced Access MovementState :=
  r.type.populate s r.group.signalGroupId r.phase msEpoch

/-- The nonzero phase numbers of a message are distinct. -/
def PhasesDistinct (s : Ntcip1202) : Prop :=
  ∀ (i j : Nat) (entry other : PhaseTime), s.ntcip1202Data.phaseTimes[i]? = some entry →
    s.ntcip1202Data.phaseTimes[j]? = some other → entry.phaseNumber > 0 →
      other.phaseNumber = entry.phaseNumber → j = i

theorem mem_reported {s : Ntcip1202} {r : Reported} :
    r ∈ s.reported ↔ r.entry ∈ s.ntcip1202Data.phaseTimes ∧
      r.group ∈ s.groupsFor r.phase r.type.typeName := by
  obtain ⟨entry, type, group⟩ := r
  unfold reported reportedBy
  simp only [List.mem_flatMap, List.mem_map, Reported.mk.injEq, Reported.phase]
  constructor
  · rintro ⟨_, hentry, _, _, _, hgroup, rfl, rfl, rfl⟩
    exact ⟨hentry, hgroup⟩
  · rintro ⟨hentry, hgroup⟩
    exact ⟨entry, hentry, type, by cases type <;> simp, group, hgroup, rfl, rfl, rfl⟩

/-- A group is reported for the phase it is configured for. -/
theorem phaseId_of_reported {s : Ntcip1202} {r : Reported} (h : r ∈ s.reported) :
    r.group ∈ s.signalGroupMappingList ∧ r.group.phaseId = r.phase := by
  obtain ⟨hmem, hcond⟩ := List.mem_filter.mp (mem_reported.mp h).2
  simp only [Bool.and_eq_true, decide_eq_true_eq] at hcond
  exact ⟨hmem, hcond.1.1⟩

/-! ## The loops -/

/-- One turn of a loop over groups. -/
def turn (s : Ntcip1202) (msEpoch : UInt64) (r : Reported) :
    Traced Access (List MovementState) := do
  let movement ← s.populated msEpoch r
  return [movement]

theorem movementsFor_eq (s : Ntcip1202) (entry : PhaseTime) (type : SignalType)
    (msEpoch : UInt64) :
    s.movementsFor entry.phaseNumber.toNat type.typeName (type.populate s) msEpoch =
      Traced.collect (s.turn msEpoch)
        ((s.groupsFor entry.phaseNumber.toNat type.typeName).map (Reported.mk entry type)) := by
  rw [Traced.collect_map]
  rfl

theorem flatMap_range_getElem? {α β : Type} (l : List α) (k : α → List β) :
    ((List.range l.length).flatMap fun i => l[i]?.toList.flatMap k) = l.flatMap k := by
  induction l using List.reverseRecOn with
  | nil => rfl
  | append_singleton l a ih =>
      rw [List.length_append, List.length_singleton, List.range_succ, List.flatMap_append,
        List.flatMap_append, ← ih]
      congr 1
      · refine List.flatMap_congr fun i hi => ?_
        rw [List.getElem?_append_left (List.mem_range.mp hi)]
      · rw [List.flatMap_singleton, List.getElem?_append_right (Nat.le_refl _), Nat.sub_self]
        rfl

/-- The movement list is one loop over what is to be reported. -/
theorem result_movements (s : Ntcip1202) (msEpoch : UInt64) :
    (s.movements msEpoch).result = (Traced.collect (s.turn msEpoch) s.reported).result := by
  unfold reported movements
  rw [← flatMap_range_getElem?, s.ntcip1202Data.length_phaseTimes]
  refine Traced.result_collect_flatMap fun m hm => ?_
  obtain ⟨entry, hentry⟩ := result_phaseTimeOf_of_lt (s := s) (List.mem_range.mp hm)
  have hget : s.ntcip1202Data.phaseTimes[m]? = some entry := hentry
  have hvehicle := s.movementsFor_eq entry .vehicle msEpoch
  have hpedestrian := s.movementsFor_eq entry .pedestrian msEpoch
  have hoverlap := s.movementsFor_eq entry .overlap msEpoch
  simp only [SignalType.typeName, SignalType.populate] at hvehicle hpedestrian hoverlap
  rw [hget, Option.toList_some, List.flatMap_singleton]
  simp only [reportedBy, List.flatMap_cons, List.flatMap_nil, List.append_nil, SignalType.typeName]
  rw [Traced.result_collect_append, Traced.result_collect_append, Traced.result_bind, hentry,
    Option.bind_some, hvehicle, hpedestrian, hoverlap]
  simp only [Traced.result_bind, Traced.result_pure]
  generalize (Traced.collect (s.turn msEpoch) ((s.groupsFor _ "vehicle").map _)).result = vehicles
  generalize (Traced.collect (s.turn msEpoch) ((s.groupsFor _ "pedestrian").map _)).result =
    pedestrians
  generalize (Traced.collect (s.turn msEpoch) ((s.groupsFor _ "overlap").map _)).result = overlaps
  cases vehicles with
  | none => rfl
  | some vehicles =>
      cases pedestrians with
      | none => rfl
      | some pedestrians =>
          cases overlaps with
          | none => rfl
          | some overlaps => exact congrArg some (List.append_assoc ..)

/-! ## One movement -/

theorem ntohs_pos {x : UInt16} : ntohs x > 0 ↔ x > 0 := by
  have hx := x.toNat_lt
  have hzero : (ntohs x).toNat = 0 ↔ x.toNat = 0 := by
    unfold ntohs
    rw [UInt16.toNat_or, UInt16.toNat_shiftLeft, UInt16.toNat_shiftRight, Nat.or_eq_zero_iff]
    have height : (8 : UInt16).toNat % 16 = 8 := rfl
    rw [height, Nat.shiftLeft_eq, Nat.shiftRight_eq_div_pow]
    omega
  rw [gt_iff_lt, gt_iff_lt, UInt16.lt_iff_toNat_lt, UInt16.lt_iff_toNat_lt]
  show 0 < (ntohs x).toNat ↔ 0 < x.toNat
  omega

section

variable {s : Ntcip1202} {msEpoch : UInt64} {signalGroupId : Int} {phase : Nat}
variable {flashing red yellow green : Ntcip1202Ext → UInt16} {allowed : MovementPhaseState}
variable {minField maxField : PhaseTime → UInt16} {tMin tMax : UInt16}

theorem result_populateLights (hphase : 1 ≤ phase ∧ phase ≤ 16)
    (hmin : (s.timeOf minField phase).result = some tMin)
    (hmax : (s.timeOf maxField phase).result = some tMax) :
    (populateLights (s.statusBit flashing) (s.statusBit red) (s.statusBit yellow)
        (s.statusBit green) allowed (s.timeOf minField) (s.timeOf maxField) signalGroupId phase
        msEpoch).result =
      some { signalGroup := signalGroupId
             stateTimeSpeed :=
              [⟨lightStateOf (s.bitOf flashing phase) (s.bitOf red phase) (s.bitOf yellow phase)
                  (s.bitOf green phase) allowed,
                getAdjustedTime tMin msEpoch,
                if tMax > 0 then some (getAdjustedTime tMax msEpoch) else none⟩] } := by
  have hhas : (s.timeOf maxField phase >>= fun maxTime =>
      (pure (decide (maxTime > 0)) : Traced Access Bool)).result = some (decide (tMax > 0)) := by
    rw [Traced.result_bind, hmax]
    rfl
  unfold populateLights
  rw [Traced.result_bind, result_lightState hphase, Option.bind_some, Traced.result_bind,
    result_timeChangeDetails hmin hhas hmax]
  simp only [decide_eq_true_eq]
  rfl

theorem safe_populateLights (hloaded : s.Loaded) :
    (populateLights (s.statusBit flashing) (s.statusBit red) (s.statusBit yellow)
        (s.statusBit green) allowed (s.timeOf minField) (s.timeOf maxField) signalGroupId phase
        msEpoch).Safe Access.InRange ↔ 1 ≤ phase ∧ phase ≤ 16 := by
  constructor
  · intro h
    exact safe_lightState.mp (Traced.safe_bind.mp h).1
  · intro hphase
    refine Traced.safe_bind.mpr ⟨safe_lightState.mpr hphase, fun _ _ => ?_⟩
    refine Traced.safe_bind.mpr ⟨?_, fun _ _ => Traced.safe_pure _⟩
    refine (safe_timeChangeDetails (safe_timeOf hloaded _ _) (result_timeOf_isSome hloaded _ _)
      (safe_timeOf hloaded _ _)).mpr ?_
    exact Traced.safe_bind.mpr ⟨safe_timeOf hloaded _ _, fun _ _ => Traced.safe_pure _⟩

theorem result_populatePedestrianSignalGroup {other : Option PhaseTime}
    (hphase : 1 ≤ phase ∧ phase ≤ 16) (hother : s.ntcip1202Data.phaseTimes[phase]? = other)
    (hmin : (s.getPedMinTime phase).result = some tMin)
    (hmax : (s.getPedMaxTime phase).result = some tMax) :
    (s.populatePedestrianSignalGroup signalGroupId phase msEpoch).result =
      other.map fun other =>
        { signalGroup := signalGroupId
          stateTimeSpeed :=
            [⟨walkStateOf (s.bitOf Ntcip1202Ext.phaseStatusGroupDontWalks phase)
                (s.bitOf Ntcip1202Ext.phaseStatusGroupPedClears phase)
                (s.bitOf Ntcip1202Ext.phaseStatusGroupWalks phase),
              getAdjustedTime tMin msEpoch,
              if other.spatPedMaxTimeToChange > 0 then some (getAdjustedTime tMax msEpoch)
              else none⟩]
          maneuverAssistList :=
            if s.bitOf Ntcip1202Ext.spatPedestrianDetect phase then [⟨0, true⟩] else [] } := by
  have hdetected : (s.getSpatPedestrianDetect phase).result =
      some (s.bitOf Ntcip1202Ext.spatPedestrianDetect phase) := result_statusBit hphase
  have hentry : (s.phaseTimeOf phase).result = other := hother
  unfold populatePedestrianSignalGroup
  rw [Traced.result_bind, result_walkState hphase, Option.bind_some, Traced.result_bind]
  cases other with
  | none =>
      -- the index is past the end
      have hhas : (s.phaseTimeOf phase >>= fun entry =>
          (pure (decide (entry.spatPedMaxTimeToChange > 0)) : Traced Access Bool)).result =
            none := by
        rw [Traced.result_bind, hentry]
        rfl
      unfold timeChangeDetails
      rw [Traced.result_bind, hmin, Option.bind_some, Traced.result_bind, hhas]
      rfl
  | some other =>
      have hhas : (s.phaseTimeOf phase >>= fun entry =>
          (pure (decide (entry.spatPedMaxTimeToChange > 0)) : Traced Access Bool)).result =
            some (decide (other.spatPedMaxTimeToChange > 0)) := by
        rw [Traced.result_bind, hentry]
        rfl
      rw [result_timeChangeDetails hmin hhas hmax, Option.bind_some, Traced.result_bind,
        hdetected]
      simp only [decide_eq_true_eq]
      rfl

theorem safe_populatePedestrianSignalGroup (hloaded : s.Loaded) :
    (s.populatePedestrianSignalGroup signalGroupId phase msEpoch).Safe Access.InRange ↔
      1 ≤ phase ∧ phase ≤ 15 := by
  have hindex : (phaseTimesSize : Nat) = 16 := rfl
  obtain ⟨tMin, htMin⟩ := result_timeOf_isSome hloaded PhaseTime.spatPedMinTimeToChange phase
  constructor
  · intro h
    have hphase := safe_walkState.mp (Traced.safe_bind.mp h).1
    have htiming := (Traced.safe_bind.mp ((Traced.safe_bind.mp h).2 _ (result_walkState hphase))).1
    have hhas := (safe_timeChangeDetails (safe_timeOf hloaded _ _) ⟨tMin, htMin⟩
      (safe_timeOf hloaded _ _)).mp htiming
    have hlt := safe_phaseTimeOf.mp (Traced.safe_bind.mp hhas).1
    omega
  · intro hphase
    have hsixteen : 1 ≤ phase ∧ phase ≤ 16 := ⟨hphase.1, by omega⟩
    refine Traced.safe_bind.mpr ⟨safe_walkState.mpr hsixteen, fun _ _ => ?_⟩
    refine Traced.safe_bind.mpr ⟨?_, fun _ _ => ?_⟩
    · refine (safe_timeChangeDetails (safe_timeOf hloaded _ _) ⟨tMin, htMin⟩
        (safe_timeOf hloaded _ _)).mpr ?_
      exact Traced.safe_bind.mpr
        ⟨safe_phaseTimeOf.mpr (by omega), fun _ _ => Traced.safe_pure _⟩
    · exact Traced.safe_bind.mpr ⟨safe_statusBit.mpr hsixteen, fun _ _ => Traced.safe_pure _⟩

end

end Ntcip1202

/-! ## Each movement that should be reported -/

namespace Reported

section

variable {s : Ntcip1202} {msEpoch : UInt64} {r : Reported}

/-- Whether a later time is told, by the condition of the type's routine. -/
def laterTold (s : Ntcip1202) (r : Reported) : Option Bool :=
  if r.type = .pedestrian then
    s.ntcip1202Data.phaseTimes[r.phase]?.map fun other => other.spatPedMaxTimeToChange > 0
  else some (r.maxTenths > 0)

/-- The access the routines of lights do not make. -/
def InRange (r : Reported) : Prop :=
  1 ≤ r.phase ∧ r.phase ≤ 16 ∧ (r.type = .pedestrian → r.phase ≤ 15)

theorem movementWith_inj {timing timing' : TimeChangeDetails} :
    r.movementWith s timing = r.movementWith s timing' ↔ timing = timing' := by
  constructor
  · intro h
    have hevents := congrArg MovementState.stateTimeSpeed h
    injection hevents with hevent
    injection hevent
  · exact congrArg _

/-- The map leads from the phase to the entry that is reported. -/
theorem result_timeOf (hloaded : s.Loaded) (hdistinct : s.PhasesDistinct)
    (hentry : r.entry ∈ s.ntcip1202Data.phaseTimes) (hpos : 1 ≤ r.phase)
    (field : PhaseTime → UInt16) :
    (s.timeOf field r.phase).result = some (ntohs (field r.entry)) := by
  obtain ⟨i, hi⟩ := List.mem_iff_getElem?.mp hentry
  have hnumber : r.entry.phaseNumber > 0 := UInt8.lt_iff_toNat_lt.mpr hpos
  have hlookup := Ntcip1202.lookup_indexPhases hi hnumber fun j other hother =>
    hdistinct i j r.entry other hi hother hnumber
  unfold Ntcip1202.timeOf phase
  rw [UInt8.ofNat_toNat, hloaded, hlookup, Traced.result_bind]
  show Option.bind s.ntcip1202Data.phaseTimes[i]? _ = _
  rw [hi]
  rfl

theorem result_populated (hloaded : s.Loaded) (hdistinct : s.PhasesDistinct)
    (hentry : r.entry ∈ s.ntcip1202Data.phaseTimes) (hphase : 1 ≤ r.phase ∧ r.phase ≤ 16) :
    (s.populated msEpoch r).result = (r.laterTold s).map fun later =>
      r.movementWith s
        ⟨getAdjustedTime (ntohs (r.type.minTime r.entry)) msEpoch,
          if later then some (getAdjustedTime (ntohs (r.type.maxTime r.entry)) msEpoch)
          else none⟩ := by
  have htime := result_timeOf hloaded hdistinct hentry hphase.1
  obtain ⟨entry, type, group⟩ := r
  unfold laterTold
  cases type with
  | vehicle =>
      refine (Ntcip1202.result_populateLights hphase (htime _) (htime _)).trans ?_
      simp [movementWith, SignalType.state, detected, maxTenths, SignalType.minTime,
        SignalType.maxTime, UInt16.lt_iff_toNat_lt]
  | overlap =>
      refine (Ntcip1202.result_populateLights hphase (htime _) (htime _)).trans ?_
      simp [movementWith, SignalType.state, detected, maxTenths, SignalType.minTime,
        SignalType.maxTime, UInt16.lt_iff_toNat_lt]
  | pedestrian =>
      refine (Ntcip1202.result_populatePedestrianSignalGroup hphase rfl (htime _)
        (htime _)).trans ?_
      simp [movementWith, SignalType.state, detected, SignalType.minTime,
        SignalType.maxTime, Option.map_map, Function.comp_def]

/-- The condition of a routine is that of the entry itself for lights, and for pedestrians when the
entries agree. -/
theorem laterTold_eq_some_iff :
    r.laterTold s = some (decide (r.maxTenths > 0)) ↔ r.SameAtIndex s := by
  unfold laterTold SameAtIndex
  split_ifs with htype
  · have hmax : r.maxTenths > 0 ↔ r.entry.spatPedMaxTimeToChange > 0 := by
      rw [← Ntcip1202.ntohs_pos]
      unfold maxTenths
      rw [htype, gt_iff_lt, gt_iff_lt, UInt16.lt_iff_toNat_lt]
      rfl
    rw [Option.map_eq_some_iff]
    simp only [hmax, decide_eq_decide, htype, true_implies]
  · exact iff_of_true rfl fun h => absurd h htype

/-- A movement is right exactly when its marks fit and the condition looks at an entry that
agrees. -/
theorem populated_eq_movement_iff (hloaded : s.Loaded) (hdistinct : s.PhasesDistinct)
    (hentry : r.entry ∈ s.ntcip1202Data.phaseTimes) (hphase : 1 ≤ r.phase ∧ r.phase ≤ 16) :
    (s.populated msEpoch r).result = some (r.movement s msEpoch) ↔
      r.Fits msEpoch ∧ r.SameAtIndex s := by
  rw [result_populated hloaded hdistinct hentry hphase, ← laterTold_eq_some_iff,
    Option.map_eq_some_iff]
  have hmin := getAdjustedTime_eq_iff (ntohs (r.type.minTime r.entry)) msEpoch
  have hmax := getAdjustedTime_eq_iff (ntohs (r.type.maxTime r.entry)) msEpoch
  simp only [movement, movementWith_inj, TimeChangeDetails.mk.injEq]
  unfold Fits
  constructor
  · rintro ⟨later, hlater, hminEnd, hmaxEnd⟩
    have hfits := hmin.mp hminEnd
    split_ifs at hmaxEnd with hl hpos hpos
    · refine ⟨⟨hfits, fun _ => hmax.mp (Option.some.inj hmaxEnd)⟩, ?_⟩
      rw [hlater, hl, decide_eq_true hpos]
    · refine ⟨⟨hfits, fun h => absurd h hpos⟩, ?_⟩
      rw [hlater, Bool.eq_false_iff.mpr hl, decide_eq_false hpos]
  · rintro ⟨⟨hminFits, hmaxFits⟩, hlater⟩
    refine ⟨_, hlater, hmin.mpr hminFits, ?_⟩
    by_cases hpos : r.maxTenths > 0
    · rw [if_pos (decide_eq_true hpos), if_pos hpos, hmax.mpr (hmaxFits hpos)]
      rfl
    · rw [if_neg (by simpa using hpos), if_neg hpos]

theorem safe_populated (hloaded : s.Loaded) :
    (s.populated msEpoch r).Safe Access.InRange ↔ r.InRange := by
  obtain ⟨entry, type, group⟩ := r
  unfold InRange
  cases type with
  | vehicle =>
      exact (Ntcip1202.safe_populateLights hloaded).trans
        ⟨fun h => ⟨h.1, h.2, fun heq => nomatch heq⟩, fun h => ⟨h.1, h.2.1⟩⟩
  | overlap =>
      exact (Ntcip1202.safe_populateLights hloaded).trans
        ⟨fun h => ⟨h.1, h.2, fun heq => nomatch heq⟩, fun h => ⟨h.1, h.2.1⟩⟩
  | pedestrian =>
      exact (Ntcip1202.safe_populatePedestrianSignalGroup hloaded).trans
        ⟨fun h => ⟨h.1, Nat.le_succ_of_le h.2, fun _ => h.2⟩, fun h => ⟨h.1, h.2.2 rfl⟩⟩

/-- A routine whose accesses are in range fills the movement in. -/
theorem defined_populated (hloaded : s.Loaded) :
    (s.populated msEpoch r).Defined Access.InRange := by
  intro hsafe
  have hin := (safe_populated hloaded).mp hsafe
  have hphase : 1 ≤ r.phase ∧ r.phase ≤ 16 := ⟨hin.1, hin.2.1⟩
  have htime := fun field => Ntcip1202.result_timeOf_isSome hloaded field r.phase
  obtain ⟨entry, type, group⟩ := r
  cases type with
  | vehicle =>
      obtain ⟨tMin, htMin⟩ := htime PhaseTime.spatVehMinTimeToChange
      obtain ⟨tMax, htMax⟩ := htime PhaseTime.spatVehMaxTimeToChange
      exact ⟨_, Ntcip1202.result_populateLights hphase htMin htMax⟩
  | overlap =>
      obtain ⟨tMin, htMin⟩ := htime PhaseTime.spatOvlpMinTimeToChange
      obtain ⟨tMax, htMax⟩ := htime PhaseTime.spatOvpMaxTimeToChange
      exact ⟨_, Ntcip1202.result_populateLights hphase htMin htMax⟩
  | pedestrian =>
      obtain ⟨tMin, htMin⟩ := htime PhaseTime.spatPedMinTimeToChange
      obtain ⟨tMax, htMax⟩ := htime PhaseTime.spatPedMaxTimeToChange
      have hlt : entry.phaseNumber.toNat < phaseTimesSize := Nat.lt_succ_of_le (hin.2.2 rfl)
      obtain ⟨other, hother⟩ := Ntcip1202.result_phaseTimeOf_of_lt (s := s) hlt
      exact ⟨_, Ntcip1202.result_populatePedestrianSignalGroup hphase hother htMin htMax⟩

end

end Reported

/-! ## The message -/

namespace Ntcip1202

section

variable {s : Ntcip1202} {msEpoch : UInt64} {r : Reported}

theorem result_turn :
    (s.turn msEpoch r).result = (s.populated msEpoch r).result.map fun movement => [movement] := by
  unfold turn
  rw [Traced.result_bind]
  cases (s.populated msEpoch r).result <;> rfl

theorem safe_turn (hloaded : s.Loaded) :
    (s.turn msEpoch r).Safe Access.InRange ↔ r.InRange := by
  refine Traced.safe_bind.trans ?_
  rw [Reported.safe_populated hloaded]
  exact ⟨fun h => h.1, fun h => ⟨h, fun _ _ => Traced.safe_pure _⟩⟩

theorem defined_turn (hloaded : s.Loaded) : (s.turn msEpoch r).Defined Access.InRange :=
  Traced.defined_bind (Reported.defined_populated hloaded) fun _ _ => Traced.defined_pure _

theorem safe_movementsFor (hloaded : s.Loaded) (entry : PhaseTime) (type : SignalType)
    (msEpoch : UInt64) :
    (s.movementsFor entry.phaseNumber.toNat type.typeName (type.populate s) msEpoch).Safe
        Access.InRange ↔
      ∀ group ∈ s.groupsFor entry.phaseNumber.toNat type.typeName,
        (Reported.mk entry type group).InRange := by
  rw [movementsFor_eq, Traced.safe_collect fun _ _ => defined_turn hloaded]
  simp only [safe_turn hloaded, List.forall_mem_map]

theorem defined_movementsFor (hloaded : s.Loaded) (entry : PhaseTime) (type : SignalType) :
    (s.movementsFor entry.phaseNumber.toNat type.typeName (type.populate s) msEpoch).Defined
      Access.InRange := by
  rw [movementsFor_eq]
  exact Traced.defined_collect fun _ _ => defined_turn hloaded

/-- The turn of the outer loop for an entry. -/
def entryTurn (s : Ntcip1202) (msEpoch : UInt64) (m : Nat) : Traced Access (List MovementState) :=
  s.phaseTimeOf m >>= fun entry => do
    let phase := entry.phaseNumber.toNat
    let vehicles ← s.movementsFor phase "vehicle" s.populateVehicleSignalGroup msEpoch
    let pedestrians ← s.movementsFor phase "pedestrian" s.populatePedestrianSignalGroup msEpoch
    let overlaps ← s.movementsFor phase "overlap" s.populateOverlapSignalGroup msEpoch
    return vehicles ++ pedestrians ++ overlaps

theorem defined_entryTurn (hloaded : s.Loaded) (m : Nat) :
    (s.entryTurn msEpoch m).Defined Access.InRange := by
  have hindex : (s.phaseTimeOf m).Defined Access.InRange := fun hsafe =>
    result_phaseTimeOf_of_lt (safe_phaseTimeOf.mp hsafe)
  refine Traced.defined_bind hindex fun entry _ => ?_
  refine Traced.defined_bind (defined_movementsFor hloaded entry .vehicle) fun _ _ => ?_
  refine Traced.defined_bind (defined_movementsFor hloaded entry .pedestrian) fun _ _ => ?_
  refine Traced.defined_bind (defined_movementsFor hloaded entry .overlap) fun _ _ => ?_
  exact Traced.defined_pure _

theorem safe_entryTurn (hloaded : s.Loaded) {m : Nat} {entry : PhaseTime}
    (hentry : s.ntcip1202Data.phaseTimes[m]? = some entry) (hm : m < phaseTimesSize) :
    (s.entryTurn msEpoch m).Safe Access.InRange ↔ ∀ r ∈ s.reportedBy entry, r.InRange := by
  have hresult : (s.phaseTimeOf m).result = some entry := hentry
  have hvehicle := safe_movementsFor hloaded entry .vehicle msEpoch
  have hpedestrian := safe_movementsFor hloaded entry .pedestrian msEpoch
  have hoverlap := safe_movementsFor hloaded entry .overlap msEpoch
  have hall : (∀ r ∈ s.reportedBy entry, r.InRange) ↔ ∀ type : SignalType,
      ∀ group ∈ s.groupsFor entry.phaseNumber.toNat type.typeName,
        (Reported.mk entry type group).InRange := by
    unfold reportedBy
    simp only [List.mem_flatMap, List.mem_map]
    constructor
    · intro h type group hgroup
      exact h _ ⟨type, by cases type <;> simp, group, hgroup, rfl⟩
    · rintro h _ ⟨type, _, group, hgroup, rfl⟩
      exact h type group hgroup
  rw [hall]
  constructor
  · intro h
    have hrest := (Traced.safe_bind.mp h).2 entry hresult
    obtain ⟨vehicles, hvehicles⟩ := defined_movementsFor hloaded entry .vehicle
      (Traced.safe_bind.mp hrest).1
    have hrest' := (Traced.safe_bind.mp hrest).2 vehicles hvehicles
    obtain ⟨pedestrians, hpedestrians⟩ := defined_movementsFor hloaded entry .pedestrian
      (Traced.safe_bind.mp hrest').1
    have hrest'' := (Traced.safe_bind.mp hrest').2 pedestrians hpedestrians
    intro type
    cases type with
    | vehicle => exact hvehicle.mp (Traced.safe_bind.mp hrest).1
    | pedestrian => exact hpedestrian.mp (Traced.safe_bind.mp hrest').1
    | overlap => exact hoverlap.mp (Traced.safe_bind.mp hrest'').1
  · intro h
    refine Traced.safe_bind.mpr ⟨safe_phaseTimeOf.mpr hm, fun found hfound => ?_⟩
    cases Option.some.inj (hresult.symm.trans hfound)
    refine Traced.safe_bind.mpr ⟨hvehicle.mpr (h .vehicle), fun _ _ => ?_⟩
    refine Traced.safe_bind.mpr ⟨hpedestrian.mpr (h .pedestrian), fun _ _ => ?_⟩
    exact Traced.safe_bind.mpr ⟨hoverlap.mpr (h .overlap), fun _ _ => Traced.safe_pure _⟩

theorem safe_movements (hloaded : s.Loaded) (msEpoch : UInt64) :
    (s.movements msEpoch).Safe Access.InRange ↔ ∀ r ∈ s.reported, r.InRange := by
  have hcollect : s.movements msEpoch =
      Traced.collect (s.entryTurn msEpoch) (List.range phaseTimesSize) := rfl
  rw [hcollect, Traced.safe_collect fun m _ => defined_entryTurn hloaded m]
  have hlength := s.ntcip1202Data.length_phaseTimes
  unfold reported
  constructor
  · intro h r hr
    obtain ⟨entry, hentry, hr⟩ := List.mem_flatMap.mp hr
    obtain ⟨m, hm⟩ := List.mem_iff_getElem?.mp hentry
    have hlt : m < phaseTimesSize := hlength ▸ (List.getElem?_eq_some_iff.mp hm).1
    exact (safe_entryTurn hloaded hm hlt).mp (h m (List.mem_range.mpr hlt)) r hr
  · intro h m hm
    have hlt := List.mem_range.mp hm
    obtain ⟨entry, hentry⟩ := result_phaseTimeOf_of_lt (s := s) hlt
    refine (safe_entryTurn hloaded hentry hlt).mpr fun r hr => h r ?_
    exact List.mem_flatMap.mpr ⟨entry, List.mem_of_getElem? hentry, hr⟩

theorem safe_toJ2735SPAT (hloaded : s.Loaded) (intersectionName : String) (intersectionId : Int) :
    (s.toJ2735SPAT msEpoch intersectionName intersectionId).Safe Access.InRange ↔
      ∀ r ∈ s.reported, r.InRange := by
  rw [← safe_movements hloaded msEpoch]
  refine Traced.safe_bind.trans ?_
  exact ⟨fun h => h.1, fun h => ⟨h, fun _ _ => Traced.safe_pure _⟩⟩

theorem states_eq_iff {intersectionName : String} {intersectionId : Int}
    {states : List MovementState} :
    (∃ spat, (s.toJ2735SPAT msEpoch intersectionName intersectionId).result = some spat ∧
        spat.states = states) ↔
      (s.movements msEpoch).result = some states := by
  unfold toJ2735SPAT
  rw [Traced.result_bind]
  cases (s.movements msEpoch).result with
  | none => exact iff_of_false (fun ⟨_, h, _⟩ => nomatch h) (fun h => nomatch h)
  | some found =>
      constructor
      · rintro ⟨_, hspat, rfl⟩
        cases hspat
        rfl
      · rintro h
        cases h
        exact ⟨_, rfl, rfl⟩

end

/-- The message has, for each reported phase, type and group in turn, the movement with the state
by the phase's bits and the times of the phase's own entry exactly when each of these marks fits
64 bits of milliseconds and, for each pedestrian signal, the entry with the phase number as its
index exists and has a positive later time just when the phase's own entry does: the routine for
pedestrians looks there, past the map. -/
theorem states_exact_iff {s s' : Ntcip1202} {buff : List UInt8}
    (hcopied : s.copyBytesIntoNtcip1202 buff = .ok s') (hdistinct : s'.PhasesDistinct)
    (hmappings : ∀ it ∈ s'.signalGroupMappingList, 1 ≤ it.phaseId ∧ it.phaseId ≤ 16)
    (msEpoch : UInt64) (intersectionName : String) (intersectionId : Int) :
    (∃ spat, (s'.toJ2735SPAT msEpoch intersectionName intersectionId).result = some spat ∧
        spat.states = s'.reported.map (Reported.movement s' msEpoch)) ↔
      ∀ r ∈ s'.reported, r.Fits msEpoch ∧ r.SameAtIndex s' := by
  have hloaded := loaded_of_copyBytes hcopied
  rw [states_eq_iff, result_movements,
    Traced.result_collect_eq_map_iff fun _ => result_turn]
  refine forall₂_congr fun r hr => ?_
  -- the phase of an entry that is reported is one that is configured
  obtain ⟨hmapping, hphaseId⟩ := phaseId_of_reported hr
  have hrange := hmappings _ hmapping
  rw [hphaseId] at hrange
  exact Reported.populated_eq_movement_iff hloaded hdistinct (mem_reported.mp hr).1
    ⟨by omega, by omega⟩

/-- A crossing on one phase is configured. -/
def oneCrossing (phase : Int) : Ntcip1202 :=
  { signalGroupMappingList := [⟨9, phase, "pedestrian"⟩] }

theorem phasesDistinct_of_forall {s : Ntcip1202}
    (h : ∀ i < phaseTimesSize, ∀ j < phaseTimesSize,
      (s.ntcip1202Data.phaseTimes[j]?).map PhaseTime.phaseNumber =
        (s.ntcip1202Data.phaseTimes[i]?).map PhaseTime.phaseNumber →
      j = i ∨ (s.ntcip1202Data.phaseTimes[i]?).map PhaseTime.phaseNumber = some 0) :
    s.PhasesDistinct := by
  intro i j entry other hi hj hpos hsame
  have hin {k : Nat} {e : PhaseTime} (hk : s.ntcip1202Data.phaseTimes[k]? = some e) :
      k < phaseTimesSize :=
    s.ntcip1202Data.length_phaseTimes ▸ (List.getElem?_eq_some_iff.mp hk).1
  rcases h i (hin hi) j (hin hj) (by rw [hi, hj, Option.map_some, Option.map_some, hsame]) with
    heq | hzero
  · exact heq
  · rw [hi, Option.map_some, Option.some.injEq] at hzero
    rw [hzero] at hpos
    exact absurd hpos (UInt8.lt_irrefl 0)

/-- Three phases are configured, one also for pedestrians and one for an overlap. -/
def threeMappings : Ntcip1202 :=
  { signalGroupMappingList :=
      [⟨1, 2, "vehicle"⟩, ⟨2, 4, "vehicle"⟩, ⟨9, 2, "pedestrian"⟩, ⟨5, 4, "overlap"⟩,
        ⟨6, 6, "vehicle"⟩] }

/-- The phases 4, 2 and 6 in this order, with times. Phase 2 has green and may be crossed, the
others have red. -/
def threePhases : List UInt8 :=
  [0, 0] ++ [4, 0, 100, 0, 200, 0, 0, 0, 0, 0, 30, 0, 90] ++
    [2, 0, 50, 1, 44, 0, 20, 0, 80, 0, 0, 0, 0] ++ [6, 0, 10, 0, 20, 0, 5, 0, 15, 0, 0, 0, 0] ++
    List.replicate 169 0 ++ [0, 0x28, 0, 0, 0, 0x02, 0, 0x28, 0, 0, 0, 0x02, 0, 0x08, 0, 0, 0, 0]

theorem copyBytesIntoNtcip1202_of_length (s : Ntcip1202) {buff : List UInt8} (hne : buff ≠ [])
    (hlength : buff.length ≤ structSize) :
    s.copyBytesIntoNtcip1202 buff =
      .ok { s with
        ntcip1202Data := .ofMemory buff
        phaseToIndexMapping := indexPhases (Ntcip1202Ext.ofMemory buff).phaseTimes } := by
  have hempty : ¬ buff.isEmpty = true := by simpa using hne
  rw [copyBytesIntoNtcip1202, if_neg hempty, if_neg (not_lt.mpr hlength)]

/-- A tenth of a second before the hour. -/
theorem states_exact_iff_threePhases :
    ∃ s', threeMappings.copyBytesIntoNtcip1202 threePhases = .ok s' ∧
      ∃ spat, (s'.toJ2735SPAT 3599900 "" 0).result = some spat ∧
        spat.states = s'.reported.map (Reported.movement s' 3599900) ∧
        spat.states =
          [{ signalGroup := 2, stateTimeSpeed := [⟨.stopAndRemain, ⟨99, some 199⟩⟩] },
            { signalGroup := 5, stateTimeSpeed := [⟨.stopAndRemain, ⟨29, some 89⟩⟩] },
            { signalGroup := 1, stateTimeSpeed := [⟨.protectedMovementAllowed, ⟨49, some 299⟩⟩] },
            { signalGroup := 9, stateTimeSpeed := [⟨.permissiveMovementAllowed, ⟨19, some 79⟩⟩] },
            { signalGroup := 6, stateTimeSpeed := [⟨.stopAndRemain, ⟨9, some 19⟩⟩] }] := by
  obtain ⟨s', hs'⟩ : ∃ s', s' = { threeMappings with
      ntcip1202Data := .ofMemory threePhases
      phaseToIndexMapping := indexPhases (Ntcip1202Ext.ofMemory threePhases).phaseTimes } :=
    ⟨_, rfl⟩
  have hcopied : threeMappings.copyBytesIntoNtcip1202 threePhases = .ok s' := by
    rw [hs']
    exact copyBytesIntoNtcip1202_of_length _ (by decide) (by decide +kernel)
  have hreported : s'.reported =
      [⟨phaseTimeAt threePhases 2, .vehicle, ⟨2, 4, "vehicle"⟩⟩,
        ⟨phaseTimeAt threePhases 2, .overlap, ⟨5, 4, "overlap"⟩⟩,
        ⟨phaseTimeAt threePhases 15, .vehicle, ⟨1, 2, "vehicle"⟩⟩,
        ⟨phaseTimeAt threePhases 15, .pedestrian, ⟨9, 2, "pedestrian"⟩⟩,
        ⟨phaseTimeAt threePhases 28, .vehicle, ⟨6, 6, "vehicle"⟩⟩] := by
    subst hs'
    decide +kernel
  have hdistinct : s'.PhasesDistinct := by
    subst hs'
    exact phasesDistinct_of_forall (by decide +kernel)
  have hmappings : ∀ it ∈ s'.signalGroupMappingList, 1 ≤ it.phaseId ∧ it.phaseId ≤ 16 := by
    subst hs'
    decide +kernel
  -- pedestrians may cross phase 2, and the entry at index 2 has a later time as well
  have hindex : s'.ntcip1202Data.phaseTimes[2]? = some (phaseTimeAt threePhases 28) := by
    subst hs'
    rfl
  have hfits : ∀ r ∈ s'.reported, r.Fits 3599900 := by
    rw [hreported]
    unfold Reported.Fits
    decide +kernel
  have hsame : ∀ r ∈ s'.reported, r.SameAtIndex s' := by
    rw [hreported]
    simp only [List.forall_mem_cons]
    exact ⟨nofun, nofun, nofun, fun _ => ⟨_, hindex, by decide +kernel⟩, nofun, nofun⟩
  obtain ⟨spat, hspat, hstates⟩ := (states_exact_iff hcopied hdistinct hmappings 3599900 "" 0).mpr
    fun r hr => ⟨hfits r hr, hsame r hr⟩
  refine ⟨s', hcopied, spat, hspat, hstates, ?_⟩
  rw [hstates]
  subst hs'
  decide +kernel

/-- The only phase is 2, at index 0, with a later time of one second for pedestrians. The entry at
index 2 is unused: no later time is told. -/
theorem laterTime_lost :
    ∃ s', (oneCrossing 2).copyBytesIntoNtcip1202 [0, 0, 2, 0, 0, 0, 0, 0, 0, 0, 10] = .ok s' ∧
      s'.PhasesDistinct ∧
      (∀ it ∈ s'.signalGroupMappingList, 1 ≤ it.phaseId ∧ it.phaseId ≤ 16) ∧
      (∃ spat, (s'.toJ2735SPAT 0 "" 0).result = some spat ∧ spat.states =
        [{ signalGroup := 9, stateTimeSpeed := [⟨.dark, ⟨0, none⟩⟩] }]) ∧
      s'.reported.map (Reported.movement s' 0) =
        [{ signalGroup := 9, stateTimeSpeed := [⟨.dark, ⟨0, some 10⟩⟩] }] := by
  refine ⟨_, rfl, phasesDistinct_of_forall (by decide +kernel), by decide +kernel, ?_, ?_⟩
  · exact ⟨_, rfl, by decide +kernel⟩
  · decide +kernel

/-- Every access stays inside the array and the groups exactly when each phase number of an entry,
zero included, that a group is configured for is at least 1 and at most 16, and at most 15 for a
pedestrian signal. -/
theorem accesses_inRange_iff {s s' : Ntcip1202} {buff : List UInt8}
    (hcopied : s.copyBytesIntoNtcip1202 buff = .ok s') (msEpoch : UInt64)
    (intersectionName : String) (intersectionId : Int) :
    (s'.toJ2735SPAT msEpoch intersectionName intersectionId).Safe Access.InRange ↔
      ∀ r ∈ s'.reported, 1 ≤ r.phase ∧ r.phase ≤ 16 ∧ (r.type = .pedestrian → r.phase ≤ 15) :=
  safe_toJ2735SPAT (loaded_of_copyBytes hcopied) intersectionName intersectionId

theorem accesses_inRange_iff_threePhases :
    ∃ s', threeMappings.copyBytesIntoNtcip1202 threePhases = .ok s' ∧
      (s'.toJ2735SPAT 3599900 "" 0).Safe Access.InRange := by
  have hcopied := threeMappings.copyBytesIntoNtcip1202_of_length
    (show threePhases ≠ [] by decide) (by decide +kernel)
  exact ⟨_, hcopied, (accesses_inRange_iff hcopied 3599900 "" 0).mpr (by decide +kernel)⟩

/-- A group configured without a phase meets the unused entries: a shift by minus one. -/
theorem unused_entries_shift :
    ∃ s s', ({} : Ntcip1202).setSignalGroupMappingList
        [{ signalGroupId := some 4, typeName := some "vehicle" }] = .ok s ∧
      s.copyBytesIntoNtcip1202 [0] = .ok s' ∧
      ¬ (s'.toJ2735SPAT 0 "" 0).Safe Access.InRange := by
  refine ⟨_, _, rfl, rfl, fun h => ?_⟩
  have hshift := h (.shift (-1)) (by decide +kernel)
  exact absurd hshift.1 (by decide)

end Ntcip1202

end V2XHub.Spat
