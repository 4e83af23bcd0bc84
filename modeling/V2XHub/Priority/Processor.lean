import V2XHub.Lib.Rowwise
import V2XHub.Priority.Types
import Mathlib.Data.List.Sort

/-!
# The priority request processor

`PriorityRequestProcessor` owns the table of ten requests. It encodes the table for the controller,
decodes the controller's answer, applies that answer to the table and puts the table in order of
priority.

Rows have no identity but their position: the encoder, the answer and the status update all go by
row index, and prioritization is the only operation that moves rows.
-/

namespace V2XHub.Priority

open RequestStatus

/-! ## The table -/

/-- `std::array<PriorityRequestEntry, MAX_SERVICE_REQUESTS>`. -/
@[ext]
structure PriorityTable where
  rows : List PriorityRequestEntry
  length_rows : rows.length = maxServiceRequests
  deriving DecidableEq

namespace PriorityTable

/-- Ten idle rows. -/
def initial : PriorityTable where
  rows := List.replicate maxServiceRequests {}
  length_rows := List.length_replicate

instance : Inhabited PriorityTable := ⟨initial⟩

/-- A loop that rewrites every row in place. -/
def map (t : PriorityTable) (f : PriorityRequestEntry → PriorityRequestEntry) : PriorityTable where
  rows := t.rows.map f
  length_rows := by rw [List.length_map, t.length_rows]

/-- The same, knowing the index of the row. -/
def mapIdx (t : PriorityTable) (f : Nat → PriorityRequestEntry → PriorityRequestEntry) :
    PriorityTable where
  rows := t.rows.mapIdx f
  length_rows := by rw [List.length_mapIdx, t.length_rows]

/-- Assignment to the members of row `i`. -/
def modify (t : PriorityTable) (i : Nat) (f : PriorityRequestEntry → PriorityRequestEntry) :
    PriorityTable where
  rows := t.rows.modify i f
  length_rows := by rw [List.length_modify, t.length_rows]

@[simp] theorem rows_map (t : PriorityTable)
    (f : PriorityRequestEntry → PriorityRequestEntry) : (t.map f).rows = t.rows.map f := rfl

@[simp] theorem rows_mapIdx (t : PriorityTable)
    (f : Nat → PriorityRequestEntry → PriorityRequestEntry) :
    (t.mapIdx f).rows = t.rows.mapIdx f := rfl

@[simp] theorem rows_modify (t : PriorityTable) (i : Nat)
    (f : PriorityRequestEntry → PriorityRequestEntry) :
    (t.modify i f).rows = t.rows.modify i f := rfl

end PriorityTable

/-! ## Wire format of `prsServiceRequest` -/

def serviceRequestSize : Nat := 110

def serviceRequestRowSize : Nat := 10

/-- Offset of the `prsBusy` / `coBusy` byte. -/
def serviceRequestBusyOffset : Nat := maxServiceRequests * serviceRequestRowSize

/-- The four bytes of a time, most significant first. -/
def be32 (x : UInt32) : List UInt8 :=
  [(x >>> 24).toUInt8, (x >>> 16).toUInt8, (x >>> 8).toUInt8, x.toUInt8]

/-- The ten bytes of one row. -/
def encodeRow (entry : PriorityRequestEntry) : List UInt8 :=
  [entry.serviceStrategyNumber] ++ be32 entry.timeOfServiceDesiredInPRS ++
    be32 entry.timeOfEstimatedDepartureInPRS ++ [entry.statusInPRS.toByte]

@[simp] theorem length_encodeRow (entry : PriorityRequestEntry) :
    (encodeRow entry).length = serviceRequestRowSize := rfl

/-- The 110-byte payload: ten rows, the busy flag, nine reserved bytes. -/
def PriorityTable.encodeServiceRequest (t : PriorityTable) (prsBusy : Bool) : List UInt8 :=
  t.rows.flatMap encodeRow ++ [if prsBusy then 1 else 0] ++ List.replicate 9 0

/-- The last byte of row `i` of the payload is the status of row `i` of the table. -/
theorem PriorityTable.statusByte_encodeServiceRequest (t : PriorityTable) (prsBusy : Bool) {i : Nat}
    {e : PriorityRequestEntry} (he : t.rows[i]? = some e) :
    (t.encodeServiceRequest prsBusy)[i * serviceRequestRowSize + 9]? =
      some e.statusInPRS.toByte := by
  have hrows := Lib.getElem?_flatMap (k := 9) length_encodeRow (l := t.rows) (i := i) (by decide)
  rw [he, Option.bind_some] at hrows
  unfold PriorityTable.encodeServiceRequest
  rw [List.append_assoc, List.getElem?_append_left, hrows]
  · rfl
  · exact (List.getElem?_eq_some_iff.mp hrows).1

/-- Four bytes read back, most significant first. -/
def read32 (data : List UInt8) (offset : Nat) : UInt32 :=
  ((data.getD offset 0).toUInt32 <<< 24) ||| ((data.getD (offset + 1) 0).toUInt32 <<< 16) |||
    ((data.getD (offset + 2) 0).toUInt32 <<< 8) ||| (data.getD (offset + 3) 0).toUInt32

def decodeRow (data : List UInt8) (i : Nat) : CoServiceResponseRow :=
  let offset := i * serviceRequestRowSize
  { strategyRequested := data.getD offset 0
    requestedTimeOfServiceDesired := read32 data (offset + 1)
    requestedTimeOfEstimatedDeparture := read32 data (offset + 5)
    requestStatusInCO := RequestStatus.ofByte (data.getD (offset + 9) 0) }

/-- The CO's rows and its busy flag; `none` when the answer is too short. -/
def decodeCoServiceResponse (data : List UInt8) : Option (List CoServiceResponseRow × Bool) :=
  if data.length < serviceRequestSize then none
  else some ((List.range maxServiceRequests).map (decodeRow data),
    data.getD serviceRequestBusyOffset 0 != 0)

/-! ## Prioritization -/

namespace PriorityRequestEntry

/-- Steps a) and b) on one row: an expired ready or closed row is reset; an open one that wants
service after its time to live is closed. -/
def expire (now : UInt32) (entry : PriorityRequestEntry) : PriorityRequestEntry :=
  if entry.statusInPRS = idleNotValid then entry
  -- `reserviceError` and `activeOverride` are neither ready nor closed, and stay
  else if (entry.statusInPRS.isReadyX || entry.statusInPRS.isClosedX) &&
      entry.timeToLive > 0 && now ≥ entry.timeToLive then {}
  else if !entry.statusInPRS.isClosedX && entry.timeToLive > 0 &&
      entry.timeOfServiceDesiredInPRS > entry.timeToLive then
    { entry with statusInPRS := closedTimeToLiveError }
  else entry

/-- Higher priority: a smaller class type, or the same with a smaller class level. -/
def outranks (a b : PriorityRequestEntry) : Bool :=
  a.vehicleClassType < b.vehicleClassType ||
    (a.vehicleClassType = b.vehicleClassType && a.vehicleClassLevel < b.vehicleClassLevel)

/-- The comparator of the sort: class type, class level, then desired service time. -/
def sortsBefore (a b : PriorityRequestEntry) : Bool :=
  if a.vehicleClassType ≠ b.vehicleClassType then a.vehicleClassType < b.vehicleClassType
  else if a.vehicleClassLevel ≠ b.vehicleClassLevel then a.vehicleClassLevel < b.vehicleClassLevel
  else a.timeOfServiceDesiredInPRS < b.timeOfServiceDesiredInPRS

end PriorityRequestEntry

namespace PriorityTable

def expireStale (t : PriorityTable) (now : UInt32) : PriorityTable :=
  t.map (PriorityRequestEntry.expire now)

def hasActive (t : PriorityTable) : Bool :=
  t.rows.any fun entry => entry.statusInCO.isActiveX

/-- The first row the CO is serving is asked to give way when the first other queued row outranks
it. The search stops at the first queued row, whether or not it outranks the active one. -/
def checkForOverride (t : PriorityTable) : PriorityTable :=
  match t.rows.findIdx? fun entry => entry.statusInCO.isActiveX with
  | none => t
  | some active =>
      let activeEntry := t.rows.getD active {}
      let higherPriorityQueued :=
        match (t.rows.eraseIdx active).find? fun entry => entry.statusInPRS = readyQueued with
        | some entry => entry.outranks activeEntry
        | none => false
      if higherPriorityQueued then
        t.modify active fun entry => { entry with statusInPRS := activeOverride }
      -- nothing waits that outranks it any more: take the override back
      else if activeEntry.statusInPRS = activeOverride then
        t.modify active fun entry => { entry with statusInPRS := readyQueued }
      else t

/-- Indices of the rows with a given kind of status, in order. -/
def indices (t : PriorityTable) (p : RequestStatus → Bool) : List Nat :=
  (List.range maxServiceRequests).filter fun i => p (t.rows.getD i {}).statusInPRS

/-- The new order of the rows: queued ones sorted, overridden ones, the rest, idle ones. A sort of
at most sixteen elements is the library's insertion sort, which is stable. -/
def order (t : PriorityTable) : List Nat :=
  let queued := (t.indices fun s => s = readyQueued).insertionSort fun i j =>
    ¬ (t.rows.getD j {}).sortsBefore (t.rows.getD i {})
  let readyOverriddenRows := t.indices fun s => s = readyOverridden
  let closedEntries := t.indices fun s =>
    s ≠ readyQueued && s ≠ readyOverridden && s ≠ idleNotValid
  let idleEntries := t.indices fun s => s = idleNotValid
  queued ++ readyOverriddenRows ++ closedEntries ++ idleEntries

/-- Copy the rows in their new order; positions left over are idle. -/
def reorder (t : PriorityTable) : PriorityTable where
  rows :=
    let reordered := (t.order.take maxServiceRequests).map fun i => t.rows.getD i {}
    reordered ++ List.replicate (maxServiceRequests - reordered.length) {}
  length_rows := by
    simp only [List.length_append, List.length_map, List.length_take, List.length_replicate]
    omega

def runPrioritizationProcessing (t : PriorityTable) (now : UInt32) : PriorityTable :=
  let expired := t.expireStale now
  if expired.hasActive then expired.checkForOverride else expired.reorder

/-! ### What prioritization can do

Callers never look inside: a row is expired in place, then either one row the CO is serving gets
another status, or the rows are permuted. -/

/-- The four groups partition the row indices. -/
theorem perm_order (t : PriorityTable) : t.order.Perm (List.range maxServiceRequests) := by
  have hsort := List.perm_insertionSort
    (fun i j => ¬ (t.rows.getD j {}).sortsBefore (t.rows.getD i {}) = true)
    (t.indices fun s => s = readyQueued)
  refine (((hsort.append_right _).append_right _).append_right _).trans ?_
  -- count every index: the status of its row puts it in exactly one of the groups
  rw [List.perm_iff_count]
  intro i
  have hcount (p : RequestStatus → Bool) : (t.indices p).count i =
      if p (t.rows.getD i {}).statusInPRS then (List.range maxServiceRequests).count i else 0 := by
    split_ifs with h
    · exact List.count_filter h
    · refine List.count_eq_zero.mpr fun hmem => h ?_
      exact (List.mem_filter.mp hmem).2
  simp only [List.count_append, hcount]
  cases (t.rows.getD i {}).statusInPRS <;> simp

theorem map_range_getD (t : PriorityTable) :
    (List.range maxServiceRequests).map (fun i => t.rows.getD i {}) = t.rows := by
  apply List.ext_getElem
  · simp [t.length_rows]
  · intro i h₁ h₂
    simp [List.getD_eq_getElem?_getD, List.getElem?_eq_getElem h₂]

/-- **Reordering moves rows and does nothing else.** -/
theorem perm_reorder (t : PriorityTable) : t.reorder.rows.Perm t.rows := by
  have hlen : t.order.length = maxServiceRequests := by
    rw [t.perm_order.length_eq, List.length_range]
  have hrows : t.reorder.rows = t.order.map fun i => t.rows.getD i {} := by
    simp [reorder, List.take_of_length_le hlen.le, hlen]
  rw [hrows]
  conv_rhs => rw [← t.map_range_getD]
  exact t.perm_order.map _

/-- An override check leaves the table alone or gives one row the CO is serving a new status,
`activeOverride` or `readyQueued`. -/
theorem checkForOverride_cases (t : PriorityTable) :
    t.checkForOverride = t ∨
      ∃ active entry status, t.rows[active]? = some entry ∧ entry.statusInCO.isActiveX = true ∧
        (status = activeOverride ∨ status = readyQueued) ∧
        t.checkForOverride =
          t.modify active fun entry => { entry with statusInPRS := status } := by
  unfold checkForOverride
  split
  · exact .inl rfl
  next active hactive =>
    obtain ⟨hlt, hco, -⟩ := List.findIdx?_eq_some_iff_getElem.mp hactive
    have hget : t.rows[active]? = some t.rows[active] := List.getElem?_eq_getElem hlt
    simp only []
    split_ifs
    · exact .inr ⟨active, _, activeOverride, hget, hco, .inl rfl, rfl⟩
    · exact .inr ⟨active, _, readyQueued, hget, hco, .inr rfl, rfl⟩
    · exact .inl rfl

end PriorityTable

/-! ## Applying the controller's answer -/

/-- Index of a class type in the ten reservice timers; types outside 1..10 share the last. -/
def classIdx (classType : UInt8) : Nat :=
  if classType ≥ 1 && classType ≤ 10 then (classType - 1).toNat else 9

namespace PriorityRequestEntry

/-- The CO reports that it finished serving this row, and the PRS still has it open: the row is
closed and the reservice timer of its class is stamped. -/
def completes (entry : PriorityRequestEntry) (coStatus : RequestStatus) : Bool :=
  entry.statusInPRS ≠ idleNotValid && coStatus = closedCompleted &&
    (entry.statusInPRS.isReadyX || entry.statusInPRS = activeOverride)

/-- The status of one row after the CO reported `coStatus` for it. -/
def applyCoStatus (entry : PriorityRequestEntry) (coStatus : RequestStatus) :
    PriorityRequestEntry :=
  if entry.statusInPRS = idleNotValid then entry
  else
    let reported := { entry with statusInCO := coStatus }
    match coStatus with
    -- CO-owned states, tracked only in `statusInCO`
    | activeProcessing | activeAdjustNotNeeded | activeCancel | activeNotOverridden => reported
    | closedTimerError | closedStrategyError | closedFlash | closedCanceled =>
        if entry.statusInPRS.isReadyX then { reported with statusInPRS := coStatus } else reported
    | closedCompleted =>
        if entry.statusInPRS.isReadyX || entry.statusInPRS = activeOverride then
          { reported with statusInPRS := closedCompleted }
        else reported
    | readyOverridden | readyQueued =>
        if entry.statusInPRS = activeOverride then { reported with statusInPRS := coStatus }
        else reported
    | _ => reported

theorem applyCoStatus_of_idle {entry : PriorityRequestEntry}
    (h : entry.statusInPRS = idleNotValid) (coStatus : RequestStatus) :
    entry.applyCoStatus coStatus = entry := by
  rw [applyCoStatus, if_pos h]

/-- An open row records what the CO reports, and its own status stays or follows the CO into a ready
or closed state. -/
theorem applyCoStatus_of_open {entry : PriorityRequestEntry}
    (h : entry.statusInPRS ≠ idleNotValid) (coStatus : RequestStatus) :
    ∃ status, entry.applyCoStatus coStatus =
        { entry with statusInCO := coStatus, statusInPRS := status } ∧
      (status = entry.statusInPRS ∨ status.isReadyX = true ∨ status.isClosedX = true) := by
  rw [applyCoStatus, if_neg h]
  cases coStatus
  case closedTimerError | closedStrategyError | closedFlash | closedCanceled | closedCompleted =>
    simp only []
    split_ifs
    · exact ⟨_, rfl, .inr (.inr rfl)⟩
    · exact ⟨_, rfl, .inl rfl⟩
  case readyOverridden | readyQueued =>
    simp only []
    split_ifs
    · exact ⟨_, rfl, .inr (.inl rfl)⟩
    · exact ⟨_, rfl, .inl rfl⟩
  all_goals exact ⟨_, rfl, .inl rfl⟩

end PriorityRequestEntry

/-! ## The processor -/

structure PriorityRequestProcessor where
  table : PriorityTable := .initial
  reserviceLastCompletedTime : List UInt32 := List.replicate 10 0
  laneStrategyMap : AList fun _ : Int × Int => UInt8 := ∅

namespace PriorityRequestProcessor

/-- The status the CO reports for row `i`. -/
def coStatusOf (coRows : List CoServiceResponseRow) (i : Nat) : RequestStatus :=
  (coRows.getD i {}).requestStatusInCO

/-- The reservice timers after the loop over the rows: a row that completes stamps the timer of its
class. -/
def stampCompleted (coRows : List CoServiceResponseRow) (now : UInt32)
    (rows : List (PriorityRequestEntry × Nat)) (times : List UInt32) : List UInt32 :=
  rows.foldl
    (fun times (entry, i) =>
      if entry.completes (coStatusOf coRows i) then
        times.set (classIdx entry.vehicleClassType) now
      else times)
    times

def applyCoStatusUpdates (p : PriorityRequestProcessor) (coRows : List CoServiceResponseRow)
    (now : UInt32) : PriorityRequestProcessor :=
  { p with
    table := p.table.mapIdx fun i entry => entry.applyCoStatus (coStatusOf coRows i)
    reserviceLastCompletedTime :=
      stampCompleted coRows now p.table.rows.zipIdx p.reserviceLastCompletedTime }

def runPrioritizationProcessing (p : PriorityRequestProcessor) (now : UInt32) :
    PriorityRequestProcessor :=
  { p with table := p.table.runPrioritizationProcessing now }

def lookupStrategy (p : PriorityRequestProcessor) (intersectionID lane : Int) : Option UInt8 :=
  if lane ≥ 0 then p.laneStrategyMap.lookup (intersectionID, lane) else none

def clearLaneStrategyMap (p : PriorityRequestProcessor) : PriorityRequestProcessor :=
  { p with laneStrategyMap := ∅ }

def setLaneStrategy (p : PriorityRequestProcessor) (intersectionID lane : Int)
    (strategyNumber : UInt8) : PriorityRequestProcessor :=
  { p with laneStrategyMap := p.laneStrategyMap.insert (intersectionID, lane) strategyNumber }

/-- Row `i` of the answer is applied to row `i` of the table. -/
theorem getElem?_applyCoStatusUpdates {p : PriorityRequestProcessor}
    (coRows : List CoServiceResponseRow) (now : UInt32) {i : Nat} {e : PriorityRequestEntry}
    (he : p.table.rows[i]? = some e) :
    (p.applyCoStatusUpdates coRows now).table.rows[i]? =
      some (e.applyCoStatus (coStatusOf coRows i)) := by
  simp [applyCoStatusUpdates, he]

theorem getElem?_stampCompleted {coRows : List CoServiceResponseRow} {now : UInt32} {k : Nat}
    {rows : List (PriorityRequestEntry × Nat)} {times : List UInt32}
    (h : ∀ x ∈ rows, x.1.completes (coStatusOf coRows x.2) = true →
      classIdx x.1.vehicleClassType ≠ k) :
    (stampCompleted coRows now rows times)[k]? = times[k]? := by
  unfold stampCompleted
  induction rows generalizing times with
  | nil => rfl
  | cons x rows ih =>
      obtain ⟨hx, hrest⟩ := List.forall_mem_cons.mp h
      rw [List.foldl_cons, ih hrest]
      simp only []
      split_ifs with hc
      · exact List.getElem?_set_ne (hx hc)
      · rfl

/-- A timer changes only when a row of its class completes. -/
theorem completes_of_timer_ne {p : PriorityRequestProcessor} {coRows : List CoServiceResponseRow}
    {now : UInt32} {k : Nat}
    (h : (p.applyCoStatusUpdates coRows now).reserviceLastCompletedTime[k]? ≠
      p.reserviceLastCompletedTime[k]?) :
    ∃ (i : Nat) (e : PriorityRequestEntry), p.table.rows[i]? = some e ∧
      e.completes (coStatusOf coRows i) = true ∧ classIdx e.vehicleClassType = k := by
  by_contra hnone
  push Not at hnone
  refine h (getElem?_stampCompleted fun x hx hc => ?_)
  exact hnone x.2 x.1 (List.mem_zipIdx_iff_getElem?.mp hx) hc

/-- Epoch seconds of the last completed request of a class type. -/
def reserviceLastCompleted (p : PriorityRequestProcessor) (classType : UInt8) : UInt32 :=
  p.reserviceLastCompletedTime.getD (classIdx classType) 0

end PriorityRequestProcessor

end V2XHub.Priority
