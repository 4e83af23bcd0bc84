import V2XHub.Lib.Tables
import V2XHub.Priority.Builder

/-!
# Which row a package takes

A package is written into the row that already holds its request, or into the first idle row. A row
holds the request when it agrees on request id, vehicle, class and strategy — a strategy number that
the package has only if one is configured for its lane, and that says nothing about the
intersection.

**Main results**

* `openRows_repeated_iff`: exactly when a repeated package takes no further row.
* `intersectionsApart_iff`: exactly when packages for different intersections leave each other's
  rows alone.
-/

namespace V2XHub.Priority

open RequestStatus Lib

/-! ## Where the package goes -/

section

variable {p : PriorityRequestProcessor} {pkg : SignalRequestPackage} {input : PrsPackageInput}
variable {table : PriorityTable}

/-- The first idle row. -/
def PriorityTable.firstIdle (t : PriorityTable) : Option Nat :=
  t.rows.findIdx? fun entry => entry.statusInPRS = idleNotValid

theorem applyPrsPackage_of_held {existing : Nat}
    (h : table.rows.findIdx? (holdsRequest p pkg input) = some existing) :
    applyPrsPackage p pkg input table =
      (table.modify existing (updatedEntry pkg input),
        { action := .updated, slotIndex := existing }) := by
  unfold applyPrsPackage
  rw [h]

theorem applyPrsPackage_of_full
    (hnone : table.rows.findIdx? (holdsRequest p pkg input) = none)
    (hidle : table.firstIdle = none) :
    applyPrsPackage p pkg input table = (table, { action := .tableFull }) := by
  unfold PriorityTable.firstIdle at hidle
  unfold applyPrsPackage
  rw [hnone, hidle]

/-- The table after the request was stored in row `slot`. -/
def storedTable (p : PriorityRequestProcessor) (pkg : SignalRequestPackage)
    (input : PrsPackageInput) (table : PriorityTable) (slot : Nat) : PriorityTable :=
  let stored := table.modify slot (storedEntry p pkg input)
  if storedStatus p pkg input = readyQueued ∧ input.prsBusy = true then
    overrideActive input stored slot
  else stored

theorem applyPrsPackage_of_idle {slot : Nat}
    (hnone : table.rows.findIdx? (holdsRequest p pkg input) = none)
    (hidle : table.firstIdle = some slot) :
    (applyPrsPackage p pkg input table).1 = storedTable p pkg input table slot ∧
      (applyPrsPackage p pkg input table).2.slotIndex = slot ∧
      (applyPrsPackage p pkg input table).2.action ≠ .tableFull := by
  unfold PriorityTable.firstIdle at hidle
  unfold applyPrsPackage storedTable
  rw [hnone, hidle]
  simp only []
  by_cases hready : storedStatus p pkg input = readyQueued
  · by_cases hbusy : input.prsBusy = true
    · simp [hready, hbusy]
    · simp [hready, hbusy]
  · simp [hready]

theorem storedStatus_ne_idle : storedStatus p pkg input ≠ idleNotValid := by
  unfold storedStatus
  split
  · decide
  · split_ifs <;> decide

variable (p pkg input) in
/-- Row `slot` after the request was stored there. -/
theorem getElem?_storedTable_self {slot : Nat} {entry : PriorityRequestEntry}
    (h : table.rows[slot]? = some entry) :
    (storedTable p pkg input table slot).rows[slot]? = some (storedEntry p pkg input entry) := by
  unfold storedTable
  simp only []
  split_ifs
  · simp [overrideActive, h]
  · simp [h]

variable (p pkg input) in
/-- Another row: it stays as it is, unless the CO serves it for a vehicle of lower priority. -/
theorem getElem?_storedTable_ne {slot i : Nat} {entry : PriorityRequestEntry} (hne : i ≠ slot)
    (h : table.rows[i]? = some entry) :
    (storedTable p pkg input table slot).rows[i]? = some entry ∨
      overriddenBy input entry = true ∧ (storedTable p pkg input table slot).rows[i]? =
        some { entry with statusInPRS := activeOverride } := by
  unfold storedTable
  simp only []
  split_ifs
  · cases hover : overriddenBy input entry with
    | true => exact .inr ⟨rfl, by simp [overrideActive, hne, hne.symm, h, hover]⟩
    | false => exact .inl (by simp [overrideActive, hne, hne.symm, h, hover])
  · exact .inl (by simp [hne.symm, h])

/-- A refused request marks no row for override. -/
theorem storedTable_refused (h : strategyFor p pkg = none) (slot : Nat) :
    storedTable p pkg input table slot = table.modify slot (storedEntry p pkg input) := by
  have hrefused : ¬ (storedStatus p pkg input = readyQueued ∧ input.prsBusy = true) := by
    simp [storedStatus, h]
  unfold storedTable
  simp only []
  exact if_neg hrefused

/-- A row found for a request is open. -/
theorem open_of_holdsRequest {entry : PriorityRequestEntry}
    (h : holdsRequest p pkg input entry = true) : entry.statusInPRS ≠ idleNotValid := by
  intro hidle
  simp [holdsRequest, hidle] at h

variable (pkg input) in
/-- A row after it was updated. -/
theorem getElem?_updated {existing : Nat} {entry : PriorityRequestEntry}
    (h : table.rows[existing]? = some entry) :
    (table.modify existing (updatedEntry pkg input)).rows[existing]? =
      some (updatedEntry pkg input entry) := by
  rw [PriorityTable.rows_modify, List.getElem?_modify_eq, h]
  rfl

end

/-! ## One request, one slot -/

namespace PriorityTable

/-- The number of rows that are not idle. -/
def openRows (t : PriorityTable) : Nat :=
  t.rows.countP fun entry => entry.statusInPRS ≠ idleNotValid

/-- The number of idle rows. -/
def idleRows (t : PriorityTable) : Nat :=
  t.rows.countP fun entry => entry.statusInPRS = idleNotValid

theorem openRows_add_idleRows (t : PriorityTable) :
    t.openRows + t.idleRows = maxServiceRequests := by
  have hlength := List.length_eq_countP_add_countP
    (fun entry : PriorityRequestEntry => decide (entry.statusInPRS = idleNotValid)) (l := t.rows)
  rw [t.length_rows] at hlength
  rw [hlength, Nat.add_comm]
  simp [openRows, idleRows]

theorem idleRows_eq_zero {t : PriorityTable} (h : t.firstIdle = none) : t.idleRows = 0 := by
  rw [firstIdle, List.findIdx?_eq_none_iff] at h
  rw [idleRows, List.countP_eq_zero]
  intro entry hentry
  simp [h entry hentry]

theorem getElem?_firstIdle {t : PriorityTable} {slot : Nat} (h : t.firstIdle = some slot) :
    ∃ entry, t.rows[slot]? = some entry ∧ entry.statusInPRS = idleNotValid := by
  obtain ⟨hlt, hidle, -⟩ := List.findIdx?_eq_some_iff_getElem.mp h
  exact ⟨t.rows[slot], List.getElem?_eq_getElem hlt, of_decide_eq_true hidle⟩

end PriorityTable

section

variable {p : PriorityRequestProcessor} {pkg : SignalRequestPackage}
variable {input input' : PrsPackageInput} {table : PriorityTable}

/-- Two inputs name the same requester: vehicle and class agree, whatever the times. -/
structure SameRequester (input input' : PrsPackageInput) : Prop where
  vehicleID : input'.vehicleID = input.vehicleID
  classType : input'.classType = input.classType
  classLevel : input'.classLevel = input.classLevel

theorem SameRequester.holdsRequest (h : SameRequester input input') :
    holdsRequest p pkg input' = holdsRequest p pkg input := by
  funext entry
  unfold Priority.holdsRequest
  rw [h.vehicleID, h.classType, h.classLevel]

/-- An update opens and closes no row. -/
theorem openRows_updated {existing : Nat}
    (h : table.rows.findIdx? (holdsRequest p pkg input) = some existing) :
    (applyPrsPackage p pkg input table).1.openRows = table.openRows := by
  rw [applyPrsPackage_of_held h]
  obtain ⟨hlt, -⟩ := List.findIdx?_eq_some_iff_getElem.mp h
  exact countP_modify_of_eq (List.getElem?_eq_getElem hlt) rfl

/-- With a strategy, the row the package was stored in holds its request. -/
theorem holdsRequest_storedEntry (h : (strategyFor p pkg).isSome = true)
    (entry : PriorityRequestEntry) :
    holdsRequest p pkg input (storedEntry p pkg input entry) = true := by
  obtain ⟨strategy, hstrategy⟩ := Option.isSome_iff_exists.mp h
  simp [holdsRequest, storedEntry, hstrategy, storedStatus_ne_idle]

variable (input table) in
/-- With a strategy, a package leaves its request in the table, or found the table full. -/
theorem held_or_full (h : (strategyFor p pkg).isSome = true) :
    (∃ existing,
        (applyPrsPackage p pkg input table).1.rows.findIdx? (holdsRequest p pkg input) =
          some existing) ∨
      (applyPrsPackage p pkg input table).1 = table ∧
        table.rows.findIdx? (holdsRequest p pkg input) = none ∧ table.firstIdle = none := by
  have hheld {rows : List PriorityRequestEntry} {i : Nat} {entry : PriorityRequestEntry}
      (hget : rows[i]? = some entry) (hholds : holdsRequest p pkg input entry = true) :
      ∃ existing, rows.findIdx? (holdsRequest p pkg input) = some existing := by
    rw [← Option.isSome_iff_exists, List.findIdx?_isSome, List.any_eq_true]
    exact ⟨entry, List.mem_of_getElem? hget, hholds⟩
  cases hfind : table.rows.findIdx? (holdsRequest p pkg input) with
  | some existing =>
      left
      obtain ⟨hlt, hholds, -⟩ := List.findIdx?_eq_some_iff_getElem.mp hfind
      rw [applyPrsPackage_of_held hfind]
      exact hheld (getElem?_updated pkg input (List.getElem?_eq_getElem hlt)) hholds
  | none =>
      cases hidle : table.firstIdle with
      | none => exact .inr ⟨by rw [applyPrsPackage_of_full hfind hidle], rfl, rfl⟩
      | some slot =>
          left
          obtain ⟨entry, hentry, -⟩ := PriorityTable.getElem?_firstIdle hidle
          rw [(applyPrsPackage_of_idle hfind hidle).1]
          have hstored := getElem?_storedTable_self p pkg input hentry
          exact hheld hstored (holdsRequest_storedEntry h entry)

/-- Without a strategy, a package finds no row with its request and takes an idle row if there is
one. -/
theorem idleRows_refused (h : strategyFor p pkg = none) :
    (applyPrsPackage p pkg input table).1.idleRows = table.idleRows - 1 := by
  have hnone : table.rows.findIdx? (holdsRequest p pkg input) = none := by
    rw [List.findIdx?_eq_none_iff]
    intro entry _
    simp [holdsRequest, h]
  have hstatus : storedStatus p pkg input = closedStrategyError := by
    unfold storedStatus
    rw [h]
  cases hidle : table.firstIdle with
  | none =>
      rw [applyPrsPackage_of_full hnone hidle, PriorityTable.idleRows_eq_zero hidle]
  | some slot =>
      obtain ⟨entry, hentry, hidleEntry⟩ := PriorityTable.getElem?_firstIdle hidle
      rw [(applyPrsPackage_of_idle hnone hidle).1, storedTable_refused h]
      have hcount := countP_modify_add_one (f := storedEntry p pkg input)
        (p := fun entry => entry.statusInPRS = idleNotValid) hentry (by simp [hidleEntry])
        (by simp [storedEntry, hstatus])
      exact Nat.eq_sub_of_add_eq hcount

/-- **One request, one slot**: a repeated package takes no further row exactly when a strategy is
configured for its lane, or there was no second idle row to take. -/
theorem openRows_repeated_iff (p : PriorityRequestProcessor) (pkg : SignalRequestPackage)
    (table : PriorityTable) (hsame : SameRequester input input') :
    (applyPrsPackage p pkg input' (applyPrsPackage p pkg input table).1).1.openRows =
        (applyPrsPackage p pkg input table).1.openRows ↔
      (strategyFor p pkg).isSome = true ∨ table.idleRows ≤ 1 := by
  cases hstrategy : strategyFor p pkg with
  | some strategy =>
      have hsome : (strategyFor p pkg).isSome = true := by rw [hstrategy]; rfl
      refine iff_of_true ?_ (.inl rfl)
      rcases held_or_full input table hsome with
        ⟨existing, hheld⟩ | ⟨hunchanged, hnone, hidle⟩
      · rw [← hsame.holdsRequest] at hheld
        exact openRows_updated hheld
      · rw [← hsame.holdsRequest] at hnone
        rw [hunchanged, applyPrsPackage_of_full hnone hidle]
  | none =>
      have hbefore := table.openRows_add_idleRows
      have hfirst := (applyPrsPackage p pkg input table).1.openRows_add_idleRows
      have hsecond := (applyPrsPackage p pkg input'
        (applyPrsPackage p pkg input table).1).1.openRows_add_idleRows
      rw [idleRows_refused hstrategy] at hfirst hsecond
      rw [idleRows_refused hstrategy] at hsecond
      simp only [Option.isSome_none, Bool.false_eq_true, false_or]
      omega

end

/-! ### A lane without a strategy

A refused request takes a row and is never found there again. -/

/-- A request for lane 1 of intersection `intersectionID`. -/
def lanePkg (intersectionID : Int) : SignalRequestPackage where
  requestID := 7
  intersectionID := intersectionID
  requestType := .priorityRequest
  inBoundLane := .lane 1

/-- One vehicle's input at `nowEpoch`. -/
def vehicleInput (nowEpoch : Int) : PrsPackageInput where
  vehicleID := [0x11, 0x22, 0x33, 0x44]
  classType := 3
  classLevel := 1
  nowEpoch := nowEpoch
  timeToLiveSec := 60
  estimatedArrivalTime := 10
  estimatedDepartureTime := 20

/-- Strategy 3 for lane 1. -/
def laneStrategy : PriorityRequestProcessor :=
  ({} : PriorityRequestProcessor).setLaneStrategy 9709 1 3

theorem openRows_repeated_lanePkg :
    (applyPrsPackage laneStrategy (lanePkg 9709) (vehicleInput 1005)
          (applyPrsPackage laneStrategy (lanePkg 9709) (vehicleInput 1000) .initial).1).1.openRows =
        (applyPrsPackage laneStrategy (lanePkg 9709) (vehicleInput 1000) .initial).1.openRows ∧
      ¬ (applyPrsPackage {} (lanePkg 9709) (vehicleInput 1005)
            (applyPrsPackage {} (lanePkg 9709) (vehicleInput 1000) .initial).1).1.openRows =
          (applyPrsPackage {} (lanePkg 9709) (vehicleInput 1000) .initial).1.openRows := by
  have hsame : SameRequester (vehicleInput 1000) (vehicleInput 1005) := ⟨rfl, rfl, rfl⟩
  constructor
  · exact (openRows_repeated_iff laneStrategy (lanePkg 9709) .initial hsame).mpr
      (.inl (by decide))
  · intro hrows
    have hstrategy := (openRows_repeated_iff {} (lanePkg 9709) .initial hsame).mp hrows
    exact absurd hstrategy (by decide)

theorem not_one_slot_lanePkg :
    (applyPrsPackage {} (lanePkg 9709) (vehicleInput 1000) .initial).1.openRows = 1 ∧
      (applyPrsPackage {} (lanePkg 9709) (vehicleInput 1005)
        (applyPrsPackage {} (lanePkg 9709) (vehicleInput 1000) .initial).1).1.openRows = 2 := by
  decide

/-! ## Requests for different intersections -/

section

variable (p : PriorityRequestProcessor) (pkg : SignalRequestPackage) (input : PrsPackageInput)

/-- The row already has the times and the sequence number the package brings. -/
def AlreadyRecorded (entry : PriorityRequestEntry) : Prop :=
  entry.timeOfServiceDesiredInPRS = (input.serviceTimes pkg).1 ∧
    entry.timeOfEstimatedDepartureInPRS = (input.serviceTimes pkg).2 ∧
    entry.sequenceNumber = input.newSeq

/-- No open row of another intersection got other service times or another sequence number. -/
def OthersKept (intersectionID : Int) (before after : PriorityTable) : Prop :=
  ∀ (i : Nat) (entry : PriorityRequestEntry), before.rows[i]? = some entry →
    entry.statusInPRS ≠ idleNotValid → entry.intersectionID ≠ intersectionID →
      ∃ entry' : PriorityRequestEntry, after.rows[i]? = some entry' ∧
        entry'.timeOfServiceDesiredInPRS = entry.timeOfServiceDesiredInPRS ∧
        entry'.timeOfEstimatedDepartureInPRS = entry.timeOfEstimatedDepartureInPRS ∧
        entry'.sequenceNumber = entry.sequenceNumber

/-- The row the package updates, if any, is of the package's intersection or has nothing new to
learn. -/
def UpdatesOwnRow (table : PriorityTable) : Prop :=
  ∀ (existing : Nat) (entry : PriorityRequestEntry),
    table.rows.findIdx? (holdsRequest p pkg input) = some existing →
      table.rows[existing]? = some entry →
        entry.intersectionID = pkg.intersectionID ∨ AlreadyRecorded pkg input entry

variable {p pkg input} {table : PriorityTable}

theorem othersKept_storedTable {slot : Nat} (hidle : table.firstIdle = some slot) :
    OthersKept pkg.intersectionID table (storedTable p pkg input table slot) := by
  intro i entry hentry hopen _
  have hne : i ≠ slot := by
    rintro rfl
    obtain ⟨entry', hentry', hidle'⟩ := PriorityTable.getElem?_firstIdle hidle
    rw [hentry] at hentry'
    cases hentry'
    exact hopen hidle'
  rcases getElem?_storedTable_ne p pkg input hne hentry with hsame | ⟨-, hmarked⟩
  · exact ⟨entry, hsame, rfl, rfl, rfl⟩
  · exact ⟨_, hmarked, rfl, rfl, rfl⟩

/-- The frame of a package: rows of other intersections are kept exactly when it updates its own. -/
theorem updatesOwnRow_iff :
    OthersKept pkg.intersectionID table (applyPrsPackage p pkg input table).1 ↔
      UpdatesOwnRow p pkg input table := by
  cases hfind : table.rows.findIdx? (holdsRequest p pkg input) with
  | some existing =>
      obtain ⟨hlt, hholds, -⟩ := List.findIdx?_eq_some_iff_getElem.mp hfind
      have hget := List.getElem?_eq_getElem hlt
      have hopen := open_of_holdsRequest hholds
      rw [applyPrsPackage_of_held hfind]
      constructor
      · intro hkept existing' entry hfind' hentry
        rw [hfind] at hfind'
        cases hfind'
        rw [hget] at hentry
        cases hentry
        -- a row of another intersection keeps its times and its number only if they are sent again
        by_contra hother
        push Not at hother
        obtain ⟨entry', hentry', htsd, hted, hseq⟩ := hkept _ _ hget hopen hother.1
        simp only [PriorityTable.rows_modify, List.getElem?_modify_eq, hget] at hentry'
        cases hentry'
        exact hother.2 ⟨htsd.symm, hted.symm, hseq.symm⟩
      · intro hown i entry hentry _ hother
        by_cases hi : existing = i
        · subst hi
          obtain hsame | ⟨htsd, hted, hseq⟩ := hown existing entry hfind hentry
          · exact absurd hsame hother
          · refine ⟨updatedEntry pkg input entry, ?_, htsd.symm, hted.symm, hseq.symm⟩
            simp [hentry]
        · refine ⟨entry, ?_, rfl, rfl, rfl⟩
          simp [hi, hentry]
  | none =>
      -- a new request is stored in an idle row or nowhere
      refine iff_of_true ?_ (fun _ _ hsome _ => by rw [hfind] at hsome; cases hsome)
      cases hidle : table.firstIdle with
      | none =>
          rw [applyPrsPackage_of_full hfind hidle]
          exact fun i entry hentry _ _ => ⟨entry, hentry, rfl, rfl, rfl⟩
      | some slot =>
          rw [(applyPrsPackage_of_idle hfind hidle).1]
          exact othersKept_storedTable hidle

end

/-- Two packages of one vehicle with one request id, for two intersections. -/
structure TwoIntersections (pkg pkg' : SignalRequestPackage) (input input' : PrsPackageInput) :
    Prop where
  requestID : pkg'.requestID = pkg.requestID
  intersectionID : pkg'.intersectionID ≠ pkg.intersectionID
  vehicleID : input'.vehicleID = input.vehicleID

section

variable (p : PriorityRequestProcessor) (pkg pkg' : SignalRequestPackage)
variable (input input' : PrsPackageInput) (table : PriorityTable)

/-- Of two packages, one after the other, both are stored only in two different rows. -/
def TwoRows : Prop :=
  let first := applyPrsPackage p pkg input table
  let second := applyPrsPackage p pkg' input' first.1
  first.2.action ≠ .tableFull → second.2.action ≠ .tableFull →
    first.2.slotIndex ≠ second.2.slotIndex

/-- The second package is taken for the request of the first. With a strategy for the first lane,
when the second lane has the same; without one, when the idle row the first request is put into
still carries the second lane's strategy and no row before it holds the second request. -/
def TakenForFirst : Prop :=
  (input'.classType = input.classType ∧ input'.classLevel = input.classLevel) ∧
    match strategyFor p pkg with
    | some strategy =>
        strategyFor p pkg' = some strategy ∧
          ((table.rows.findIdx? (holdsRequest p pkg input)).isSome = true ∨
            table.firstIdle.isSome = true)
    | none =>
        ∃ slot entry, table.firstIdle = some slot ∧ table.rows[slot]? = some entry ∧
          strategyFor p pkg' = some entry.serviceStrategyNumber ∧
          ∀ i other, i < slot → table.rows[i]? = some other →
            holdsRequest p pkg' input' other = false

variable {p pkg pkg' input input' table}

theorem TwoIntersections.holdsRequest (h : TwoIntersections pkg pkg' input input')
    (hclass : input'.classType = input.classType ∧ input'.classLevel = input.classLevel)
    (hstrategy : strategyFor p pkg' = strategyFor p pkg) :
    holdsRequest p pkg' input' = holdsRequest p pkg input := by
  funext entry
  unfold Priority.holdsRequest
  rw [h.requestID, h.vehicleID, hclass.1, hclass.2, hstrategy]

/-- A row with the first request holds the second exactly when class and strategy agree. -/
theorem TwoIntersections.holdsRequest_iff (h : TwoIntersections pkg pkg' input input')
    (entry : PriorityRequestEntry) (hopen : entry.statusInPRS ≠ idleNotValid)
    (hrequest : entry.requestID = UInt8.ofInt pkg.requestID)
    (hvehicle : entry.vehicleID = input.vehicleID)
    (htype : entry.vehicleClassType = input.classType)
    (hlevel : entry.vehicleClassLevel = input.classLevel) :
    Priority.holdsRequest p pkg' input' entry = true ↔
      (input'.classType = input.classType ∧ input'.classLevel = input.classLevel) ∧
        strategyFor p pkg' = some entry.serviceStrategyNumber := by
  unfold Priority.holdsRequest
  rw [h.requestID, h.vehicleID, hrequest, hvehicle, htype, hlevel]
  simp only [hopen, ne_eq, not_false_eq_true, decide_true, Bool.and_true, Bool.true_and,
    Bool.and_eq_true, decide_eq_true_eq, eq_comm (a := input.classType),
    eq_comm (a := input.classLevel)]

/-- A package lands in an open row exactly when it updates that row. -/
theorem lands_iff {slot : Nat} {entry : PriorityRequestEntry}
    (hentry : table.rows[slot]? = some entry) (hopen : entry.statusInPRS ≠ idleNotValid) :
    ((applyPrsPackage p pkg input table).2.action ≠ .tableFull ∧
        slot = (applyPrsPackage p pkg input table).2.slotIndex) ↔
      table.rows.findIdx? (holdsRequest p pkg input) = some slot := by
  cases hfind : table.rows.findIdx? (holdsRequest p pkg input) with
  | some existing =>
      rw [applyPrsPackage_of_held hfind, Option.some_inj]
      constructor
      · rintro ⟨-, rfl⟩
        rfl
      · rintro rfl
        exact ⟨PrsAction.noConfusion, rfl⟩
  | none =>
      refine iff_of_false ?_ (by simp)
      cases hidle : table.firstIdle with
      | none =>
          rw [applyPrsPackage_of_full hfind hidle]
          exact fun h => h.1 rfl
      | some free =>
          obtain ⟨-, hslot, -⟩ := applyPrsPackage_of_idle hfind hidle
          obtain ⟨entry', hentry', hidle'⟩ := PriorityTable.getElem?_firstIdle hidle
          rintro ⟨-, rfl⟩
          rw [hslot, hentry'] at hentry
          cases hentry
          exact hopen hidle'

/-- Marking a row for override makes it no request of the requester that caused it: the classes
differ. -/
theorem not_holdsRequest_of_overriddenBy {entry : PriorityRequestEntry}
    (h : overriddenBy input entry = true) (status : RequestStatus) :
    holdsRequest p pkg input { entry with statusInPRS := status } = false := by
  by_contra hholds
  simp only [overriddenBy, holdsRequest, Bool.and_eq_true, Bool.or_eq_true, decide_eq_true_eq,
    Bool.not_eq_false] at h hholds
  obtain ⟨-, hlower⟩ := h
  rw [hholds.1.1.2, hholds.1.2] at hlower
  simp at hlower

/-- The first package updates row `existing`: when does the second find the same row? -/
theorem findIdx?_updated_iff (hpair : TwoIntersections pkg pkg' input input') {existing : Nat}
    (hfind : table.rows.findIdx? (holdsRequest p pkg input) = some existing) :
    (table.modify existing (updatedEntry pkg input)).rows.findIdx? (holdsRequest p pkg' input') =
        some existing ↔
      TakenForFirst p pkg pkg' input input' table := by
  obtain ⟨hlt, hholds, -⟩ := List.findIdx?_eq_some_iff_getElem.mp hfind
  have hentry := List.getElem?_eq_getElem hlt
  have hupdated := getElem?_updated pkg input hentry
  have hkey := hholds
  simp only [holdsRequest, Bool.and_eq_true, decide_eq_true_eq] at hkey
  obtain ⟨⟨⟨⟨⟨hopen, hrequest⟩, hvehicle⟩, htype⟩, hlevel⟩, hstrategy⟩ := hkey
  have hlands := hpair.holdsRequest_iff (p := p) (updatedEntry pkg input table.rows[existing])
    hopen hrequest hvehicle htype hlevel
  rw [findIdx?_eq_some_iff_of_getElem? hupdated, hlands]
  simp only [TakenForFirst, hstrategy, hfind, Option.isSome_some, true_or, and_true]
  refine ⟨fun h => h.1, fun h => ⟨h, fun j other hj hother => ?_⟩⟩
  -- the keys agree, and no row before `existing` holds the first request
  rw [hpair.holdsRequest h.1 (h.2.trans hstrategy.symm)]
  rw [PriorityTable.rows_modify, List.getElem?_modify_ne _ _ hj.ne'] at hother
  exact ((findIdx?_eq_some_iff_of_getElem? hentry).mp hfind).2 j other hj hother

/-- The first package is stored in the idle row `slot`: when does the second find it there? -/
theorem findIdx?_storedTable_iff (hpair : TwoIntersections pkg pkg' input input') {slot : Nat}
    (hnone : table.rows.findIdx? (holdsRequest p pkg input) = none)
    (hidle : table.firstIdle = some slot) :
    (storedTable p pkg input table slot).rows.findIdx? (holdsRequest p pkg' input') =
        some slot ↔
      TakenForFirst p pkg pkg' input input' table := by
  obtain ⟨entry, hentry, -⟩ := PriorityTable.getElem?_firstIdle hidle
  have hlands := hpair.holdsRequest_iff (p := p) (storedEntry p pkg input entry)
    storedStatus_ne_idle rfl rfl rfl rfl
  rw [findIdx?_eq_some_iff_of_getElem? (getElem?_storedTable_self p pkg input hentry), hlands]
  rw [List.findIdx?_eq_none_iff] at hnone
  -- without a strategy no other row is overridden, and the row keeps its strategy number
  cases hstrategy : strategyFor p pkg with
  | some strategy =>
      simp only [TakenForFirst, storedEntry, hstrategy, hidle, Option.getD_some,
        Option.isSome_some, or_true, and_true]
      refine ⟨fun h => h.1, fun h => ⟨h, fun j other hj hother => ?_⟩⟩
      have hlt : j < table.rows.length := hj.trans (List.getElem?_eq_some_iff.mp hentry).1
      rw [hpair.holdsRequest h.1 (h.2.trans hstrategy.symm)]
      rcases getElem?_storedTable_ne p pkg input hj.ne (List.getElem?_eq_getElem hlt) with
        hsame | ⟨hover, hmarked⟩
      · rw [hsame] at hother
        cases hother
        exact hnone _ (List.getElem_mem hlt)
      · rw [hmarked] at hother
        cases hother
        exact not_holdsRequest_of_overriddenBy hover activeOverride
  | none =>
      have hrows : (storedTable p pkg input table slot).rows =
          table.rows.modify slot (storedEntry p pkg input) := by
        rw [storedTable_refused hstrategy]
        rfl
      simp only [TakenForFirst, storedEntry, hstrategy, Option.getD_none, hrows]
      constructor
      · rintro ⟨⟨hclass, hleft⟩, hbefore⟩
        refine ⟨hclass, slot, entry, hidle, hentry, hleft, fun j other hj hother => ?_⟩
        apply hbefore j other hj
        rw [List.getElem?_modify_ne _ _ hj.ne']
        exact hother
      · rintro ⟨hclass, slot', entry', hidle', hentry', hleft, hbefore⟩
        rw [hidle] at hidle'
        cases hidle'
        rw [hentry] at hentry'
        cases hentry'
        refine ⟨⟨hclass, hleft⟩, fun j other hj hother => ?_⟩
        apply hbefore j other hj
        rw [List.getElem?_modify_ne _ _ hj.ne'] at hother
        exact hother

/-- Two packages share a row exactly when the second is taken for the first. -/
theorem twoRows_iff (hpair : TwoIntersections pkg pkg' input input') :
    TwoRows p pkg pkg' input input' table ↔ ¬ TakenForFirst p pkg pkg' input input' table := by
  unfold TwoRows
  simp only []
  cases hfind : table.rows.findIdx? (holdsRequest p pkg input) with
  | some existing =>
      obtain ⟨hlt, hholds, -⟩ := List.findIdx?_eq_some_iff_getElem.mp hfind
      have hopen : (updatedEntry pkg input table.rows[existing]).statusInPRS ≠ idleNotValid :=
        open_of_holdsRequest hholds
      have hentry := getElem?_updated pkg input (List.getElem?_eq_getElem hlt)
      rw [applyPrsPackage_of_held hfind, ← findIdx?_updated_iff hpair hfind,
        ← lands_iff hentry hopen]
      simp
  | none =>
      cases hidle : table.firstIdle with
      | none =>
          rw [applyPrsPackage_of_full hfind hidle]
          refine iff_of_true (fun h => absurd rfl h) ?_
          unfold TakenForFirst
          rw [hfind, hidle]
          cases strategyFor p pkg <;> simp
      | some slot =>
          obtain ⟨entry, hentry, -⟩ := PriorityTable.getElem?_firstIdle hidle
          obtain ⟨htable, hslot, haction⟩ := applyPrsPackage_of_idle hfind hidle
          have hstored := getElem?_storedTable_self p pkg input hentry
          rw [htable, hslot, ← findIdx?_storedTable_iff hpair hfind hidle,
            ← lands_iff hstored storedStatus_ne_idle]
          simp [haction]

end

/-- **Requests for different intersections**: a package leaves the rows of other intersections alone
exactly when it updates no row of theirs, and two requests of one vehicle with one id get two rows
exactly when the second is not taken for the first. -/
theorem intersectionsApart_iff (p : PriorityRequestProcessor) (pkg pkg' : SignalRequestPackage)
    (input input' : PrsPackageInput) (table : PriorityTable)
    (hpair : TwoIntersections pkg pkg' input input') :
    (OthersKept pkg.intersectionID table (applyPrsPackage p pkg input table).1 ↔
        UpdatesOwnRow p pkg input table) ∧
      (TwoRows p pkg pkg' input input' table ↔
        ¬ TakenForFirst p pkg pkg' input input' table) :=
  ⟨updatesOwnRow_iff, twoRows_iff hpair⟩

/-! ### Two strategy numbers, and one, at two intersections -/

/-- Strategy 3 for lane 1 of intersection 9709, and strategy 4 for lane 1 of 9710. -/
def ownStrategies : PriorityRequestProcessor :=
  laneStrategy.setLaneStrategy 9710 1 4

/-- The request for 9710 leaves the row of the request for 9709 alone, and gets one of its own. -/
theorem intersectionsApart_ownStrategies :
    OthersKept 9710 (applyPrsPackage ownStrategies (lanePkg 9709) (vehicleInput 1000) .initial).1
        (applyPrsPackage ownStrategies (lanePkg 9710) (vehicleInput 1005)
          (applyPrsPackage ownStrategies (lanePkg 9709) (vehicleInput 1000) .initial).1).1 ∧
      TwoRows ownStrategies (lanePkg 9709) (lanePkg 9710) (vehicleInput 1000) (vehicleInput 1005)
        .initial := by
  constructor
  · refine (intersectionsApart_iff ownStrategies (lanePkg 9710) (lanePkg 9709) (vehicleInput 1005)
      (vehicleInput 1000) _ ⟨rfl, by decide, rfl⟩).1.mpr ?_
    -- no row is found
    intro existing entry hfind _
    have hnone : (applyPrsPackage ownStrategies (lanePkg 9709) (vehicleInput 1000)
        .initial).1.rows.findIdx? (holdsRequest ownStrategies (lanePkg 9710)
          (vehicleInput 1005)) = none := by decide
    rw [hnone] at hfind
    cases hfind
  · refine (intersectionsApart_iff ownStrategies (lanePkg 9709) (lanePkg 9710) (vehicleInput 1000)
      (vehicleInput 1005) .initial ⟨rfl, by decide, rfl⟩).2.mpr ?_
    rintro ⟨-, hsame, -⟩
    exact absurd hsame (by decide)

/-- Strategy 3 for lane 1 of both intersections. -/
def sharedStrategy : PriorityRequestProcessor :=
  (({} : PriorityRequestProcessor).setLaneStrategy 9709 1 3).setLaneStrategy 9710 1 3

/-- The table with the request for intersection 9709. -/
def firstIntersection : PriorityTable :=
  (applyPrsPackage sharedStrategy (lanePkg 9709) (vehicleInput 1000) .initial).1

/-- The request for intersection 9710 updates the row of the request for 9709. -/
theorem not_intersectionsApart_sharedStrategy :
    ¬ OthersKept 9710 firstIntersection
        (applyPrsPackage sharedStrategy (lanePkg 9710) (vehicleInput 1005)
          firstIntersection).1 ∧
      ¬ TwoRows sharedStrategy (lanePkg 9709) (lanePkg 9710) (vehicleInput 1000)
          (vehicleInput 1005) .initial := by
  constructor
  · intro hkept
    obtain ⟨entry', hentry', htsd, -⟩ := hkept 0 _ rfl (by decide) (by decide)
    obtain rfl := Option.some.inj hentry'
    exact absurd htsd (by decide)
  · intro htwo
    exact absurd rfl (htwo (by decide) (by decide))

end V2XHub.Priority
