import V2XHub.Priority.RequestRows

/-!
# Cancellations

A vehicle withdraws a request with a package of type `priorityCancellation`. In PRG mode the package
becomes a cancel command, behind the same ETA check as a request; in PRS mode the type is not read
at all.

**Main results**

* `cancellation_prs_iff`: exactly when a cancellation leaves no ready request behind in the table.
* `cancellation_prg_iff`: exactly when the times of a cancellation do not matter.
-/

namespace V2XHub.Priority

open RequestStatus Lib

/-- A signal request package that withdraws a request. -/
abbrev Cancellation :=
  { pkg : SignalRequestPackage // pkg.requestType = .priorityCancellation }

/-! ## PRS mode -/

/-- What `HandleSRM` works on in PRS mode: the processor, and `_prsLastSeqByVehicle`. -/
structure PrsSrmState where
  processor : PriorityRequestProcessor := {}
  prsLastSeqByVehicle : AList fun _ : List UInt8 => UInt8 := ∅

/-- `HandleSRM` in PRS mode: an SRM without packages is skipped, one whose sequence number is the
vehicle's last one is discarded, every package of any other is applied to the table. -/
def handleSrm (s : PrsSrmState) (vehicleKey : List UInt8) (input : PrsPackageInput)
    (requests : List SignalRequestPackage) : PrsSrmState :=
  if requests.isEmpty then s
  else if s.prsLastSeqByVehicle.lookup vehicleKey = some input.newSeq then s
  else
    { processor := requests.foldl (fun p pkg => p.processPrsPackage pkg input) s.processor
      prsLastSeqByVehicle := s.prsLastSeqByVehicle.insert vehicleKey input.newSeq }

section

variable (p : PriorityRequestProcessor) (pkg : SignalRequestPackage) (input : PrsPackageInput)

/-- The row has the identity of the package's request: vehicle, request id, intersection, class and
strategy. -/
structure HasIdentity (entry : PriorityRequestEntry) : Prop where
  requestID : entry.requestID = UInt8.ofInt pkg.requestID
  vehicleID : entry.vehicleID = input.vehicleID
  intersectionID : entry.intersectionID = pkg.intersectionID
  vehicleClassType : entry.vehicleClassType = input.classType
  vehicleClassLevel : entry.vehicleClassLevel = input.classLevel
  strategy : strategyFor p pkg = some entry.serviceStrategyNumber

/-- No row with the package's identity is ready because of the package: the ready ones were there
before, as they are. -/
def NoneReadied (before after : PriorityTable) : Prop :=
  ∀ (i : Nat) (entry : PriorityRequestEntry), after.rows[i]? = some entry →
    HasIdentity p pkg input entry → entry.statusInPRS.isReadyX = true →
      before.rows[i]? = some entry

/-- The package can neither refresh a ready request nor be queued. A row found for it is not ready,
or of another intersection, or has nothing new to learn; when none is found, the table is full, the
lane has no strategy or the class is locked. -/
def CannotReady (table : PriorityTable) : Prop :=
  match table.rows.findIdx? (holdsRequest p pkg input) with
  | some existing =>
      ∀ entry, table.rows[existing]? = some entry →
        entry.statusInPRS.isReadyX = false ∨ entry.intersectionID ≠ pkg.intersectionID ∨
          AlreadyRecorded pkg input entry
  | none =>
      table.firstIdle = none ∨ strategyFor p pkg = none ∨ reserviceLocked p input = true

variable {p pkg input} {table : PriorityTable}

/-- An update keeps the identity of the request, apart from the intersection. -/
theorem hasIdentity_updatedEntry_iff {entry : PriorityRequestEntry}
    (h : holdsRequest p pkg input entry = true) :
    HasIdentity p pkg input (updatedEntry pkg input entry) ↔
      entry.intersectionID = pkg.intersectionID := by
  simp only [holdsRequest, Bool.and_eq_true, decide_eq_true_eq] at h
  obtain ⟨⟨⟨⟨⟨-, hrequest⟩, hvehicle⟩, htype⟩, hlevel⟩, hstrategy⟩ := h
  refine ⟨fun hid => hid.intersectionID, fun hsame => ?_⟩
  exact ⟨hrequest, hvehicle, hsame, htype, hlevel, hstrategy⟩

/-- An update that brings nothing new leaves the row as it is. -/
theorem updatedEntry_eq_iff {entry : PriorityRequestEntry} :
    updatedEntry pkg input entry = entry ↔ AlreadyRecorded pkg input entry := by
  unfold updatedEntry AlreadyRecorded
  rw [PriorityRequestEntry.mk.injEq]
  simp only [true_and, and_true]
  grind

theorem noneReadied_updated_iff {existing : Nat}
    (hfind : table.rows.findIdx? (holdsRequest p pkg input) = some existing) :
    NoneReadied p pkg input table (table.modify existing (updatedEntry pkg input)) ↔
      CannotReady p pkg input table := by
  obtain ⟨hlt, hholds, -⟩ := List.findIdx?_eq_some_iff_getElem.mp hfind
  have hget := List.getElem?_eq_getElem hlt
  have hidentity := hasIdentity_updatedEntry_iff hholds
  simp only [CannotReady, hfind]
  constructor
  · intro hnone entry hentry
    rw [hget] at hentry
    cases hentry
    by_contra hready
    push Not at hready
    obtain ⟨hstatus, hsame, hnew⟩ := hready
    apply hnew
    rw [← updatedEntry_eq_iff]
    have hready : table.rows[existing].statusInPRS.isReadyX = true := by simpa using hstatus
    have hkept := hnone existing (updatedEntry pkg input table.rows[existing])
      (by simp [hget]) (hidentity.mpr hsame) hready
    rw [hget] at hkept
    exact (Option.some.inj hkept).symm
  · intro hcannot i entry hentry hid hready
    rcases getElem?_modify_cases hentry with ⟨rfl, old, hold, rfl⟩ | ⟨-, hsame⟩
    · rw [hget] at hold
      cases hold
      rcases hcannot _ hget with hstatus | hother | hknown
      · exact absurd hready (by simpa [updatedEntry] using hstatus)
      · exact absurd (hidentity.mp hid) hother
      · rw [hget, updatedEntry_eq_iff.mpr hknown]
    · exact hsame

theorem storedStatus_eq_readyQueued_iff :
    storedStatus p pkg input = readyQueued ↔
      ¬ (strategyFor p pkg = none ∨ reserviceLocked p input = true) := by
  unfold storedStatus
  cases strategyFor p pkg with
  | none => simp
  | some strategy => cases reserviceLocked p input <;> simp

theorem not_ready_storedStatus (h : storedStatus p pkg input ≠ readyQueued) :
    (storedStatus p pkg input).isReadyX = false := by
  unfold storedStatus at h ⊢
  cases hstrategy : strategyFor p pkg with
  | none => rfl
  | some strategy =>
      simp only [hstrategy] at h ⊢
      split_ifs at h ⊢
      · rfl
      · exact absurd rfl h

theorem noneReadied_storedTable_iff {slot : Nat}
    (hnone : table.rows.findIdx? (holdsRequest p pkg input) = none)
    (hidle : table.firstIdle = some slot) :
    NoneReadied p pkg input table (storedTable p pkg input table slot) ↔
      CannotReady p pkg input table := by
  obtain ⟨entry, hentry, hidleEntry⟩ := PriorityTable.getElem?_firstIdle hidle
  have hstored := getElem?_storedTable_self p pkg input hentry
  simp only [CannotReady, hnone, hidle, reduceCtorEq, false_or]
  rw [← not_iff_not, ← storedStatus_eq_readyQueued_iff]
  constructor
  · intro hreadied
    by_contra hstatus
    apply hreadied
    intro i entry' hentry' _ hready
    by_cases hi : i = slot
    · subst hi
      rw [hstored] at hentry'
      cases hentry'
      rw [show (storedEntry p pkg input entry).statusInPRS = storedStatus p pkg input from rfl,
        not_ready_storedStatus hstatus] at hready
      cases hready
    · have hlt : i < table.rows.length := by
        rw [table.length_rows, ← (storedTable p pkg input table slot).length_rows]
        exact (List.getElem?_eq_some_iff.mp hentry').1
      rcases getElem?_storedTable_ne p pkg input hi
        (List.getElem?_eq_getElem hlt) with hsame | ⟨-, hmarked⟩
      · rw [List.getElem?_eq_getElem hlt, ← hsame]
        exact hentry'
      · rw [hmarked] at hentry'
        cases hentry'
        cases hready
  · intro hstatus hreadied
    obtain ⟨strategy, hstrategy⟩ : ∃ strategy, strategyFor p pkg = some strategy := by
      rw [storedStatus_eq_readyQueued_iff] at hstatus
      push Not at hstatus
      exact Option.ne_none_iff_exists'.mp hstatus.1
    have hid : HasIdentity p pkg input (storedEntry p pkg input entry) :=
      ⟨rfl, rfl, rfl, rfl, rfl, by simp [storedEntry, hstrategy]⟩
    have hkept := hreadied slot _ hstored hid (by simp [storedEntry, hstatus, isReadyX])
    -- the row was idle, and is ready now
    rw [hentry] at hkept
    have hready : entry.statusInPRS = readyQueued := by
      rw [Option.some.inj hkept]
      exact hstatus
    rw [hidleEntry] at hready
    cases hready

/-- A package readies no row exactly when it cannot, whatever its type. -/
theorem noneReadied_iff :
    NoneReadied p pkg input table (applyPrsPackage p pkg input table).1 ↔
      CannotReady p pkg input table := by
  cases hfind : table.rows.findIdx? (holdsRequest p pkg input) with
  | some existing =>
      rw [applyPrsPackage_of_held hfind]
      exact noneReadied_updated_iff hfind
  | none =>
      cases hidle : table.firstIdle with
      | none =>
          rw [applyPrsPackage_of_full hfind hidle]
          refine iff_of_true (fun i entry hentry _ _ => hentry) ?_
          simp only [CannotReady, hfind, hidle, true_or]
      | some slot =>
          rw [(applyPrsPackage_of_idle hfind hidle).1]
          exact noneReadied_storedTable_iff hfind hidle

end

theorem processor_handleSrm (s : PrsSrmState) (vehicleKey : List UInt8) (input : PrsPackageInput)
    (requests : List SignalRequestPackage) :
    (handleSrm s vehicleKey input requests).processor =
      if s.prsLastSeqByVehicle.lookup vehicleKey = some input.newSeq then s.processor
      else requests.foldl (fun p pkg => p.processPrsPackage pkg input) s.processor := by
  unfold handleSrm
  cases requests with
  | nil => exact (ite_self s.processor).symm
  | cons pkg requests =>
      have hsome : ¬ (pkg :: requests).isEmpty = true := Bool.false_ne_true
      rw [if_neg hsome]
      split_ifs <;> rfl

/-- **Cancellation in PRS mode**: a cancellation, after the packages before it in its SRM, readies
no row of its request exactly when the SRM is discarded or the package cannot ready any. -/
theorem cancellation_prs_iff (s : PrsSrmState) (vehicleKey : List UInt8) (input : PrsPackageInput)
    (earlier : List SignalRequestPackage) (pkg : Cancellation) :
    NoneReadied (handleSrm s vehicleKey input earlier).processor pkg.1 input
        (handleSrm s vehicleKey input earlier).processor.table
        (handleSrm s vehicleKey input (earlier ++ [pkg.1])).processor.table ↔
      s.prsLastSeqByVehicle.lookup vehicleKey = some input.newSeq ∨
        CannotReady (handleSrm s vehicleKey input earlier).processor pkg.1 input
          (handleSrm s vehicleKey input earlier).processor.table := by
  rw [processor_handleSrm, processor_handleSrm]
  by_cases hseen : s.prsLastSeqByVehicle.lookup vehicleKey = some input.newSeq
  · rw [if_pos hseen, if_pos hseen]
    exact iff_of_true (fun i entry hentry _ _ => hentry) (.inl hseen)
  · rw [if_neg hseen, if_neg hseen, List.foldl_append, List.foldl_cons, List.foldl_nil,
      or_iff_right hseen]
    exact noneReadied_iff

/-! ### A cancellation that queues a request -/

/-- Withdraws a request for lane 1 of intersection 9709. -/
def cancelPkg : Cancellation :=
  ⟨{ requestID := 7, intersectionID := 9709, requestType := .priorityCancellation,
     inBoundLane := .lane 1 }, rfl⟩

/-- With no row for its request, a cancellation inserts one. -/
theorem not_noneReadied_cancelPkg :
    ¬ NoneReadied sharedStrategy cancelPkg.1 (vehicleInput 1000) .initial
      (handleSrm { processor := sharedStrategy } [0x11, 0x22, 0x33, 0x44] (vehicleInput 1000)
        [cancelPkg.1]).processor.table := by
  intro hnone
  have hkept := hnone 0 _ rfl ⟨rfl, rfl, rfl, rfl, rfl, by decide⟩ (by decide)
  exact absurd (congrArg (Option.map PriorityRequestEntry.statusInPRS) hkept) (by decide)

/-! ## PRG mode -/

/-- The package with another ETA. -/
def SignalRequestPackage.retimed (pkg : SignalRequestPackage)
    (minute second duration : Option Int) : SignalRequestPackage :=
  { pkg with minute := minute, second := second, duration := duration }

/-- A whole number of seconds in 1..65535. -/
def InSecondsRange (offsetMs : Int) : Prop :=
  1 ≤ offsetMs.tdiv 1000 ∧ offsetMs.tdiv 1000 ≤ 65535

/-- The ETA of the package is missing, or both arrival and departure are 1..65535 seconds from
now. -/
def EtaInRange (pkg : SignalRequestPackage) (input : PrgPackageInput) : Prop :=
  match pkg.minute with
  | none => True
  | some minute =>
      let etaOffsetMs := computeEtaOffsetMs minute (pkg.second.getD 0) input.currentMinuteOfYear
        input.currentMsInMinute
      InSecondsRange etaOffsetMs ∧ InSecondsRange (etaOffsetMs + pkg.duration.getD 0)

/-- What the controller and the SSM see of a result: the outcome, and the object and payload of the
command. -/
def PrgPackageResult.summary (r : PrgPackageResult) :
    PrgOutcome × Option (PrgOid × List UInt8) :=
  (r.outcome, r.command.map fun command => (command.targetOID, command.encodedPayload))

section

variable {p : PriorityRequestProcessor} {pkg : SignalRequestPackage} {input : PrgPackageInput}
variable {trackedRequests : AList fun _ : TrackerKey => PrgTrackedRequest}
variable {configuredIntersectionIDs : List Int}

theorem isSome_serviceOffsets_iff :
    (serviceOffsets pkg input).isSome = true ↔ EtaInRange pkg input := by
  unfold serviceOffsets EtaInRange InSecondsRange
  cases pkg.minute with
  | none => simp
  | some minute =>
      simp only []
      split_ifs with hout
      · simp only [Option.isSome_none, Bool.false_eq_true, false_iff]
        omega
      · simp only [Option.isSome_some, true_iff]
        omega

theorem summary_of_not_etaInRange (h : ¬ EtaInRange pkg input) :
    (buildPrgPackage p pkg input trackedRequests configuredIntersectionIDs).summary =
      (.invalidEta, none) := by
  rw [← isSome_serviceOffsets_iff, Option.not_isSome_iff_eq_none] at h
  unfold buildPrgPackage
  rw [h]
  rfl

/-- With the ETA in range, a cancellation is decided without it. -/
theorem summary_of_etaInRange (hcancel : pkg.requestType = .priorityCancellation)
    (h : EtaInRange pkg input) :
    (buildPrgPackage p pkg input trackedRequests configuredIntersectionIDs).summary =
      match strategyFor p pkg with
      | none => (.noStrategy, none)
      | some strategy =>
          if pkg.intersectionID ∉ configuredIntersectionIDs then (.noController, none)
          else (.send, some (.priorityCancel,
            encodePriorityCancel (UInt8.ofInt pkg.requestID) input.vehicleID input.classType
              input.classLevel strategy)) := by
  rw [← isSome_serviceOffsets_iff] at h
  obtain ⟨⟨timeOfService, timeOfDepart⟩, hoffsets⟩ := Option.isSome_iff_exists.mp h
  have hoid (tracked : Option PrgTrackedRequest) : targetOid pkg tracked = .priorityCancel := by
    unfold targetOid
    rw [hcancel]
  unfold buildPrgPackage
  simp only [hoffsets, hoid]
  cases strategyFor p pkg with
  | none => rfl
  | some strategy =>
      simp only []
      split_ifs <;> rfl

/-- A result with the ETA in range is not the one for an ETA out of range. -/
theorem outcome_of_etaInRange (h : EtaInRange pkg input) :
    (buildPrgPackage p pkg input trackedRequests configuredIntersectionIDs).outcome ≠
      .invalidEta := by
  rw [← isSome_serviceOffsets_iff] at h
  obtain ⟨offsets, hoffsets⟩ := Option.isSome_iff_exists.mp h
  unfold buildPrgPackage
  simp only [hoffsets]
  cases strategyFor p pkg with
  | none => exact PrgOutcome.noConfusion
  | some strategy =>
      simp only []
      split_ifs <;> exact PrgOutcome.noConfusion

end

/-- **Cancellation in PRG mode**: with another ETA a cancellation gives the same outcome, object and
payload exactly when both ETAs are in range or both are not. -/
theorem cancellation_prg_iff (p : PriorityRequestProcessor) (pkg : Cancellation)
    (minute second duration : Option Int) (input : PrgPackageInput)
    (trackedRequests : AList fun _ : TrackerKey => PrgTrackedRequest)
    (configuredIntersectionIDs : List Int) :
    (buildPrgPackage p (pkg.1.retimed minute second duration) input trackedRequests
          configuredIntersectionIDs).summary =
        (buildPrgPackage p pkg.1 input trackedRequests configuredIntersectionIDs).summary ↔
      (EtaInRange (pkg.1.retimed minute second duration) input ↔ EtaInRange pkg.1 input) := by
  obtain ⟨pkg, hcancel⟩ := pkg
  have hcancel' : (pkg.retimed minute second duration).requestType = .priorityCancellation :=
    hcancel
  by_cases hrange' : EtaInRange (pkg.retimed minute second duration) input
  · by_cases hrange : EtaInRange pkg input
    · refine iff_of_true ?_ (iff_of_true hrange' hrange)
      rw [summary_of_etaInRange hcancel' hrange', summary_of_etaInRange hcancel hrange]
      rfl
    · refine iff_of_false (fun heq => ?_) (fun h => hrange (h.mp hrange'))
      rw [summary_of_not_etaInRange hrange] at heq
      exact outcome_of_etaInRange hrange' (congrArg Prod.fst heq)
  · by_cases hrange : EtaInRange pkg input
    · refine iff_of_false (fun heq => ?_) (fun h => hrange' (h.mpr hrange))
      rw [summary_of_not_etaInRange hrange'] at heq
      exact outcome_of_etaInRange hrange (congrArg Prod.fst heq.symm)
    · refine iff_of_true ?_ (iff_of_false hrange' hrange)
      rw [summary_of_not_etaInRange hrange', summary_of_not_etaInRange hrange]

/-! ### A cancellation of a request whose time has come -/

/-- Minute 10 of the year. -/
def minuteTen : PrgPackageInput where
  vehicleID := [0x11, 0x22, 0x33, 0x44]
  vehicleKey := [0x11, 0x22, 0x33, 0x44]
  classType := 3
  classLevel := 1
  currentMinuteOfYear := 10

/-- Without an ETA the cancel is sent; with the one of a request due a minute ago it is refused. -/
theorem cancelPkg_depends_on_eta :
    (buildPrgPackage sharedStrategy cancelPkg.1 minuteTen ∅ [9709]).outcome = .send ∧
      (buildPrgPackage sharedStrategy (cancelPkg.1.retimed (some 9) (some 0) none) minuteTen ∅
        [9709]).outcome = .invalidEta ∧
      (buildPrgPackage sharedStrategy (cancelPkg.1.retimed (some 9) (some 0) none) minuteTen ∅
          [9709]).summary ≠
        (buildPrgPackage sharedStrategy cancelPkg.1 minuteTen ∅ [9709]).summary := by
  decide

end V2XHub.Priority
