import V2XHub.Lib.Run
import V2XHub.Priority.Builder

/-!
# Commands in PRG mode

In PRG mode the plugin keeps no table: each package becomes one command, and a tracker remembers
which requests are outstanding so that a repeated request goes out as an update and a cancelled one
is cleared two seconds later. The tracker changes only after a successful SET and by the age-based
sweep that precedes every SRM.

The model runs packages and sweeps in any order, which includes the order of `HandleSRM`: one sweep,
then the packages of the SRM. Its `log` is the world's side: every SET with its outcome, and every
key that was given up.

**Main result** `prg_commands_lawful`: what the log of commands looks like for one key.
-/

namespace V2XHub.Priority

open Lib

/-! ## State and steps -/

/-- One thing that happened to a tracker key. -/
inductive PrgEvent where
  | set (key : TrackerKey) (command : PrgOid) (setOk : Bool)
  | evicted (key : TrackerKey)
  deriving DecidableEq, Repr

def PrgEvent.key : PrgEvent → TrackerKey
  | set key _ _ => key
  | evicted key => key

structure PrgState where
  processor : PriorityRequestProcessor := {}
  controllers : List Int := []
  timeToLiveSec : UInt32 := 0
  prgTrackedRequests : AList fun _ : TrackerKey => PrgTrackedRequest := ∅
  /-- Newest first. -/
  log : List PrgEvent := []

namespace PrgState

/-- The tracker after a successful SET. -/
def track (s : PrgState) (command : PrgCommand) (nowMs : UInt64) : PrgState :=
  if command.isCancel then
    match s.prgTrackedRequests.lookup command.trackerKey with
    | some tracked =>
        { s with
          prgTrackedRequests := s.prgTrackedRequests.insert command.trackerKey
            { tracked with state := .canceled, sentTimeMs := nowMs } }
    | none => s
  else
    { s with
      prgTrackedRequests :=
        s.prgTrackedRequests.insert command.trackerKey command.trackerEntry }

/-- One package: the new state, and the request as the SSM will report it. `setOk` is the outcome of
the SET, if there is one. -/
def processPrgPackage (s : PrgState) (pkg : SignalRequestPackage) (input : PrgPackageInput)
    (setOk : Bool) : PrgState × SignalRequest :=
  let result := buildPrgPackage s.processor pkg input s.prgTrackedRequests s.controllers
  match result.command with
  | none => (s, result.signalRequest)
  | some command =>
      let logged := { s with log := .set command.trackerKey command.targetOID setOk :: s.log }
      if setOk then (logged.track command input.nowMs, result.signalRequest)
      else (logged, { result.signalRequest with rejected := true })

/-- `ageSec`; the subtraction is unsigned. -/
def ageSec (nowMs : UInt64) (tracked : PrgTrackedRequest) : Int :=
  ((nowMs - tracked.sentTimeMs) / 1000).toNat

/-- The body of the sweep for one key. A clear is sent when the intersection has a controller; its
outcome is ignored and the key is forgotten either way. -/
def sweepKey (nowMs : UInt64) (clearOk : TrackerKey → Bool) (s : PrgState) (key : TrackerKey) :
    PrgState :=
  match s.prgTrackedRequests.lookup key with
  | none => s
  | some tracked =>
      let erased := s.prgTrackedRequests.erase key
      match classifyStaleTrackedRequest (tracked.state = .canceled) (ageSec nowMs tracked)
          s.timeToLiveSec.toNat with
      | .sendClearAndErase =>
          let event : PrgEvent :=
            if s.controllers.contains tracked.intersectionID then
              .set key .priorityClear (clearOk key)
            else .evicted key
          { s with prgTrackedRequests := erased, log := event :: s.log }
      | .evict => { s with prgTrackedRequests := erased, log := .evicted key :: s.log }
      | .keep => s

def sweepStaleTrackedRequests (s : PrgState) (nowMs : UInt64) (clearOk : TrackerKey → Bool) :
    PrgState :=
  s.prgTrackedRequests.keys.foldl (sweepKey nowMs clearOk) s

end PrgState

inductive PrgLabel where
  | processPrgPackage (pkg : SignalRequestPackage) (input : PrgPackageInput) (setOk : Bool)
  | sweepStaleTrackedRequests (nowMs : UInt64) (clearOk : TrackerKey → Bool)
  | configure (controllers : List Int) (timeToLiveSec : UInt32)
  | clearLaneStrategyMap
  | setLaneStrategy (intersectionID lane : Int) (strategyNumber : UInt8)

def prgStep (s : PrgState) : PrgLabel → Option PrgState
  | .processPrgPackage pkg input setOk => some (s.processPrgPackage pkg input setOk).1
  | .sweepStaleTrackedRequests nowMs clearOk =>
      some (s.sweepStaleTrackedRequests nowMs clearOk)
  | .configure controllers timeToLiveSec =>
      some { s with controllers := controllers, timeToLiveSec := timeToLiveSec }
  | .clearLaneStrategyMap => some { s with processor := s.processor.clearLaneStrategyMap }
  | .setLaneStrategy intersectionID lane strategyNumber =>
      some { s with processor := s.processor.setLaneStrategy intersectionID lane strategyNumber }

def Prg : PrgState → PrgLabel → PrgState → Prop := Steps prgStep

/-! ## The protocol -/

/-- The last command successfully SET for a key and not followed by a clear or an eviction. -/
def lastStanding (key : TrackerKey) : List PrgEvent → Option PrgOid
  | [] => none
  | .evicted k :: log => if k = key then none else lastStanding key log
  | .set k command setOk :: log =>
      if k = key then
        if command = .priorityClear then none
        else if setOk then some command
        else lastStanding key log
      else lastStanding key log

/-- An update or a clear that the events before it justify. -/
def Justified (log : List PrgEvent) : PrgEvent → Prop
  | .set key .priorityUpdateAbsolute _ =>
      lastStanding key log = some .priorityRequestAbsolute ∨
        lastStanding key log = some .priorityUpdateAbsolute
  | .set key .priorityClear _ => lastStanding key log = some .priorityCancel
  | _ => True

/-- Every command was justified when it was sent. -/
def Lawful : List PrgEvent → Prop
  | [] => True
  | event :: log => Justified log event ∧ Lawful log

/-- The weak spot: an explicit update of a request that was cancelled and not yet cleared. -/
def noUpdateOfCanceled (s : PrgState) : PrgLabel → Bool
  | .processPrgPackage pkg input _ =>
      !(pkg.requestType = .priorityRequestUpdate && accepted s.processor pkg input s.controllers &&
        (s.prgTrackedRequests.lookup (trackerKey pkg input)).map (·.state) = some .canceled)
  | _ => true

/-! ## The tracker keeps the protocol -/

/-- The last standing command a tracked request may have. -/
def Standing : PrgRequestState → Option PrgOid → Prop
  | .sent, last => last = some .priorityRequestAbsolute ∨ last = some .priorityUpdateAbsolute
  | .canceled, last => last = some .priorityCancel

/-- The tracker knows the last standing command of every key it tracks. -/
def TrackerInvariant (s : PrgState) : Prop :=
  ∀ key tracked, s.prgTrackedRequests.lookup key = some tracked →
    Standing tracked.state (lastStanding key s.log)

theorem lastStanding_cons_ne {event : PrgEvent} {key : TrackerKey} (h : event.key ≠ key)
    (log : List PrgEvent) : lastStanding key (event :: log) = lastStanding key log := by
  cases event with
  | set k command setOk => simp [lastStanding, show k ≠ key from h]
  | evicted k => simp [lastStanding, show k ≠ key from h]

theorem lastStanding_set {command : PrgOid} (h : command ≠ .priorityClear) (key : TrackerKey)
    (setOk : Bool) (log : List PrgEvent) :
    lastStanding key (.set key command setOk :: log) =
      if setOk then some command else lastStanding key log := by
  simp [lastStanding, h]

/-! ### One package -/

section

variable (pkg : SignalRequestPackage) (tracked : Option PrgTrackedRequest)

theorem targetOid_ne_clear : targetOid pkg tracked ≠ .priorityClear := by
  unfold targetOid
  split
  · decide
  · split <;> decide
  · split
    · split_ifs <;> decide
    · decide

theorem targetOid_cancel (h : pkg.requestType = .priorityCancellation) :
    targetOid pkg tracked = .priorityCancel := by
  simp [targetOid, h]

theorem targetOid_not_cancel (h : pkg.requestType ≠ .priorityCancellation) :
    targetOid pkg tracked = .priorityRequestAbsolute ∨
      targetOid pkg tracked = .priorityUpdateAbsolute := by
  unfold targetOid
  split
  · contradiction
  · split
    · exact .inl rfl
    · exact .inr rfl
  · split
    · split_ifs
      · exact .inr rfl
      · exact .inl rfl
    · exact .inl rfl

/-- An update goes out for a request in state `sent`, or for an explicit update of any tracked
request. -/
theorem tracked_of_targetOid_update (h : targetOid pkg tracked = .priorityUpdateAbsolute) :
    ∃ request, tracked = some request ∧
      (request.state = .sent ∨ pkg.requestType = .priorityRequestUpdate) := by
  unfold targetOid at h
  split at h
  · cases h
  next htype =>
    split at h
    · cases h
    next request => exact ⟨request, rfl, .inr htype⟩
  · split at h
    next request =>
      split_ifs at h with hsent
      exact ⟨request, rfl, .inl hsent⟩
    · cases h

end

section

variable (s : PrgState) (command : PrgCommand) (nowMs : UInt64)

theorem track_log : (s.track command nowMs).log = s.log := by
  unfold PrgState.track
  split_ifs
  · split <;> rfl
  · rfl

theorem lookup_track_ne {key : TrackerKey} (h : command.trackerKey ≠ key) :
    (s.track command nowMs).prgTrackedRequests.lookup key = s.prgTrackedRequests.lookup key := by
  unfold PrgState.track
  split_ifs
  · split
    · exact AList.lookup_insert_ne (Ne.symm h)
    · rfl
  · exact AList.lookup_insert_ne (Ne.symm h)

/-- What the command's own key is tracked as: a cancel only marks what was tracked before. -/
theorem lookup_track_self {tracked : PrgTrackedRequest}
    (h : (s.track command nowMs).prgTrackedRequests.lookup command.trackerKey = some tracked) :
    tracked.state = if command.isCancel then .canceled else command.trackerEntry.state := by
  unfold PrgState.track at h
  split_ifs at h ⊢
  · split at h
    next before hbefore =>
      rw [AList.lookup_insert] at h
      exact Option.some.inj h ▸ rfl
    next hnone =>
      rw [hnone] at h
      cases h
  · rw [AList.lookup_insert] at h
    exact Option.some.inj h ▸ rfl

end

/-- A SET of `command`, successful or not, and what the tracker makes of it. -/
theorem TrackerInvariant.set {s t : PrgState} (hinv : TrackerInvariant s) {command : PrgOid}
    (hclear : command ≠ .priorityClear) {key : TrackerKey} {setOk : Bool}
    (hlog : t.log = .set key command setOk :: s.log)
    (hrest : ∀ k, key ≠ k → t.prgTrackedRequests.lookup k = s.prgTrackedRequests.lookup k)
    (hself : ∀ tracked, t.prgTrackedRequests.lookup key = some tracked →
      Standing tracked.state (if setOk then some command else lastStanding key s.log)) :
    TrackerInvariant t := by
  intro k tracked hlookup
  rw [hlog]
  by_cases hk : key = k
  · subst hk
    rw [lastStanding_set hclear]
    exact hself tracked hlookup
  · -- neither the tracker nor the log says anything new about the other keys
    have hkey : (PrgEvent.set key command setOk).key ≠ k := hk
    rw [lastStanding_cons_ne hkey]
    rw [hrest k hk] at hlookup
    exact hinv k tracked hlookup

/-- One package keeps the tracker right, and sends an update only when it is justified. -/
theorem processPrgPackage_invariant {s : PrgState} (hinv : TrackerInvariant s)
    (hlawful : Lawful s.log) {pkg : SignalRequestPackage} {input : PrgPackageInput} {setOk : Bool}
    (hguard : noUpdateOfCanceled s (.processPrgPackage pkg input setOk) = true) :
    TrackerInvariant (s.processPrgPackage pkg input setOk).1 ∧
      Lawful (s.processPrgPackage pkg input setOk).1.log := by
  unfold PrgState.processPrgPackage
  simp only []
  split
  · exact ⟨hinv, hlawful⟩
  next command hcommand =>
    obtain ⟨haccepted, hkey, hoid, hisCancel, hentry⟩ :=
      buildPrgPackage_command _ _ _ _ _ hcommand
    have hclear : command.targetOID ≠ .priorityClear := hoid ▸ targetOid_ne_clear pkg _
    have hjustified : Justified s.log (.set command.trackerKey command.targetOID setOk) := by
      cases hupd : command.targetOID with
      | priorityUpdateAbsolute =>
          obtain ⟨request, hlookup, hstate⟩ := tracked_of_targetOid_update pkg _ (hoid ▸ hupd)
          have hstanding := hinv _ request hlookup
          cases hs : request.state with
          | sent => simpa [Justified, Standing, hs, hkey] using hstanding
          | canceled =>
              -- the guard excludes an explicit update of a cancelled request
              have htype := hstate.resolve_left (by simp [hs])
              simp [noUpdateOfCanceled, htype, haccepted, hlookup, hs] at hguard
      | priorityClear => exact absurd hupd hclear
      | _ => trivial
    split_ifs with hok
    · refine ⟨?_, ?_⟩
      · refine hinv.set hclear (track_log _ _ _) (fun k hk => lookup_track_ne _ _ _ hk)
          fun tracked hlookup => ?_
        rw [lookup_track_self _ _ _ hlookup, hok, if_pos rfl, hisCancel, hentry, hoid]
        by_cases hcancel : pkg.requestType = .priorityCancellation
        · simp [hcancel, Standing, targetOid_cancel pkg _ hcancel]
        · simpa [hcancel, Standing] using targetOid_not_cancel pkg _ hcancel
      · rw [track_log]
        exact ⟨hok ▸ hjustified, hlawful⟩
    · refine ⟨hinv.set hclear rfl (fun _ _ => rfl) fun tracked hlookup => ?_,
        hjustified, hlawful⟩
      rw [if_neg hok]
      exact hinv _ tracked hlookup

/-! ### The sweep -/

theorem sweepKey_invariant {s : PrgState} (hinv : TrackerInvariant s) (hlawful : Lawful s.log)
    (nowMs : UInt64) (clearOk : TrackerKey → Bool) (key : TrackerKey) :
    TrackerInvariant (s.sweepKey nowMs clearOk key) ∧
      Lawful (s.sweepKey nowMs clearOk key).log := by
  -- forgetting a key needs nothing of it
  have herase (event : PrgEvent) (hevent : event.key = key) :
      TrackerInvariant { s with
        prgTrackedRequests := s.prgTrackedRequests.erase key, log := event :: s.log } := by
    intro k tracked hlookup
    by_cases hk : k = key
    · subst hk
      simp at hlookup
    · rw [lastStanding_cons_ne (hevent ▸ Ne.symm hk)]
      exact hinv k tracked (by simpa [AList.lookup_erase_ne hk] using hlookup)
  unfold PrgState.sweepKey
  split
  · exact ⟨hinv, hlawful⟩
  next tracked hlookup =>
    have hstanding := hinv key tracked hlookup
    simp only []
    split
    next hclass =>
      -- only a cancelled request is cleared, so the cancel is what stands
      have hcanceled : tracked.state = .canceled := by
        unfold classifyStaleTrackedRequest at hclass
        split_ifs at hclass with hc
        simp only [Bool.and_eq_true, decide_eq_true_eq] at hc
        exact hc.1
      rw [hcanceled] at hstanding
      split_ifs
      · exact ⟨herase _ rfl, hstanding, hlawful⟩
      · exact ⟨herase _ rfl, trivial, hlawful⟩
    · exact ⟨herase _ rfl, trivial, hlawful⟩
    · exact ⟨hinv, hlawful⟩

theorem sweepStaleTrackedRequests_invariant {s : PrgState} (hinv : TrackerInvariant s)
    (hlawful : Lawful s.log) (nowMs : UInt64) (clearOk : TrackerKey → Bool) :
    TrackerInvariant (s.sweepStaleTrackedRequests nowMs clearOk) ∧
      Lawful (s.sweepStaleTrackedRequests nowMs clearOk).log :=
  List.foldlRecOn (motive := fun s => TrackerInvariant s ∧ Lawful s.log)
    s.prgTrackedRequests.keys (PrgState.sweepKey nowMs clearOk) ⟨hinv, hlawful⟩
    fun _ h key _ => sweepKey_invariant h.1 h.2 nowMs clearOk key

/-! ### Every run -/

theorem prgStep_invariant {s t : PrgState} {e : PrgLabel}
    (hinv : TrackerInvariant s ∧ Lawful s.log)
    (h : Guarded (fun s e => noUpdateOfCanceled s e = true) Prg s e t) :
    TrackerInvariant t ∧ Lawful t.log := by
  obtain ⟨hguard, hstep⟩ := h
  cases e with
  | processPrgPackage pkg input setOk =>
      obtain rfl := Option.some.inj hstep
      exact processPrgPackage_invariant hinv.1 hinv.2 hguard
  | sweepStaleTrackedRequests nowMs clearOk =>
      obtain rfl := Option.some.inj hstep
      exact sweepStaleTrackedRequests_invariant hinv.1 hinv.2 nowMs clearOk
  | configure =>
      obtain rfl := Option.some.inj hstep
      exact hinv
  | clearLaneStrategyMap =>
      obtain rfl := Option.some.inj hstep
      exact hinv
  | setLaneStrategy =>
      obtain rfl := Option.some.inj hstep
      exact hinv

/-- **The PRG command protocol**: in every run of packages, sweeps and changes of configuration in
which no explicit update is accepted for a request that is cancelled and not yet cleared, every
update follows a standing request or update of its key, and every clear follows a standing
cancel. -/
theorem prg_commands_lawful {es : List PrgLabel} {s : PrgState}
    (hrun : Run (Guarded (fun s e => noUpdateOfCanceled s e = true) Prg) {} es s) :
    Lawful s.log := by
  have hinit : TrackerInvariant {} ∧ Lawful (PrgState.log {}) :=
    ⟨fun key tracked hlookup => by simp at hlookup, trivial⟩
  have hinv := hrun.invariant (I := fun s => TrackerInvariant s ∧ Lawful s.log)
    (fun _ _ _ hs h => prgStep_invariant hs h) hinit
  exact hinv.2

/-- A package of vehicle `0xAA` for the configured intersection 7. -/
def demoPrgPackage (requestType : PriorityRequestType) : PrgLabel :=
  .processPrgPackage
    { requestID := 1, intersectionID := 7, requestType := requestType, inBoundLane := .lane 1 }
    { vehicleID := [0xAA], vehicleKey := [0xAA], estimatedArrivalTime := 5,
      estimatedDepartureTime := 3 }
    true

/-- The key of its request, `\xAA|1|7`. -/
def demoTrackerKey : TrackerKey := [0xAA, 0x7C, 0x31, 0x7C, 0x37]

/-- A request is cancelled, and then updated before the clear goes out. -/
def updateOfCanceledRun : List PrgLabel :=
  [.configure [7] 30, .setLaneStrategy 7 1 5, demoPrgPackage .priorityRequest,
    demoPrgPackage .priorityCancellation, demoPrgPackage .priorityRequestUpdate]

/-- The update follows the cancel. -/
theorem prg_update_of_canceled :
    ¬ ∀ (es : List PrgLabel) (s : PrgState), Run Prg {} es s → Lawful s.log := by
  intro h
  have hrun : (updateOfCanceledRun.foldlM prgStep {}).map PrgState.log =
      some [.set demoTrackerKey .priorityUpdateAbsolute true,
        .set demoTrackerKey .priorityCancel true,
        .set demoTrackerKey .priorityRequestAbsolute true] := by
    decide +kernel
  obtain ⟨s, hs, hlog⟩ := Option.map_eq_some_iff.mp hrun
  have hlawful := h _ s (Run.of_foldlM hs)
  rw [hlog] at hlawful
  have hlast : lastStanding demoTrackerKey
      [.set demoTrackerKey .priorityCancel true,
        .set demoTrackerKey .priorityRequestAbsolute true] = some .priorityCancel := by
    decide
  simp [Lawful, Justified, hlast] at hlawful

/-- A request, its update, its cancel and the sweep two seconds later. -/
def fullCycleRun : List PrgLabel :=
  [.configure [7] 30, .setLaneStrategy 7 1 5, demoPrgPackage .priorityRequest,
    demoPrgPackage .priorityRequestUpdate, demoPrgPackage .priorityCancellation,
    .sweepStaleTrackedRequests 2000 fun _ => true]

theorem prg_commands_lawful_full_cycle :
    ∃ s, Run (Guarded (fun s e => noUpdateOfCanceled s e = true) Prg) {} fullCycleRun s ∧
      s.log =
        [.set demoTrackerKey .priorityClear true,
          .set demoTrackerKey .priorityCancel true,
          .set demoTrackerKey .priorityUpdateAbsolute true,
          .set demoTrackerKey .priorityRequestAbsolute true] ∧
      Lawful s.log := by
  have hrun : (fullCycleRun.foldlM (guardedStep noUpdateOfCanceled prgStep) {}).map PrgState.log =
      some [.set demoTrackerKey .priorityClear true,
        .set demoTrackerKey .priorityCancel true,
        .set demoTrackerKey .priorityUpdateAbsolute true,
        .set demoTrackerKey .priorityRequestAbsolute true] := by
    decide +kernel
  obtain ⟨s, hs, hlog⟩ := Option.map_eq_some_iff.mp hrun
  have hguarded := Run.guarded_of_foldlM hs
  exact ⟨s, hguarded, hlog, prg_commands_lawful hguarded⟩

end V2XHub.Priority
