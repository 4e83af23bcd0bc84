import V2XHub.Lib.Run
import V2XHub.Priority.TableInvariant

/-!
# The PRS-CO service exchange

`ServiceExchangeLoop` picks a controller, runs `DoOneServiceExchange` against it and broadcasts an
SSM, again and again. The table lock is held only while the target is chosen, while the table is
encoded, while the answer is applied, and while the SSM is built; between those sections the SRM
handler gets in, and every SNMP operation may fail.

The model is the transition system of those sections. Labels carry what the outside world decides:
the packages that arrive, the outcome of each SET and GET, the clock. `held` is the world's side of
the story, the last payload each controller accepted.
-/

namespace V2XHub.Priority

open RequestStatus

/-! ## State -/

/-- An SNMP client talks to the controller at one address. -/
structure SnmpClient where
  ip : String
  port : UInt16
  deriving DecidableEq, Repr

structure ControllerInfo where
  intersectionID : Int
  snmpClient : Option SnmpClient
  deriving DecidableEq, Repr

/-- `targetClient` and `targetIntersectionID`. -/
structure Target where
  client : SnmpClient
  intersectionID : Int
  deriving DecidableEq, Repr

inductive ExchangeResult where
  | ok
  | snmpSetFailed
  | coError
  | coStillBusy
  deriving DecidableEq, Repr

/-- A payload a controller accepted, with the table it encodes. -/
structure AcceptedRequest where
  payload : List UInt8
  table : PriorityTable
  deriving DecidableEq

/-- Where the loop is, between its locked sections. `encoded` and `updated` remember the table their
payload was taken from. -/
inductive Phase where
  | top
  | selected (target : Target)
  | encoded (target : Target) (setData : List UInt8) (table : PriorityTable)
  | polling (target : Target) (maxRetries : Nat)
  | replied (target : Target) (coRows : List CoServiceResponseRow)
  | updated (target : Target) (updatedSetData : List UInt8) (table : PriorityTable)
  | returned (target : Target) (result : ExchangeResult)
  deriving DecidableEq

structure ExchangeState where
  prs : PrsState := {}
  prsBusy : Bool := false
  lastSentServiceRequest : List UInt8 := []
  controllers : AList fun _ : Int => ControllerInfo := ∅
  phase : Phase := .top
  /-- The last payload successfully SET on each controller. -/
  held : SnmpClient → Option AcceptedRequest := fun _ => none
  /-- The table as the last prioritization left it. -/
  left : PriorityTable := .initial

namespace ExchangeState

def table (s : ExchangeState) : PriorityTable := s.prs.table

/-- A successful SET: the controller has the payload, and so has the cache. -/
def accept (s : ExchangeState) (target : Target) (payload : List UInt8) (table : PriorityTable) :
    ExchangeState :=
  { s with
    lastSentServiceRequest := payload
    held := fun client =>
      if client = target.client then some { payload := payload, table := table }
      else s.held client }

end ExchangeState

/-! ## Steps -/

inductive ExchangeLabel where
  /-- The SRM handler applies one package. `prsBusy` is read without the lock, so it is whatever
  the input says. -/
  | applyPrsPackage (pkg : SignalRequestPackage) (input : PrsPackageInput)
  | clearLaneStrategyMap
  | setLaneStrategy (intersectionID lane : Int) (strategyNumber : UInt8)
  | setControllers (controllers : AList fun _ : Int => ControllerInfo)
  /-- `first` is the key of `_controllers.begin()`, used when no open row names a controller. -/
  | selectTarget (first : Option Int)
  | encode
  | firstSet (setOk : Bool)
  /-- One GET: it fails, or returns some bytes. -/
  | get (reply : Option (List UInt8))
  /-- The poll ends while the CO is busy: the retries are used up, or `running` was cleared. -/
  | stopPolling
  | apply (now : UInt32)
  | secondSet (setOk : Bool)
  | broadcastSsm (maxBroadcastsPerStatus : UInt8) (nowEpoch : Int)

/-- The controller of the first open row that has one, else the first controller. -/
def selectTarget (table : PriorityTable) (controllers : AList fun _ : Int => ControllerInfo)
    (first : Option Int) : Option Target :=
  let ofRow := table.rows.findSome? fun entry =>
    if entry.statusInPRS = idleNotValid then none else target entry.intersectionID
  ofRow.or (first.bind target)
where
  target (key : Int) : Option Target := do
    let info ← controllers.lookup key
    let client ← info.snmpClient
    some { client := client, intersectionID := info.intersectionID }

/-- The poll starts with this many GETs left. -/
def maxPollRetries : Nat := 3

/-- Steps i) and j) under the lock: apply the answer, then prioritize. -/
def applyReply (prs : PrsState) (coRows : List CoServiceResponseRow) (now : UInt32) : PrsState :=
  (TableOp.runPrioritizationProcessing now).apply
    ((TableOp.applyCoStatusUpdates coRows now).apply prs)

def exchangeStep (s : ExchangeState) : ExchangeLabel → Option ExchangeState
  | .applyPrsPackage pkg input =>
      some { s with prs := (TableOp.applyPrsPackage pkg input).apply s.prs }
  | .clearLaneStrategyMap =>
      some { s with prs := TableOp.clearLaneStrategyMap.apply s.prs }
  | .setLaneStrategy intersectionID lane strategyNumber =>
      some { s with prs := (TableOp.setLaneStrategy intersectionID lane strategyNumber).apply s.prs }
  | .setControllers controllers => some { s with controllers := controllers }
  | .selectTarget first =>
      match s.phase with
      | .top =>
          match selectTarget s.table s.controllers first with
          | some target => some { s with phase := .selected target }
          | none => some s
      | _ => none
  | .encode =>
      match s.phase with
      | .selected target =>
          some { s with
            phase := .encoded target (s.table.encodeServiceRequest s.prsBusy) s.table }
      | _ => none
  | .firstSet setOk =>
      match s.phase with
      | .encoded target setData table =>
          if setData ≠ s.lastSentServiceRequest then
            if setOk then
              some { s.accept target setData table with phase := .polling target maxPollRetries }
            else some { s with phase := .returned target .snmpSetFailed }
          else some { s with phase := .polling target maxPollRetries }
      | _ => none
  | .get reply =>
      match s.phase with
      | .polling target (retries + 1) =>
          match reply.bind decodeCoServiceResponse with
          | none => some { s with phase := .returned target .coError }
          | some (coRows, coBusy) =>
              if coBusy then some { s with phase := .polling target retries }
              else some { s with phase := .replied target coRows }
      | _ => none
  | .stopPolling =>
      match s.phase with
      | .polling target _ => some { s with phase := .returned target .coStillBusy }
      | _ => none
  | .apply now =>
      match s.phase with
      | .replied target coRows =>
          let prs := applyReply s.prs coRows now
          -- `prsBusy` is raised for the prioritization and lowered before the table is encoded
          some { s with
            prs := prs
            prsBusy := false
            left := prs.table
            phase := .updated target (prs.table.encodeServiceRequest false) prs.table }
      | _ => none
  | .secondSet setOk =>
      match s.phase with
      | .updated target updatedSetData table =>
          if updatedSetData ≠ s.lastSentServiceRequest then
            if setOk then
              some { s.accept target updatedSetData table with phase := .returned target .ok }
            else some { s with phase := .returned target .snmpSetFailed }
          else some { s with phase := .returned target .ok }
      | _ => none
  | .broadcastSsm maxBroadcastsPerStatus nowEpoch =>
      match s.phase with
      | .returned _ _ =>
          some { s with
            prs := (TableOp.buildSsmFromTable maxBroadcastsPerStatus nowEpoch).apply s.prs
            phase := .top }
      | _ => none

/-- The step relation of the loop and the SRM handler together. -/
def Exchange : ExchangeState → ExchangeLabel → ExchangeState → Prop :=
  Lib.Steps exchangeStep

/-! ## What each step does

The branches of `exchangeStep`, each with the phase it needs and everything it changes. The laws go
by cases on this relation and never look at the function. -/

inductive ExchangeCase (s : ExchangeState) : ExchangeLabel → ExchangeState → Prop
  | applyPrsPackage (pkg : SignalRequestPackage) (input : PrsPackageInput) :
      ExchangeCase s (.applyPrsPackage pkg input)
        { s with prs := (TableOp.applyPrsPackage pkg input).apply s.prs }
  /-- A change of configuration leaves the table alone. -/
  | configured {e : ExchangeLabel} {prs : PrsState}
      {controllers : AList fun _ : Int => ControllerInfo} (htable : prs.table = s.prs.table) :
      ExchangeCase s e { s with prs := prs, controllers := controllers }
  | idle {first : Option Int} (hphase : s.phase = .top) : ExchangeCase s (.selectTarget first) s
  | selected {first : Option Int} {target : Target} (hphase : s.phase = .top)
      (htarget : selectTarget s.table s.controllers first = some target) :
      ExchangeCase s (.selectTarget first) { s with phase := .selected target }
  | encoded {target : Target} (hphase : s.phase = .selected target) :
      ExchangeCase s .encode
        { s with phase := .encoded target (s.table.encodeServiceRequest s.prsBusy) s.table }
  | firstSent {target : Target} {setData : List UInt8} {table : PriorityTable}
      (hphase : s.phase = .encoded target setData table)
      (hne : setData ≠ s.lastSentServiceRequest) :
      ExchangeCase s (.firstSet true)
        { s.accept target setData table with phase := .polling target maxPollRetries }
  | firstFailed {target : Target} {setData : List UInt8} {table : PriorityTable}
      (hphase : s.phase = .encoded target setData table)
      (hne : setData ≠ s.lastSentServiceRequest) :
      ExchangeCase s (.firstSet false) { s with phase := .returned target .snmpSetFailed }
  | firstSkipped {setOk : Bool} {target : Target} {setData : List UInt8} {table : PriorityTable}
      (hphase : s.phase = .encoded target setData table)
      (heq : setData = s.lastSentServiceRequest) :
      ExchangeCase s (.firstSet setOk) { s with phase := .polling target maxPollRetries }
  | polledAgain {reply : Option (List UInt8)} {target : Target} {retries : Nat}
      (hphase : s.phase = .polling target (retries + 1)) :
      ExchangeCase s (.get reply) { s with phase := .polling target retries }
  | replied {reply : Option (List UInt8)} {target : Target} {retries : Nat}
      {coRows : List CoServiceResponseRow} (hphase : s.phase = .polling target (retries + 1))
      (hreply : reply.bind decodeCoServiceResponse = some (coRows, false)) :
      ExchangeCase s (.get reply) { s with phase := .replied target coRows }
  | gaveUp {e : ExchangeLabel} {target : Target} {retries : Nat} {result : ExchangeResult}
      (hphase : s.phase = .polling target retries) (hresult : result ≠ .ok) :
      ExchangeCase s e { s with phase := .returned target result }
  | applied {now : UInt32} {target : Target} {coRows : List CoServiceResponseRow}
      (hphase : s.phase = .replied target coRows) :
      ExchangeCase s (.apply now)
        { s with
          prs := applyReply s.prs coRows now
          prsBusy := false
          left := (applyReply s.prs coRows now).table
          phase := .updated target
            ((applyReply s.prs coRows now).table.encodeServiceRequest false)
            (applyReply s.prs coRows now).table }
  | secondSent {target : Target} {updatedSetData : List UInt8} {table : PriorityTable}
      (hphase : s.phase = .updated target updatedSetData table)
      (hne : updatedSetData ≠ s.lastSentServiceRequest) :
      ExchangeCase s (.secondSet true)
        { s.accept target updatedSetData table with phase := .returned target .ok }
  | secondFailed {target : Target} {updatedSetData : List UInt8} {table : PriorityTable}
      (hphase : s.phase = .updated target updatedSetData table)
      (hne : updatedSetData ≠ s.lastSentServiceRequest) :
      ExchangeCase s (.secondSet false) { s with phase := .returned target .snmpSetFailed }
  | secondSkipped {setOk : Bool} {target : Target} {updatedSetData : List UInt8}
      {table : PriorityTable} (hphase : s.phase = .updated target updatedSetData table)
      (heq : updatedSetData = s.lastSentServiceRequest) :
      ExchangeCase s (.secondSet setOk) { s with phase := .returned target .ok }
  | broadcast {maxBroadcastsPerStatus : UInt8} {nowEpoch : Int} {target : Target}
      {result : ExchangeResult} (hphase : s.phase = .returned target result) :
      ExchangeCase s (.broadcastSsm maxBroadcastsPerStatus nowEpoch)
        { s with
          prs := (TableOp.buildSsmFromTable maxBroadcastsPerStatus nowEpoch).apply s.prs
          phase := .top }

theorem Exchange.cases {s t : ExchangeState} {e : ExchangeLabel} (h : Exchange s e t) :
    ExchangeCase s e t := by
  change exchangeStep s e = some t at h
  -- an event is a step only in the phase it belongs to
  cases e with
  | applyPrsPackage pkg input =>
      obtain rfl := Option.some.inj h
      exact .applyPrsPackage pkg input
  | clearLaneStrategyMap =>
      obtain rfl := Option.some.inj h
      exact .configured rfl
  | setLaneStrategy =>
      obtain rfl := Option.some.inj h
      exact .configured rfl
  | setControllers =>
      obtain rfl := Option.some.inj h
      exact .configured rfl
  | selectTarget first =>
      simp only [exchangeStep] at h
      split at h
      · split at h
        · obtain rfl := Option.some.inj h
          exact .selected ‹_› ‹_›
        · obtain rfl := Option.some.inj h
          exact .idle ‹_›
      · cases h
  | encode =>
      simp only [exchangeStep] at h
      split at h
      · obtain rfl := Option.some.inj h
        exact .encoded ‹_›
      · cases h
  | firstSet setOk =>
      simp only [exchangeStep] at h
      split at h
      · split_ifs at h with hne hok
        · obtain rfl := Option.some.inj h
          exact hok ▸ .firstSent ‹_› hne
        · obtain rfl := Option.some.inj h
          rw [Bool.not_eq_true] at hok
          exact hok ▸ .firstFailed ‹_› hne
        · obtain rfl := Option.some.inj h
          exact .firstSkipped ‹_› (not_not.mp hne)
      · cases h
  | get reply =>
      simp only [exchangeStep] at h
      split at h
      · split at h
        · obtain rfl := Option.some.inj h
          exact .gaveUp ‹_› (by decide)
        · split_ifs at h with hbusy
          · obtain rfl := Option.some.inj h
            exact .polledAgain ‹_›
          · obtain rfl := Option.some.inj h
            rw [Bool.not_eq_true] at hbusy
            exact .replied ‹_› (hbusy ▸ ‹_›)
      · cases h
  | stopPolling =>
      simp only [exchangeStep] at h
      split at h
      · obtain rfl := Option.some.inj h
        exact .gaveUp ‹_› (by decide)
      · cases h
  | apply now =>
      simp only [exchangeStep] at h
      split at h
      · obtain rfl := Option.some.inj h
        exact .applied ‹_›
      · cases h
  | secondSet setOk =>
      simp only [exchangeStep] at h
      split at h
      · split_ifs at h with hne hok
        · obtain rfl := Option.some.inj h
          exact hok ▸ .secondSent ‹_› hne
        · obtain rfl := Option.some.inj h
          rw [Bool.not_eq_true] at hok
          exact hok ▸ .secondFailed ‹_› hne
        · obtain rfl := Option.some.inj h
          exact .secondSkipped ‹_› (not_not.mp hne)
      · cases h
  | broadcastSsm =>
      simp only [exchangeStep] at h
      split at h
      · obtain rfl := Option.some.inj h
        exact .broadcast ‹_›
      · cases h

end V2XHub.Priority
