import V2XHub.Priority.Exchange

/-!
# What the exchange guarantees

Three laws one would like the exchange loop to have, over all runs of the loop with the SRM handler
and with every outcome of the SNMP operations:

* *agreement*: after a successful exchange the controller holds the table,
* *isolation*: a controller is told of, and answers for, its own intersection only,
* *attribution*: a row of the answer is applied to the request that was sent in that row.

None holds of every run: the loop has one cache and one table for all controllers, and knows a
request by its row only. Each law is proved for the runs whose steps avoid its weak spot, stated as
a condition on the state before the step, next to a run that shows the law fail without it.
-/

namespace V2XHub.Priority

open RequestStatus Lib

/-! ## Agreement -/

/-- The controller of `target` holds `payload`. -/
def Holds (s : ExchangeState) (target : Target) (payload : List UInt8) : Prop :=
  (s.held target.client).map (·.payload) = some payload

/-- When an exchange has returned Ok, its controller holds the table as prioritization left it. -/
def Agrees (s : ExchangeState) : Prop :=
  ∀ target, s.phase = .returned target .ok → Holds s target (s.left.encodeServiceRequest false)

/-- The weak spot: an exchange may skip its first SET only against a controller that holds the
cached payload. -/
def cacheFits (s : ExchangeState) (e : ExchangeLabel) : Bool :=
  match e, s.phase with
  | .firstSet _, .encoded target setData _ =>
      setData ≠ s.lastSentServiceRequest ||
        (s.held target.client).map (·.payload) = some s.lastSentServiceRequest
  | _, _ => true

/-- What agreement rests on: from its first SET on, the exchange's controller holds what is in the
cache. -/
def CacheInvariant (s : ExchangeState) : Prop :=
  match s.phase with
  | .polling target _ => Holds s target s.lastSentServiceRequest
  | .replied target _ => Holds s target s.lastSentServiceRequest
  | .updated target updatedSetData _ =>
      updatedSetData = s.left.encodeServiceRequest false ∧
        Holds s target s.lastSentServiceRequest
  | .returned target .ok => Holds s target (s.left.encodeServiceRequest false)
  | _ => True

theorem Holds.accept (s : ExchangeState) (target : Target) (payload : List UInt8)
    (table : PriorityTable) (phase : Phase) :
    Holds { s.accept target payload table with phase := phase } target payload := by
  simp [Holds, ExchangeState.accept]

theorem CacheInvariant.step {s t : ExchangeState} {e : ExchangeLabel} (hinv : CacheInvariant s)
    (h : Guarded (fun s e => cacheFits s e = true) Exchange s e t) : CacheInvariant t := by
  obtain ⟨hfits, hstep⟩ := h
  cases hstep.cases with
  | applyPrsPackage pkg input => exact hinv
  | configured htable => exact hinv
  | idle hphase => exact hinv
  | firstSent hphase hne => exact Holds.accept ..
  | firstSkipped hphase heq =>
      -- nothing was sent: that the controller holds the payload is the guard
      simp only [cacheFits, hphase, heq, ne_eq, not_true_eq_false, decide_false, Bool.false_or,
        decide_eq_true_eq] at hfits
      exact hfits
  | polledAgain hphase =>
      simp only [CacheInvariant, hphase] at hinv
      exact hinv
  | replied hphase hreply =>
      simp only [CacheInvariant, hphase] at hinv
      exact hinv
  | @gaveUp _ target _ result hphase hresult =>
      cases result with
      | ok => exact absurd rfl hresult
      | _ => trivial
  | applied hphase =>
      simp only [CacheInvariant, hphase] at hinv
      exact ⟨rfl, hinv⟩
  | secondSent hphase hne =>
      simp only [CacheInvariant, hphase] at hinv
      obtain ⟨rfl, -⟩ := hinv
      exact Holds.accept ..
  | secondSkipped hphase heq =>
      -- the cache was checked at the first SET, so equal to the cache means held
      simp only [CacheInvariant, hphase] at hinv
      obtain ⟨rfl, hholds⟩ := hinv
      rw [← heq] at hholds
      exact hholds
  | selected hphase htarget => trivial
  | encoded hphase => trivial
  | firstFailed hphase hne => trivial
  | secondFailed hphase hne => trivial
  | broadcast hphase => trivial

/-- **Agreement**: in every run in which the cache is used only against controllers that hold the
cached payload, whenever an exchange returns Ok its controller holds the encoding of the table as
that exchange's prioritization left it. -/
theorem exchange_agreement {es : List ExchangeLabel} {s : ExchangeState}
    (hrun : Run (Guarded (fun s e => cacheFits s e = true) Exchange) {} es s) : Agrees s := by
  have hinv : CacheInvariant s := hrun.invariant (fun _ _ _ hs h => hs.step h) trivial
  intro target hphase
  simp only [CacheInvariant, hphase] at hinv
  exact hinv

/-! ### A run without agreement

Two intersections, a request for each. The rows differ in vehicle class only, which is not encoded,
so sorting them does not change the payload. -/

/-- The controller of intersection `n`. -/
def demoTarget (n : UInt16) : Target where
  client := { ip := "10.0.0.1", port := n }
  intersectionID := n.toNat

def demoControllers (ns : List UInt16) : AList fun _ : Int => ControllerInfo :=
  ns.foldr (fun n controllers => controllers.insert (demoTarget n).intersectionID
    { intersectionID := (demoTarget n).intersectionID,
      snmpClient := some (demoTarget n).client }) ∅

def demoPkg (intersectionID : Int) : SignalRequestPackage where
  requestID := 1
  intersectionID := intersectionID
  requestType := .priorityRequest
  inBoundLane := .lane 1

def demoInput (classType : UInt8) : PrsPackageInput where
  vehicleID := [classType]
  classType := classType
  classLevel := 1
  nowEpoch := 1000
  timeToLiveSec := 60
  estimatedArrivalTime := 10
  estimatedDepartureTime := 20

/-- The 110 bytes of a controller that reports nothing and is not busy. -/
def quietReply : List UInt8 := List.replicate serviceRequestSize 0

/-- One exchange in which every SNMP operation succeeds. -/
def demoExchange (reply : List UInt8) : List ExchangeLabel :=
  [.selectTarget (some 1), .encode, .firstSet true, .get (some reply), .apply 1000,
    .secondSet true]

/-- Two exchanges in a row: the first with intersection 1, whose request is in the first row; the
prioritization moves the request of intersection 2 there, so the second is with intersection 2. -/
def twoControllersRun : List ExchangeLabel :=
  [.setControllers (demoControllers [1, 2]), .setLaneStrategy 1 1 5, .setLaneStrategy 2 1 5,
    .applyPrsPackage (demoPkg 1) (demoInput 3), .applyPrsPackage (demoPkg 2) (demoInput 1)] ++
  demoExchange quietReply ++ [.broadcastSsm 2 1000] ++ demoExchange quietReply

/-- The second exchange returns Ok against a controller that was never sent anything. -/
theorem exchange_disagreement :
    ¬ ∀ (es : List ExchangeLabel) (s : ExchangeState), Run Exchange {} es s → Agrees s := by
  intro h
  have hrun : (twoControllersRun.foldlM exchangeStep {}).map
      (fun s => (s.phase, s.held (demoTarget 2).client)) =
        some (.returned (demoTarget 2) .ok, none) := by
    decide +kernel
  obtain ⟨s, hs, hobs⟩ := Option.map_eq_some_iff.mp hrun
  obtain ⟨hphase, hheld⟩ := Prod.mk.inj hobs
  have hagrees := h _ s (Run.of_foldlM hs) (demoTarget 2) hphase
  rw [Holds, hheld] at hagrees
  cases hagrees

/-- One request and one exchange with one controller. -/
def oneControllerRun : List ExchangeLabel :=
  [.setControllers (demoControllers [1]), .setLaneStrategy 1 1 5,
    .applyPrsPackage (demoPkg 1) (demoInput 3)] ++ demoExchange quietReply

/-- It returns Ok, and the controller holds the table. -/
theorem exchange_agreement_one_controller :
    ∃ s, Run (Guarded (fun s e => cacheFits s e = true) Exchange) {} oneControllerRun s ∧
      s.phase = .returned (demoTarget 1) .ok ∧ Agrees s := by
  have hrun : (oneControllerRun.foldlM (guardedStep cacheFits exchangeStep) {}).map
      ExchangeState.phase = some (.returned (demoTarget 1) .ok) := by
    decide +kernel
  obtain ⟨s, hs, hphase⟩ := Option.map_eq_some_iff.mp hrun
  have hguarded := Run.guarded_of_foldlM hs
  exact ⟨s, hguarded, hphase, exchange_agreement hguarded⟩

/-! ## Isolation -/

/-- Every open row of the payload belongs to an entry for intersection `intersectionID`. Row `i` of
the payload encodes row `i` of the table. -/
def PayloadIsolated (intersectionID : Int) (payload : List UInt8) (table : PriorityTable) : Prop :=
  ∀ (i : Nat) (e : PriorityRequestEntry), table.rows[i]? = some e →
    payload[i * serviceRequestRowSize + 9]? ≠ some idleNotValid.toByte →
    e.intersectionID = intersectionID

/-- The answer changes statuses of entries for `intersectionID` only, and timers only because such
an entry completed. -/
def ReplyIsolated (intersectionID : Int) (p : PriorityRequestProcessor)
    (coRows : List CoServiceResponseRow) (now : UInt32) : Prop :=
  (∀ (i : Nat) (e e' : PriorityRequestEntry), p.table.rows[i]? = some e →
    (p.applyCoStatusUpdates coRows now).table.rows[i]? = some e' →
    e'.statusInPRS ≠ e.statusInPRS ∨ e'.statusInCO ≠ e.statusInCO →
    e.intersectionID = intersectionID) ∧
  (∀ k, (p.applyCoStatusUpdates coRows now).reserviceLastCompletedTime[k]? ≠
      p.reserviceLastCompletedTime[k]? →
    ∃ e ∈ p.table.rows, e.intersectionID = intersectionID ∧ classIdx e.vehicleClassType = k)

/-- A step taken from `s` with label `e` sends nothing to, and takes nothing from, the wrong
controller. -/
def Isolated (s : ExchangeState) (e : ExchangeLabel) : Prop :=
  match e, s.phase with
  | .firstSet _, .encoded target setData table =>
      setData ≠ s.lastSentServiceRequest → PayloadIsolated target.intersectionID setData table
  | .secondSet _, .updated target updatedSetData table =>
      updatedSetData ≠ s.lastSentServiceRequest →
        PayloadIsolated target.intersectionID updatedSetData table
  | .apply now, .replied target coRows =>
      ReplyIsolated target.intersectionID s.prs.processor coRows now
  | _, _ => True

/-- The weak spot: the encoder and the status update do not look at the intersection of a row, so
all open rows have to be the target's when they run. -/
def oneIntersection (s : ExchangeState) (e : ExchangeLabel) : Bool :=
  match e, s.phase with
  | .encode, .selected target => onlyFor target
  | .apply _, .replied target _ => onlyFor target
  | _, _ => true
where
  onlyFor (target : Target) : Bool :=
    s.table.rows.all fun entry =>
      entry.statusInPRS = idleNotValid || entry.intersectionID = target.intersectionID

/-- All open rows are requests for `intersectionID`. -/
def OnlyFor (intersectionID : Int) (table : PriorityTable) : Prop :=
  OpenRows (fun request => request.intersectionID = intersectionID) table.rows

theorem onlyFor_iff {s : ExchangeState} {target : Target} :
    oneIntersection.onlyFor s target = true ↔ OnlyFor target.intersectionID s.table := by
  simp only [oneIntersection.onlyFor, OnlyFor, OpenRows, List.all_eq_true, Bool.or_eq_true,
    decide_eq_true_eq, PriorityRequestEntry.identity]
  exact forall₂_congr fun e _ => or_iff_not_imp_left

theorem OnlyFor.payloadIsolated {intersectionID : Int} {table : PriorityTable}
    (h : OnlyFor intersectionID table) (prsBusy : Bool) :
    PayloadIsolated intersectionID (table.encodeServiceRequest prsBusy) table := by
  intro i e he hrow
  rw [table.statusByte_encodeServiceRequest prsBusy he] at hrow
  refine h e (List.mem_of_getElem? he) fun hidle => hrow ?_
  rw [hidle]

/-- The answer leaves idle rows alone: where it changes a status there is a request. -/
theorem open_of_status_ne {p : PriorityRequestProcessor} {coRows : List CoServiceResponseRow}
    {now : UInt32} {i : Nat} {e e' : PriorityRequestEntry} (he : p.table.rows[i]? = some e)
    (he' : (p.applyCoStatusUpdates coRows now).table.rows[i]? = some e')
    (hchange : e'.statusInPRS ≠ e.statusInPRS ∨ e'.statusInCO ≠ e.statusInCO) :
    e.statusInPRS ≠ idleNotValid := by
  intro hidle
  have hrow := PriorityRequestProcessor.getElem?_applyCoStatusUpdates coRows now he
  rw [PriorityRequestEntry.applyCoStatus_of_idle hidle, he'] at hrow
  have hsame : e' = e := Option.some.inj hrow
  rw [hsame] at hchange
  rcases hchange with hne | hne
  · exact hne rfl
  · exact hne rfl

theorem OnlyFor.replyIsolated {intersectionID : Int} {p : PriorityRequestProcessor}
    (h : OnlyFor intersectionID p.table) (coRows : List CoServiceResponseRow) (now : UInt32) :
    ReplyIsolated intersectionID p coRows now := by
  constructor
  · intro i e e' he he' hchange
    exact h e (List.mem_of_getElem? he) (open_of_status_ne he he' hchange)
  · intro k hk
    obtain ⟨i, e, he, hcompletes, hclass⟩ := PriorityRequestProcessor.completes_of_timer_ne hk
    have hmem := List.mem_of_getElem? he
    refine ⟨e, hmem, h e hmem ?_, hclass⟩
    simp only [PriorityRequestEntry.completes, Bool.and_eq_true, decide_eq_true_eq] at hcompletes
    exact hcompletes.1.1

theorem OnlyFor.applyReply {intersectionID : Int} {prs : PrsState}
    (hinv : TableInvariant prs.table.rows) (h : OnlyFor intersectionID prs.table)
    (coRows : List CoServiceResponseRow) (now : UInt32) :
    OnlyFor intersectionID (applyReply prs coRows now).table := by
  have happlied : OnlyFor intersectionID
      ((TableOp.applyCoStatusUpdates coRows now).apply prs).table :=
    h.of_rowStep (forall₂_mapIdx fun _ e _ => rowStep_applyCoStatus _ e)
  exact happlied.runPrioritizationProcessing (hinv.apply _) now

/-- The tables of the exchange are tables of `TableOp` runs. -/
theorem Exchange.tableInvariant {s t : ExchangeState} {e : ExchangeLabel} (h : Exchange s e t)
    (hinv : TableInvariant s.table.rows) : TableInvariant t.table.rows := by
  cases h.cases with
  | applyPrsPackage pkg input => exact hinv.apply _
  | configured htable =>
      unfold ExchangeState.table
      rw [htable]
      exact hinv
  | applied hphase => exact TableInvariant.apply (hinv.apply _) _
  | broadcast hphase => exact hinv.apply _
  | _ => exact hinv

/-- A payload waiting to be sent encodes a table with requests for its target only. -/
def IsolationInvariant (s : ExchangeState) : Prop :=
  match s.phase with
  | .encoded target setData table =>
      ∃ prsBusy, setData = table.encodeServiceRequest prsBusy ∧
        OnlyFor target.intersectionID table
  | .updated target updatedSetData table =>
      ∃ prsBusy, updatedSetData = table.encodeServiceRequest prsBusy ∧
        OnlyFor target.intersectionID table
  | _ => True

theorem IsolationInvariant.step {s t : ExchangeState} {e : ExchangeLabel}
    (htable : TableInvariant s.table.rows) (hinv : IsolationInvariant s)
    (h : Guarded (fun s e => oneIntersection s e = true) Exchange s e t) :
    IsolationInvariant t := by
  obtain ⟨hguard, hstep⟩ := h
  cases hstep.cases with
  | applyPrsPackage pkg input => exact hinv
  | configured htable => exact hinv
  | idle hphase => exact hinv
  | encoded hphase =>
      simp only [oneIntersection, hphase] at hguard
      exact ⟨_, rfl, onlyFor_iff.mp hguard⟩
  | applied hphase =>
      simp only [oneIntersection, hphase] at hguard
      exact ⟨_, rfl, (onlyFor_iff.mp hguard).applyReply htable _ _⟩
  | _ => trivial

/-- **Isolation**: in every run in which all open rows are for the target's intersection whenever
the table is encoded and whenever an answer is applied, no step of an exchange sends a row of
another intersection to its controller or applies its answer to one. -/
theorem exchange_isolation {es : List ExchangeLabel} {s : ExchangeState} {e : ExchangeLabel}
    (hrun : Run (Guarded (fun s e => oneIntersection s e = true) Exchange) {} es s)
    (hguard : oneIntersection s e = true) : Isolated s e := by
  have hinv : TableInvariant s.table.rows ∧ IsolationInvariant s :=
    hrun.invariant (I := fun s => TableInvariant s.table.rows ∧ IsolationInvariant s)
      (fun _ _ _ hs h => ⟨h.2.tableInvariant hs.1, hs.2.step hs.1 h⟩)
      ⟨tableInvariant_initial, trivial⟩
  have hpending := hinv.2
  unfold Isolated
  split
  next hphase =>
    simp only [IsolationInvariant, hphase] at hpending
    obtain ⟨prsBusy, rfl, honly⟩ := hpending
    exact fun _ => honly.payloadIsolated prsBusy
  next hphase =>
    simp only [IsolationInvariant, hphase] at hpending
    obtain ⟨prsBusy, rfl, honly⟩ := hpending
    exact fun _ => honly.payloadIsolated prsBusy
  next hphase =>
    simp only [oneIntersection, hphase] at hguard
    exact (onlyFor_iff.mp hguard).replyIsolated _ _
  · trivial

/-- A table with requests for two intersections. -/
def twoIntersections : List TableOp :=
  [.setLaneStrategy 1 1 5, .setLaneStrategy 2 1 5,
    .applyPrsPackage (demoPkg 1) (demoInput 1), .applyPrsPackage (demoPkg 2) (demoInput 3)]

/-- The controller of intersection 1 is about to be sent the request for intersection 2. -/
theorem exchange_not_isolated :
    ¬ ∀ (es : List ExchangeLabel) (s : ExchangeState) (e : ExchangeLabel),
      Run Exchange {} es s → Isolated s e := by
  intro h
  have hrun : (([.setControllers (demoControllers [1, 2]), .setLaneStrategy 1 1 5,
      .setLaneStrategy 2 1 5, .applyPrsPackage (demoPkg 1) (demoInput 1),
      .applyPrsPackage (demoPkg 2) (demoInput 3), .selectTarget (some 1), .encode] :
        List ExchangeLabel).foldlM exchangeStep {}).map
      (fun s => (s.phase, s.lastSentServiceRequest)) =
        some (.encoded (demoTarget 1)
          ((TableOp.run twoIntersections).table.encodeServiceRequest false)
          (TableOp.run twoIntersections).table, []) := by
    decide +kernel
  obtain ⟨s, hs, hobs⟩ := Option.map_eq_some_iff.mp hrun
  obtain ⟨hphase, hlast⟩ := Prod.mk.inj hobs
  have hisolated := h _ s (.firstSet true) (Run.of_foldlM hs)
  simp only [Isolated, hphase, hlast] at hisolated
  have hid := hisolated (by decide +kernel) 1
    ((TableOp.run twoIntersections).table.rows.getD 1 {}) (by decide +kernel) (by decide +kernel)
  revert hid
  decide +kernel

/-- One controller, its own request, and an answer about to be applied. -/
theorem exchange_isolation_one_controller :
    ∃ s, Run (Guarded (fun s e => oneIntersection s e = true) Exchange) {}
        (oneControllerRun.take 7) s ∧
      (∃ coRows, s.phase = .replied (demoTarget 1) coRows) ∧ Isolated s (.apply 1000) := by
  have hrun : ((oneControllerRun.take 7).foldlM (guardedStep oneIntersection exchangeStep) {}).map
      (fun s => (s.phase, oneIntersection s (.apply 1000))) =
        some (.replied (demoTarget 1) (List.replicate 10 {}), true) := by
    decide +kernel
  obtain ⟨s, hs, hobs⟩ := Option.map_eq_some_iff.mp hrun
  obtain ⟨hphase, hguard⟩ := Prod.mk.inj hobs
  have hguarded := Run.guarded_of_foldlM hs
  exact ⟨s, hguarded, ⟨_, hphase⟩, exchange_isolation hguarded hguard⟩

/-! ## Attribution -/

/-- The table in the payload the controller last accepted; ten idle rows if it never was sent
one. -/
def ExchangeState.sentTable (s : ExchangeState) (client : SnmpClient) : PriorityTable :=
  ((s.held client).map (·.table)).getD .initial

/-- An answer applied from `s` changes the status of a row only if the controller was last sent the
same request in that row. -/
def Attributed (s : ExchangeState) (e : ExchangeLabel) : Prop :=
  match e, s.phase with
  | .apply now, .replied target coRows =>
      ∀ (i : Nat) (e e' : PriorityRequestEntry), s.table.rows[i]? = some e →
        (s.prs.processor.applyCoStatusUpdates coRows now).table.rows[i]? = some e' →
        e'.statusInPRS ≠ e.statusInPRS ∨ e'.statusInCO ≠ e.statusInCO →
        ∃ sent, (s.sentTable target.client).rows[i]? = some sent ∧
          sent.statusInPRS ≠ idleNotValid ∧ e.identity = sent.identity
  | _, _ => True

/-- An open row holds the request that was sent in its place. -/
def SentAs (sent e : PriorityRequestEntry) : Prop :=
  e.statusInPRS ≠ idleNotValid → sent.statusInPRS ≠ idleNotValid ∧ e.identity = sent.identity

instance (sent e : PriorityRequestEntry) : Decidable (SentAs sent e) :=
  inferInstanceAs (Decidable (_ → _))

/-- Row by row, the open rows of `table` hold what was sent in `sent`. -/
abbrev InPlace (sent table : PriorityTable) : Prop := List.Forall₂ SentAs sent.rows table.rows

/-- The package is stored in a free row. -/
def takesFreeRow (p : PriorityRequestProcessor) (pkg : SignalRequestPackage)
    (input : PrsPackageInput) : Bool :=
  p.table.rows.all (fun entry => !holdsRequest p pkg input entry) &&
    p.table.rows.any (fun entry => entry.statusInPRS = idleNotValid)

/-- The weak spots: a request stored between the encoding of the table and the application of the
answer, and a first SET that is skipped although some open row holds another request than the one
the controller was last sent in its place. -/
def rowsStayPut (s : ExchangeState) (e : ExchangeLabel) : Bool :=
  match e, s.phase with
  | .applyPrsPackage pkg input, .encoded _ _ _ => !takesFreeRow s.prs.processor pkg input
  | .applyPrsPackage pkg input, .polling _ _ => !takesFreeRow s.prs.processor pkg input
  | .applyPrsPackage pkg input, .replied _ _ => !takesFreeRow s.prs.processor pkg input
  | .firstSet _, .encoded target setData table =>
      setData ≠ s.lastSentServiceRequest || InPlace (s.sentTable target.client) table
  | _, _ => true

/-- Between encoding and applying, the open rows hold what the payload says. -/
def AttributionInvariant (s : ExchangeState) : Prop :=
  match s.phase with
  | .encoded _ _ table => InPlace table s.table
  | .polling target _ => InPlace (s.sentTable target.client) s.table
  | .replied target _ => InPlace (s.sentTable target.client) s.table
  | _ => True

theorem InPlace.refl (table : PriorityTable) : InPlace table table :=
  List.forall₂_same.mpr fun _ _ hopen => ⟨hopen, rfl⟩

theorem InPlace.of_rowStep {sent table table' : PriorityTable} (h : InPlace sent table)
    (hstep : List.Forall₂ RowStep table.rows table'.rows) : InPlace sent table' := by
  refine forall₂_trans (fun a b c hab hbc hopen => ?_) h hstep
  obtain ⟨hopen', hid⟩ := hbc.identity_of_open hopen
  obtain ⟨hsent, hid'⟩ := hab hopen'
  exact ⟨hsent, hid.trans hid'⟩

theorem InPlace.trans {t₁ t₂ t₃ : PriorityTable} (h₁ : InPlace t₁ t₂) (h₂ : InPlace t₂ t₃) :
    InPlace t₁ t₃ := by
  refine forall₂_trans (fun a b c hab hbc hopen => ?_) h₁ h₂
  obtain ⟨hopen', hid⟩ := hbc hopen
  obtain ⟨hsent, hid'⟩ := hab hopen'
  exact ⟨hsent, hid.trans hid'⟩

/-- A package that does not take a free row updates a row in place or finds the table full. -/
theorem rowStep_applyPrsPackage {p : PriorityRequestProcessor} {pkg : SignalRequestPackage}
    {input : PrsPackageInput} (h : takesFreeRow p pkg input = false) :
    List.Forall₂ RowStep p.table.rows (applyPrsPackage p pkg input p.table).1.rows := by
  obtain ⟨i, entry, hget, hholds, heq⟩ | heq | ⟨slot, entry, hget, hidle, hnone, -⟩ :=
    applyPrsPackage_cases p pkg input p.table
  · rw [heq]
    exact rowStep_updatedEntry p pkg input hget hholds
  · rw [heq]
    exact List.forall₂_same.mpr fun e _ => .refl e
  · -- the guard excludes this case: no row holds the request and one is idle
    have hfree : takesFreeRow p pkg input = true := by
      simp only [takesFreeRow, Bool.and_eq_true, List.all_eq_true, List.any_eq_true,
        Bool.not_eq_true', decide_eq_true_eq]
      exact ⟨hnone, entry, List.mem_of_getElem? hget, hidle⟩
    rw [h] at hfree
    cases hfree

theorem sentTable_accept (s : ExchangeState) (target : Target) (payload : List UInt8)
    (table : PriorityTable) (phase : Phase) :
    ({ s.accept target payload table with phase := phase } : ExchangeState).sentTable
      target.client = table := by
  simp [ExchangeState.sentTable, ExchangeState.accept]

/-- The SRM handler gets in during the exchange. -/
theorem AttributionInvariant.applyPrsPackage {s : ExchangeState} (hinv : AttributionInvariant s)
    {pkg : SignalRequestPackage} {input : PrsPackageInput}
    (hguard : rowsStayPut s (.applyPrsPackage pkg input) = true) :
    AttributionInvariant
      { s with prs := (TableOp.applyPrsPackage pkg input).apply s.prs } := by
  unfold AttributionInvariant at hinv ⊢
  cases hphase : s.phase with
  | encoded target setData table =>
      simp only [rowsStayPut, hphase, Bool.not_eq_true'] at hinv hguard ⊢
      exact hinv.of_rowStep (rowStep_applyPrsPackage hguard)
  | polling target retries =>
      simp only [rowsStayPut, hphase, Bool.not_eq_true'] at hinv hguard ⊢
      exact hinv.of_rowStep (rowStep_applyPrsPackage hguard)
  | replied target coRows =>
      simp only [rowsStayPut, hphase, Bool.not_eq_true'] at hinv hguard ⊢
      exact hinv.of_rowStep (rowStep_applyPrsPackage hguard)
  | _ => simp

theorem AttributionInvariant.step {s t : ExchangeState} {e : ExchangeLabel}
    (hinv : AttributionInvariant s)
    (h : Guarded (fun s e => rowsStayPut s e = true) Exchange s e t) :
    AttributionInvariant t := by
  obtain ⟨hguard, hstep⟩ := h
  cases hstep.cases with
  | applyPrsPackage pkg input => exact hinv.applyPrsPackage hguard
  | configured htable =>
      simpa only [AttributionInvariant, ExchangeState.table, ExchangeState.sentTable, htable]
        using hinv
  | idle hphase => exact hinv
  | encoded hphase => exact InPlace.refl _
  | firstSent hphase hne =>
      simp only [AttributionInvariant, hphase] at hinv
      simp only [AttributionInvariant, sentTable_accept]
      exact hinv
  | firstSkipped hphase heq =>
      -- the payload is older than this exchange; the guard compares the rows with it
      simp only [AttributionInvariant, hphase] at hinv
      simp only [rowsStayPut, hphase, heq, ne_eq, not_true_eq_false, decide_false, Bool.false_or,
        decide_eq_true_eq] at hguard
      exact hguard.trans hinv
  | polledAgain hphase =>
      simp only [AttributionInvariant, hphase] at hinv
      exact hinv
  | replied hphase hreply =>
      simp only [AttributionInvariant, hphase] at hinv
      exact hinv
  | _ => trivial

/-- **Attribution**: in every run in which no request is stored between the encoding of the table
and the application of the answer, and a first SET is skipped only while the open rows hold what
the controller was last sent in their place, an answer changes the status of a row only if its
request is the one the controller was last sent in that row. -/
theorem exchange_attribution {es : List ExchangeLabel} {s : ExchangeState}
    (hrun : Run (Guarded (fun s e => rowsStayPut s e = true) Exchange) {} es s)
    (e : ExchangeLabel) : Attributed s e := by
  have hinv : AttributionInvariant s := hrun.invariant (fun _ _ _ hs h => hs.step h) trivial
  unfold Attributed
  split
  next now target coRows hphase =>
    simp only [AttributionInvariant, hphase] at hinv
    intro i e e' he he' hchange
    obtain ⟨sent, hsent, hsentAs⟩ := exists_before hinv he
    exact ⟨sent, hsent, hsentAs (open_of_status_ne he he' hchange)⟩
  · trivial

/-- The row of a single request. -/
def lateRequest : PriorityRequestEntry :=
  (TableOp.run [.setLaneStrategy 1 1 5, .applyPrsPackage (demoPkg 1) (demoInput 3)]).table.rows.getD
    0 {}

/-- The answer's first row reads `closedCompleted`. -/
def completedReply : List UInt8 := quietReply.set 9 closedCompleted.toByte

/-- One controller, polled while the table is empty; the request arrives after the table was
encoded. -/
def lateRequestRun : List ExchangeLabel :=
  [.setControllers (demoControllers [1]), .setLaneStrategy 1 1 5, .selectTarget (some 1), .encode,
    .firstSet true, .applyPrsPackage (demoPkg 1) (demoInput 3), .get (some completedReply)]

/-- The request, which no controller has been sent, is marked as completed. -/
theorem exchange_misattribution :
    ¬ ∀ (es : List ExchangeLabel) (s : ExchangeState) (e : ExchangeLabel),
      Run Exchange {} es s → Attributed s e := by
  intro h
  have hrun : (lateRequestRun.foldlM exchangeStep {}).map
      (fun s => (s.phase, s.table.rows[0]?, s.sentTable (demoTarget 1).client)) =
        some (.replied (demoTarget 1)
          ({ requestStatusInCO := closedCompleted } :: List.replicate 9 {}),
          some lateRequest, .initial) := by
    decide +kernel
  obtain ⟨s, hs, hobs⟩ := Option.map_eq_some_iff.mp hrun
  simp only [Prod.mk.injEq] at hobs
  obtain ⟨hphase, hrow, hsent⟩ := hobs
  have hattr := h _ s (.apply 1000) (Run.of_foldlM hs)
  simp only [Attributed, hphase, hsent] at hattr
  obtain ⟨sent, hget, hopen, -⟩ := hattr 0 lateRequest _ hrow
    (PriorityRequestProcessor.getElem?_applyCoStatusUpdates _ 1000 hrow) (by decide +kernel)
  obtain rfl : ({} : PriorityRequestEntry) = sent := Option.some.inj hget
  exact hopen rfl

/-- One controller that was sent the request it answers for. -/
theorem exchange_attribution_one_controller :
    ∃ s, Run (Guarded (fun s e => rowsStayPut s e = true) Exchange) {}
        (oneControllerRun.take 7) s ∧
      (∃ coRows, s.phase = .replied (demoTarget 1) coRows) ∧ Attributed s (.apply 1000) := by
  have hrun : ((oneControllerRun.take 7).foldlM (guardedStep rowsStayPut exchangeStep) {}).map
      ExchangeState.phase = some (.replied (demoTarget 1) (List.replicate 10 {})) := by
    decide +kernel
  obtain ⟨s, hs, hphase⟩ := Option.map_eq_some_iff.mp hrun
  have hguarded := Run.guarded_of_foldlM hs
  exact ⟨s, hguarded, ⟨_, hphase⟩, exchange_attribution hguarded (.apply 1000)⟩

end V2XHub.Priority
