import V2XHub.Lib.Rowwise
import V2XHub.Priority.Builder
import V2XHub.Priority.Ssm

/-!
# The priority table over whole runs

The SRM handler, the exchange loop and the SSM broadcast all write to one table, in any order. This
module presents the table as a system with those operations as steps and proves what holds in every
reachable state.

Every operation but two rewrites rows in place, and what it can do to one row is `RowStep`. The two
others are the insertion of a request and the reordering of the rows.

**Main results**

* `tableInvariant_run`: idle rows are clean, no row is in a state that belongs to the CO, and no
  request is stored twice.
* `reclaimed_iff`: exactly when prioritization frees the rows of all expired requests the CO is not
  serving.
-/

namespace V2XHub.Priority

open RequestStatus Lib

/-! ## The system -/

/-- What the table operations read and write. -/
structure PrsState where
  processor : PriorityRequestProcessor := {}
  ssmState : SsmBroadcastState := {}

namespace PrsState

def table (s : PrsState) : PriorityTable := s.processor.table

end PrsState

inductive TableOp where
  | applyPrsPackage (pkg : SignalRequestPackage) (input : PrsPackageInput)
  | applyCoStatusUpdates (coRows : List CoServiceResponseRow) (now : UInt32)
  | runPrioritizationProcessing (now : UInt32)
  | buildSsmFromTable (maxBroadcastsPerStatus : UInt8) (nowEpoch : Int)
  | clearLaneStrategyMap
  | setLaneStrategy (intersectionID lane : Int) (strategyNumber : UInt8)

namespace TableOp

def apply (s : PrsState) : TableOp → PrsState
  | applyPrsPackage pkg input =>
      { s with processor := s.processor.processPrsPackage pkg input }
  | applyCoStatusUpdates coRows now =>
      { s with processor := s.processor.applyCoStatusUpdates coRows now }
  | runPrioritizationProcessing now =>
      { s with processor := s.processor.runPrioritizationProcessing now }
  | buildSsmFromTable maxBroadcastsPerStatus nowEpoch =>
      let (table, ssmState, _) :=
        Priority.buildSsmFromTable s.table maxBroadcastsPerStatus nowEpoch s.ssmState
      { processor := { s.processor with table := table }, ssmState := ssmState }
  | clearLaneStrategyMap =>
      { s with processor := s.processor.clearLaneStrategyMap }
  | setLaneStrategy intersectionID lane strategyNumber =>
      { s with processor := s.processor.setLaneStrategy intersectionID lane strategyNumber }

/-- The state after a sequence of operations on the default table. -/
def run (ops : List TableOp) : PrsState :=
  ops.foldl apply {}

end TableOp

/-! ## The invariant -/

/-- Two rows hold the same request: neither is idle, both have a strategy, and they agree on the
request's identity. -/
structure Clash (a b : PriorityRequestEntry) : Prop where
  left_open : a.statusInPRS ≠ idleNotValid
  right_open : b.statusInPRS ≠ idleNotValid
  left_strategy : a.serviceStrategyNumber ≠ 0
  right_strategy : b.serviceStrategyNumber ≠ 0
  requestID : a.requestID = b.requestID
  vehicleID : a.vehicleID = b.vehicleID
  vehicleClassType : a.vehicleClassType = b.vehicleClassType
  vehicleClassLevel : a.vehicleClassLevel = b.vehicleClassLevel
  serviceStrategyNumber : a.serviceStrategyNumber = b.serviceStrategyNumber

theorem Clash.symm {a b : PriorityRequestEntry} (h : Clash a b) : Clash b a :=
  ⟨h.right_open, h.left_open, h.right_strategy, h.left_strategy, h.requestID.symm,
    h.vehicleID.symm, h.vehicleClassType.symm, h.vehicleClassLevel.symm,
    h.serviceStrategyNumber.symm⟩

/-- A row is clean when idle and never in a state that belongs to the CO. -/
structure RowOk (e : PriorityRequestEntry) : Prop where
  idle_default : e.statusInPRS = idleNotValid → e = {}
  not_coOwned : e.statusInPRS.isCoOwned = false

structure TableInvariant (rows : List PriorityRequestEntry) : Prop where
  rowOk : ∀ e ∈ rows, RowOk e
  unique : rows.Pairwise fun a b => ¬ Clash a b

theorem rowOk_default : RowOk {} := ⟨fun _ => rfl, rfl⟩

theorem RowOk.open_of_active {e : PriorityRequestEntry} (h : RowOk e)
    (hact : e.statusInCO.isActiveX = true) : e.statusInPRS ≠ idleNotValid := by
  intro hidle
  rw [h.idle_default hidle] at hact
  exact absurd hact (by decide)

/-! ## What an operation does to one row -/

/-- What a row keeps of its request from insertion to reset, whatever happens to its status and
times. -/
structure RequestIdentity where
  requestID : UInt8
  vehicleID : List UInt8
  vehicleClassType : UInt8
  vehicleClassLevel : UInt8
  serviceStrategyNumber : UInt8
  timeOfMessage : UInt32
  timeToLive : UInt32
  intersectionID : Int
  role : Int
  inboundPresent : UInt8
  inboundValue : Int
  deriving DecidableEq, Repr

def PriorityRequestEntry.identity (e : PriorityRequestEntry) : RequestIdentity where
  requestID := e.requestID
  vehicleID := e.vehicleID
  vehicleClassType := e.vehicleClassType
  vehicleClassLevel := e.vehicleClassLevel
  serviceStrategyNumber := e.serviceStrategyNumber
  timeOfMessage := e.timeOfMessage
  timeToLive := e.timeToLive
  intersectionID := e.intersectionID
  role := e.role
  inboundPresent := e.inboundPresent
  inboundValue := e.inboundValue

/-- A row is left alone, reset, or — when it holds a request — rewritten without touching the
request's identity, to a status the PRS may have. -/
inductive RowStep (e e' : PriorityRequestEntry) : Prop
  | same (h : e' = e)
  | reset (h : e' = {})
  | relabel (hopen : e.statusInPRS ≠ idleNotValid) (hopen' : e'.statusInPRS ≠ idleNotValid)
      (hco : e.statusInPRS.isCoOwned = false → e'.statusInPRS.isCoOwned = false)
      (hid : e'.identity = e.identity)

theorem RowStep.refl (e : PriorityRequestEntry) : RowStep e e := .same rfl

theorem RowStep.rowOk {e e' : PriorityRequestEntry} (h : RowStep e e') (he : RowOk e) :
    RowOk e' := by
  cases h with
  | same h => exact h ▸ he
  | reset h => exact h ▸ rowOk_default
  | relabel hopen hopen' hco hid => exact ⟨fun hidle => absurd hidle hopen', hco he.not_coOwned⟩

/-- A row that holds a request after the step held the same one before. -/
theorem RowStep.identity_of_open {e e' : PriorityRequestEntry} (h : RowStep e e')
    (hopen : e'.statusInPRS ≠ idleNotValid) :
    e.statusInPRS ≠ idleNotValid ∧ e'.identity = e.identity := by
  cases h with
  | same h => exact h ▸ ⟨hopen, rfl⟩
  | reset h => exact absurd (by rw [h]) hopen
  | relabel hopen₁ _ _ hid => exact ⟨hopen₁, hid⟩

/-- Rows with the identities of clashing rows clash, as long as they are open. -/
theorem Clash.of_identity {a b a' b' : PriorityRequestEntry} (ha : a'.identity = a.identity)
    (hb : b'.identity = b.identity) (hao : a.statusInPRS ≠ idleNotValid)
    (hbo : b.statusInPRS ≠ idleNotValid) (h : Clash a' b') : Clash a b := by
  obtain ⟨-, -, has, hbs, h₁, h₂, h₃, h₄, h₅⟩ := h
  simp only [PriorityRequestEntry.identity, RequestIdentity.mk.injEq] at ha hb
  obtain ⟨ha₁, ha₂, ha₃, ha₄, ha₅, -⟩ := ha
  obtain ⟨hb₁, hb₂, hb₃, hb₄, hb₅, -⟩ := hb
  rw [ha₁, hb₁] at h₁
  rw [ha₂, hb₂] at h₂
  rw [ha₃, hb₃] at h₃
  rw [ha₄, hb₄] at h₄
  rw [ha₅] at has
  rw [hb₅] at hbs
  rw [ha₅, hb₅] at h₅
  exact ⟨hao, hbo, has, hbs, h₁, h₂, h₃, h₄, h₅⟩

theorem RowStep.clash {a b a' b' : PriorityRequestEntry} (ha : RowStep a a') (hb : RowStep b b')
    (h : Clash a' b') : Clash a b := by
  obtain ⟨hao, hai⟩ := ha.identity_of_open h.left_open
  obtain ⟨hbo, hbi⟩ := hb.identity_of_open h.right_open
  exact h.of_identity hai hbi hao hbo

/-- **Rewriting rows in place keeps the invariant.** -/
theorem TableInvariant.of_rowStep {rows rows' : List PriorityRequestEntry}
    (h : List.Forall₂ RowStep rows rows') (hinv : TableInvariant rows) : TableInvariant rows' where
  rowOk := forall_mem_after h (fun _ _ hs he => hs.rowOk he) hinv.rowOk
  unique := pairwise_after h (fun _ _ _ _ ha hb hab hclash => hab (ha.clash hb hclash)) hinv.unique

/-- **So does moving them around.** -/
theorem TableInvariant.of_perm {rows rows' : List PriorityRequestEntry} (h : rows'.Perm rows)
    (hinv : TableInvariant rows) : TableInvariant rows' where
  rowOk e he := hinv.rowOk e (h.mem_iff.mp he)
  unique := (h.pairwise_iff fun {_ _} hab hba => hab hba.symm).mpr hinv.unique

/-! ## Every operation keeps it -/

theorem rowStep_expire (now : UInt32) (e : PriorityRequestEntry) : RowStep e (e.expire now) := by
  unfold PriorityRequestEntry.expire
  split_ifs with hidle
  · exact .refl e
  · exact .reset rfl
  · exact .relabel hidle (by simp) (fun _ => rfl) rfl
  · exact .refl e

theorem rowStep_applyCoStatus (coStatus : RequestStatus) (e : PriorityRequestEntry) :
    RowStep e (e.applyCoStatus coStatus) := by
  by_cases hidle : e.statusInPRS = idleNotValid
  · exact .same (PriorityRequestEntry.applyCoStatus_of_idle hidle coStatus)
  · obtain ⟨status, heq, hstatus⟩ := PriorityRequestEntry.applyCoStatus_of_open hidle coStatus
    rw [heq]
    rcases hstatus with rfl | hstatus
    · exact .relabel hidle hidle id rfl
    · obtain ⟨hopen, hco⟩ := prsOwned_of_readyOrClosed hstatus
      exact .relabel hidle hopen (fun _ => hco) rfl

theorem rowStep_charge (maxBroadcastsPerStatus : UInt8) (e : PriorityRequestEntry) :
    RowStep e (e.charge maxBroadcastsPerStatus) := by
  unfold PriorityRequestEntry.charge PriorityRequestEntry.refresh
  split_ifs with hidle
  · exact .refl e
  all_goals exact .relabel hidle hidle id rfl

theorem rowStep_override {e : PriorityRequestEntry} (he : RowOk e)
    (hact : e.statusInCO.isActiveX = true) {status : RequestStatus}
    (hstatus : status = activeOverride ∨ status = readyQueued) :
    RowStep e { e with statusInPRS := status } := by
  have hopen := he.open_of_active hact
  rcases hstatus with rfl | rfl
  · exact .relabel hopen (by simp) (fun _ => rfl) rfl
  · exact .relabel hopen (by simp) (fun _ => rfl) rfl

theorem TableInvariant.expireStale {t : PriorityTable} (h : TableInvariant t.rows) (now : UInt32) :
    TableInvariant (t.expireStale now).rows :=
  h.of_rowStep (forall₂_map fun e _ => rowStep_expire now e)

/-- A row the CO is serving is open, so an override check changes a status and nothing else. -/
theorem rowStep_checkForOverride {t : PriorityTable} (h : TableInvariant t.rows) :
    List.Forall₂ RowStep t.rows t.checkForOverride.rows := by
  obtain heq | ⟨active, entry, status, hget, hact, hstatus, heq⟩ := t.checkForOverride_cases
  · rw [heq]
    exact List.forall₂_same.mpr fun e _ => .refl e
  · rw [heq, PriorityTable.rows_modify]
    apply forall₂_modify .refl
    intro e he
    obtain rfl : entry = e := Option.some.inj (hget.symm.trans he)
    exact rowStep_override (h.rowOk _ (List.mem_of_getElem? he)) hact hstatus

theorem TableInvariant.runPrioritizationProcessing {t : PriorityTable}
    (h : TableInvariant t.rows) (now : UInt32) :
    TableInvariant (t.runPrioritizationProcessing now).rows := by
  unfold PriorityTable.runPrioritizationProcessing
  simp only []
  split_ifs
  · exact (h.expireStale now).of_rowStep (rowStep_checkForOverride (h.expireStale now))
  · exact (h.expireStale now).of_perm (PriorityTable.perm_reorder _)

/-- A property of the requests in the table, by their identities, survives any rewriting of rows and
any move. -/
def OpenRows (P : RequestIdentity → Prop) (rows : List PriorityRequestEntry) : Prop :=
  ∀ e ∈ rows, e.statusInPRS ≠ idleNotValid → P e.identity

theorem OpenRows.of_rowStep {P : RequestIdentity → Prop} {rows rows' : List PriorityRequestEntry}
    (h : List.Forall₂ RowStep rows rows') (hP : OpenRows P rows) : OpenRows P rows' := by
  refine forall_mem_after h (fun e e' hs he hopen => ?_) hP
  obtain ⟨hopen₀, hid⟩ := hs.identity_of_open hopen
  exact hid ▸ he hopen₀

theorem OpenRows.runPrioritizationProcessing {P : RequestIdentity → Prop} {t : PriorityTable}
    (hinv : TableInvariant t.rows) (hP : OpenRows P t.rows) (now : UInt32) :
    OpenRows P (t.runPrioritizationProcessing now).rows := by
  have hexp : OpenRows P (t.expireStale now).rows :=
    hP.of_rowStep (forall₂_map fun e _ => rowStep_expire now e)
  unfold PriorityTable.runPrioritizationProcessing
  simp only []
  split_ifs
  · exact hexp.of_rowStep (rowStep_checkForOverride (hinv.expireStale now))
  · exact fun e he => hexp e ((PriorityTable.perm_reorder _).mem_iff.mp he)

/-- A row that is being served while another request comes in is open, so marking it is a change of
status. -/
theorem TableInvariant.overrideActive {t : PriorityTable} (h : TableInvariant t.rows)
    (input : PrsPackageInput) (slot : Nat) :
    TableInvariant (overrideActive input t slot).rows := by
  refine h.of_rowStep (forall₂_mapIdx fun i e he => ?_)
  split_ifs with hov
  · have hact : e.statusInCO.isActiveX = true := by
      simp only [overriddenBy, Bool.and_eq_true, Bool.or_eq_true, decide_eq_true_eq] at hov
      rcases hov.2.1 with hco | hco <;> rw [hco] <;> rfl
    exact rowStep_override (h.rowOk e (List.mem_of_getElem? he)) hact (.inl rfl)
  · exact .refl e

section

variable (p : PriorityRequestProcessor) (pkg : SignalRequestPackage) (input : PrsPackageInput)

theorem storedStatus_cases : storedStatus p pkg input = closedStrategyError ∨
    storedStatus p pkg input = reserviceError ∨ storedStatus p pkg input = readyQueued := by
  unfold storedStatus
  split
  · exact .inl rfl
  · split_ifs
    · exact .inr (.inl rfl)
    · exact .inr (.inr rfl)

theorem rowOk_storedEntry (slot : PriorityRequestEntry) : RowOk (storedEntry p pkg input slot) := by
  obtain h | h | h := storedStatus_cases p pkg input
  all_goals exact ⟨by simp [storedEntry, h], by simp [storedEntry, h, isCoOwned]⟩

/-- The new row clashes with no other: a row with the same identity and strategy would have been
found and updated, and without a strategy the new row keeps the idle row's 0. -/
theorem not_clash_storedEntry {other : PriorityRequestEntry}
    (hother : holdsRequest p pkg input other = false) :
    ¬ Clash (storedEntry p pkg input {}) other := by
  intro h
  cases hs : strategyFor p pkg with
  | none =>
      have hzero := h.left_strategy
      simp [storedEntry, hs] at hzero
  | some strategy =>
      have hholds : holdsRequest p pkg input other = true := by
        have h₁ := h.requestID
        have h₂ := h.vehicleID
        have h₃ := h.vehicleClassType
        have h₄ := h.vehicleClassLevel
        have h₅ := h.serviceStrategyNumber
        simp only [storedEntry, hs, Option.getD_some] at h₁ h₂ h₃ h₄ h₅
        simp [holdsRequest, h.right_open, ← h₁, ← h₂, ← h₃, ← h₄, ← h₅, hs]
      rw [hother] at hholds
      exact Bool.noConfusion hholds

theorem TableInvariant.storedEntry {t : PriorityTable} (h : TableInvariant t.rows) {slot : Nat}
    {entry : PriorityRequestEntry} (hget : t.rows[slot]? = some entry)
    (hidle : entry.statusInPRS = idleNotValid)
    (hnone : ∀ other ∈ t.rows, holdsRequest p pkg input other = false) :
    TableInvariant (t.modify slot (storedEntry p pkg input)).rows where
  rowOk := by
    intro e he
    rw [PriorityTable.rows_modify, List.mem_iff_getElem?] at he
    obtain ⟨i, hi⟩ := he
    rw [List.getElem?_modify] at hi
    obtain ⟨e₀, he₀, hmod⟩ := Option.map_eq_some_iff.mp hi
    split_ifs at hmod
    · exact hmod ▸ rowOk_storedEntry p pkg input e₀
    · exact hmod ▸ h.rowOk e₀ (List.mem_of_getElem? he₀)
  unique := by
    -- the free row was clean, so what the insertion leaves unwritten has default values
    obtain rfl : entry = {} := (h.rowOk entry (List.mem_of_getElem? hget)).idle_default hidle
    apply pairwise_modify h.unique hget
    intro other hother
    have hnot := not_clash_storedEntry p pkg input (hnone other hother)
    exact ⟨hnot, fun hclash => hnot hclash.symm⟩

theorem holdsRequest_open {e : PriorityRequestEntry} (h : holdsRequest p pkg input e = true) :
    e.statusInPRS ≠ idleNotValid := by
  simp only [holdsRequest, Bool.and_eq_true, decide_eq_true_eq] at h
  exact h.1.1.1.1.1

/-- An update changes the times of an open row. -/
theorem rowStep_updatedEntry {t : PriorityTable} {i : Nat} {entry : PriorityRequestEntry}
    (hget : t.rows[i]? = some entry) (hholds : holdsRequest p pkg input entry = true) :
    List.Forall₂ RowStep t.rows (t.modify i (updatedEntry pkg input)).rows := by
  apply forall₂_modify .refl
  intro e he
  obtain rfl : entry = e := Option.some.inj (hget.symm.trans he)
  have hopen := holdsRequest_open p pkg input hholds
  exact .relabel hopen hopen id rfl

theorem TableInvariant.applyPrsPackage {t : PriorityTable} (h : TableInvariant t.rows) :
    TableInvariant (applyPrsPackage p pkg input t).1.rows := by
  obtain ⟨i, entry, hget, hholds, heq⟩ | heq | ⟨slot, entry, hget, hidle, hnone, heq | heq⟩ :=
    applyPrsPackage_cases p pkg input t
  · rw [heq]
    exact h.of_rowStep (rowStep_updatedEntry p pkg input hget hholds)
  · rw [heq]
    exact h
  · rw [heq]
    exact h.storedEntry p pkg input hget hidle hnone
  · rw [heq]
    exact (h.storedEntry p pkg input hget hidle hnone).overrideActive input slot

end

theorem tableInvariant_initial : TableInvariant PriorityTable.initial.rows where
  rowOk e he := by
    rw [List.eq_of_mem_replicate he]
    exact rowOk_default
  unique := List.pairwise_replicate.mpr (.inr fun h => h.left_open rfl)

/-- One operation, whatever its arguments. -/
theorem TableInvariant.apply {s : PrsState} (h : TableInvariant s.table.rows) (op : TableOp) :
    TableInvariant (op.apply s).table.rows := by
  cases op with
  | applyPrsPackage pkg input => exact TableInvariant.applyPrsPackage s.processor pkg input h
  | applyCoStatusUpdates coRows now =>
      exact h.of_rowStep (forall₂_mapIdx fun _ e _ => rowStep_applyCoStatus _ e)
  | runPrioritizationProcessing now => exact h.runPrioritizationProcessing now
  | buildSsmFromTable maxBroadcastsPerStatus nowEpoch =>
      simp only [TableOp.apply, PrsState.table, buildSsmFromTable_table]
      exact h.of_rowStep (forall₂_map fun e _ => rowStep_charge maxBroadcastsPerStatus e)
  | clearLaneStrategyMap => exact h
  | setLaneStrategy => exact h

/-- Every reachable table satisfies the invariant. -/
theorem tableInvariant_foldl (ops : List TableOp) :
    TableInvariant (TableOp.run ops).table.rows := by
  have hinit : TableInvariant (PrsState.table {}).rows := tableInvariant_initial
  exact List.foldlRecOn (motive := fun s => TableInvariant s.table.rows) ops TableOp.apply hinit
    fun _ hs op _ => TableInvariant.apply hs op

/-- **The table invariant**, spelled out: after any sequence of operations with any arguments, (a)
an idle row is the default row, (b) no row is in a state that belongs to the CO, and (c) no two
different rows that hold requests with a strategy agree on request id, vehicle id, class type, class
level and strategy. -/
theorem tableInvariant_run (ops : List TableOp) :
    (∀ e ∈ (TableOp.run ops).table.rows, e.statusInPRS = idleNotValid → e = {}) ∧
    (∀ e ∈ (TableOp.run ops).table.rows,
      e.statusInPRS ≠ activeProcessing ∧ e.statusInPRS ≠ activeCancel ∧
        e.statusInPRS ≠ activeNotOverridden ∧ e.statusInPRS ≠ activeAdjustNotNeeded) ∧
    (∀ (i j : Nat) (a b : PriorityRequestEntry), (TableOp.run ops).table.rows[i]? = some a →
      (TableOp.run ops).table.rows[j]? = some b → i ≠ j →
      a.statusInPRS ≠ idleNotValid → b.statusInPRS ≠ idleNotValid →
      a.serviceStrategyNumber ≠ 0 → b.serviceStrategyNumber ≠ 0 →
      ¬ (a.requestID = b.requestID ∧ a.vehicleID = b.vehicleID ∧
        a.vehicleClassType = b.vehicleClassType ∧ a.vehicleClassLevel = b.vehicleClassLevel ∧
        a.serviceStrategyNumber = b.serviceStrategyNumber)) := by
  have hinv := tableInvariant_foldl ops
  -- `isCoOwned` and `Clash` are the statement's second and third part in one word each
  refine ⟨fun e he => (hinv.rowOk e he).idle_default, fun e he => ?_, ?_⟩
  · have hco := (hinv.rowOk e he).not_coOwned
    simp only [isCoOwned, Bool.or_eq_false_iff, decide_eq_false_iff_not] at hco
    exact ⟨hco.1.1.1, hco.1.1.2, hco.1.2, hco.2⟩
  · rintro i j a b ha hb hij hao hbo has hbs ⟨h₁, h₂, h₃, h₄, h₅⟩
    have hclash : Clash a b := ⟨hao, hbo, has, hbs, h₁, h₂, h₃, h₄, h₅⟩
    have hpair := List.pairwise_iff_getElem.mp hinv.unique
    obtain ⟨hi, rfl⟩ := List.getElem?_eq_some_iff.mp ha
    obtain ⟨hj, rfl⟩ := List.getElem?_eq_some_iff.mp hb
    rcases Nat.lt_or_gt_of_ne hij with hlt | hgt
    · exact hpair i j hi hj hlt hclash
    · exact hpair j i hj hi hgt hclash.symm

/-! ## Reclaiming the rows of expired requests -/

/-- The request's time to live is over and the CO is not serving it. -/
def Expired (now : UInt32) (e : PriorityRequestEntry) : Prop :=
  0 < e.timeToLive ∧ e.timeToLive ≤ now ∧ e.statusInCO.isActiveX = false

instance (now : UInt32) (e : PriorityRequestEntry) : Decidable (Expired now e) :=
  inferInstanceAs (Decidable (_ ∧ _))

/-- After prioritization no row holds an expired request: its row has been reset. -/
def Reclaimed (t : PriorityTable) (now : UInt32) : Prop :=
  ∀ e ∈ (t.runPrioritizationProcessing now).rows, ¬ Expired now e

instance (t : PriorityTable) (now : UInt32) : Decidable (Reclaimed t now) :=
  inferInstanceAs (Decidable (∀ e ∈ _, _))

/-- After the expiry rules prioritization changes only positions and PRS statuses. -/
theorem forall_mem_runPrioritizationProcessing {P : PriorityRequestEntry → Prop}
    (hP : ∀ e status, P { e with statusInPRS := status } ↔ P e) (t : PriorityTable)
    (now : UInt32) :
    (∀ e ∈ (t.runPrioritizationProcessing now).rows, P e) ↔ ∀ e ∈ t.rows, P (e.expire now) := by
  have hexpired : (∀ e ∈ (t.expireStale now).rows, P e) ↔ ∀ e ∈ t.rows, P (e.expire now) :=
    List.forall_mem_map
  rw [← hexpired]
  unfold PriorityTable.runPrioritizationProcessing
  simp only []
  split_ifs
  · obtain heq | ⟨active, entry, status, -, -, -, heq⟩ :=
      (t.expireStale now).checkForOverride_cases
    · rw [heq]
    · rw [heq, PriorityTable.rows_modify]
      exact forall_mem_modify fun e => hP e status
  · exact forall_congr' fun e => imp_congr_left (PriorityTable.perm_reorder _).mem_iff

theorem not_expired_default (now : UInt32) : ¬ Expired now {} := fun h => absurd h.1 (by decide)

/-- An expired row is reset when it is ready or closed, and stays expired otherwise. -/
theorem expired_expire {e : PriorityRequestEntry} {now : UInt32}
    (hopen : e.statusInPRS ≠ idleNotValid) (hexp : Expired now e) :
    Expired now (e.expire now) ↔ (e.statusInPRS.isReadyX || e.statusInPRS.isClosedX) = false := by
  have hlt : e.timeToLive > 0 := hexp.1
  have hle : now ≥ e.timeToLive := hexp.2.1
  unfold PriorityRequestEntry.expire
  cases hrc : e.statusInPRS.isReadyX || e.statusInPRS.isClosedX with
  | true =>
      simp only [hopen, hlt, hle, if_false, decide_true, Bool.and_true, if_true]
      simpa using not_expired_default now
  | false =>
      simp only [hopen, if_false, Bool.false_and, Bool.false_eq_true, iff_true]
      split_ifs
      · exact hexp
      · exact hexp

/-- The expiry rules make no row expired. -/
theorem Expired.of_expire {e : PriorityRequestEntry} {now : UInt32}
    (h : Expired now (e.expire now)) : Expired now e := by
  unfold PriorityRequestEntry.expire at h
  split_ifs at h
  · exact h
  · exact absurd h (not_expired_default now)
  · exact h
  · exact h

/-- **When expired requests lose their rows.** In every reachable state, prioritization frees the
rows of all expired requests the CO is not serving exactly when none of them is in state
`reserviceError` or `activeOverride`: the expiry rule looks at ready and closed states only, and
these two are neither. -/
theorem reclaimed_iff (ops : List TableOp) (now : UInt32) :
    Reclaimed (TableOp.run ops).table now ↔
      ∀ e ∈ (TableOp.run ops).table.rows, Expired now e →
        e.statusInPRS ≠ reserviceError ∧ e.statusInPRS ≠ activeOverride := by
  rw [Reclaimed, forall_mem_runPrioritizationProcessing (fun _ _ => Iff.rfl)]
  refine forall_congr' fun e => imp_congr_right fun he => ?_
  have hok := (tableInvariant_foldl ops).rowOk e he
  have hopen (hexp : Expired now e) : e.statusInPRS ≠ idleNotValid := fun hidle =>
    not_expired_default now (hok.idle_default hidle ▸ hexp)
  constructor
  · intro h hexp
    rw [expired_expire (hopen hexp) hexp, Bool.not_eq_false] at h
    exact (readyOrClosed_iff (hopen hexp) hok.not_coOwned).mp h
  · intro h hexp'
    have hexp := hexp'.of_expire
    rw [expired_expire (hopen hexp) hexp] at hexp'
    have hrc := (readyOrClosed_iff (hopen hexp) hok.not_coOwned).mpr (h hexp)
    exact Bool.noConfusion (hexp'.symm.trans hrc)

/-- A class is served at time 1000; a request of the same class 100 s later is refused with
`reserviceError` for a reservice period of 300 s. Its time to live ends at 1160. -/
def refusedRequestRun : List TableOp :=
  [.setLaneStrategy 7 1 5,
   .applyPrsPackage (pkg 1) (input 990),
   .applyCoStatusUpdates [{ requestStatusInCO := closedCompleted }] 1000,
   .runPrioritizationProcessing 1000,
   .applyPrsPackage (pkg 2) (input 1100)]
where
  pkg (requestID : Int) : SignalRequestPackage :=
    { requestID := requestID, intersectionID := 7, requestType := .priorityRequest,
      inBoundLane := .lane 1 }
  input (nowEpoch : Int) : PrsPackageInput :=
    { vehicleID := [0xAA], classType := 1, classLevel := 1, nowEpoch := nowEpoch,
      reserviceClassTime := 300 :: List.replicate 9 0, timeToLiveSec := 60,
      estimatedArrivalTime := 10, estimatedDepartureTime := 20 }

/-- At time 2000 the refused request still has its row. -/
theorem not_reclaimed_refusedRequest :
    ¬ ∀ (ops : List TableOp) (now : UInt32), Reclaimed (TableOp.run ops).table now := by
  intro h
  have hrun : Reclaimed (TableOp.run refusedRequestRun).table 2000 := h _ _
  revert hrun
  decide +kernel

end V2XHub.Priority
