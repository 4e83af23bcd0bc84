import V2XHub.Lib.Limiter
import V2XHub.Priority.TableInvariant

/-!
# The broadcast limiter

A request is reported to the vehicles a limited number of times for each status it has. The count
and the status it is for are members of the request's row, so they go where the row goes and are
gone when the row is reset.

This module follows one request from the package that inserts it until its row is reset, through
every reordering of the rows, and collects the broadcasts on the way.

**Main result** `broadcasts_limited`: the row is a `Lib.Limiter` fed with the effective status.
-/

namespace V2XHub.Priority

open RequestStatus Lib

/-! ## One row -/

namespace PriorityRequestEntry

/-- The members the limiter is kept in. -/
def limiter (e : PriorityRequestEntry) : Limiter RequestStatus where
  count := e.ssmBroadcastCount.toNat
  last := e.ssmLastStatus

theorem used_limiter (e : PriorityRequestEntry) :
    e.limiter.used e.effectiveStatus = e.refresh.ssmBroadcastCount.toNat := by
  unfold Limiter.used refresh
  by_cases hsame : e.effectiveStatus = e.ssmLastStatus
  · rw [if_pos (show e.effectiveStatus = e.limiter.last from hsame), if_neg (not_not_intro hsame)]
    rfl
  · rw [if_neg (show ¬ e.effectiveStatus = e.limiter.last from hsame), if_pos hsame]
    rfl

/-- An open row is due when its limiter lets the effective status through. -/
theorem due_of_open {e : PriorityRequestEntry} (hopen : e.statusInPRS ≠ idleNotValid)
    (maxBroadcastsPerStatus : UInt8) :
    e.due maxBroadcastsPerStatus =
      e.limiter.admits maxBroadcastsPerStatus.toNat e.effectiveStatus := by
  unfold due Limiter.admits
  rw [used_limiter, decide_eq_true hopen, Bool.true_and]
  rfl

theorem last_refresh (e : PriorityRequestEntry) :
    e.refresh.ssmLastStatus = e.effectiveStatus := by
  unfold refresh
  split_ifs with hchanged
  · rfl
  · exact (not_not.mp hchanged).symm

/-- A broadcast is a step of the limiter: the counter, a byte, never passes the limit, which is one
too. -/
theorem limiter_charge {e : PriorityRequestEntry} (hopen : e.statusInPRS ≠ idleNotValid)
    (maxBroadcastsPerStatus : UInt8) :
    (e.charge maxBroadcastsPerStatus).limiter =
      e.limiter.step maxBroadcastsPerStatus.toNat e.effectiveStatus := by
  have hused := e.used_limiter
  unfold charge Limiter.step
  rw [if_neg hopen, due_of_open hopen]
  split_ifs with hadmits
  · have hlt : e.refresh.ssmBroadcastCount.toNat < maxBroadcastsPerStatus.toNat := by
      rw [← hused]
      exact of_decide_eq_true hadmits
    have hmax := maxBroadcastsPerStatus.toNat_lt
    have hcount : (e.refresh.ssmBroadcastCount + 1).toNat =
        e.limiter.used e.effectiveStatus + 1 := by
      rw [UInt8.toNat_add, hused]
      exact Nat.mod_eq_of_lt (by show _ + 1 < _; omega)
    exact congrArg₂ Limiter.mk hcount e.last_refresh
  · exact congrArg₂ Limiter.mk hused.symm e.last_refresh

/-- An expired row is reset, or keeps its limiter. -/
theorem limiter_expire (now : UInt32) (e : PriorityRequestEntry) :
    (e.expire now).limiter = e.limiter ∨ e.expire now = {} := by
  unfold expire
  split_ifs
  · exact .inl rfl
  · exact .inr rfl
  · exact .inl rfl
  · exact .inl rfl

theorem limiter_applyCoStatus (coStatus : RequestStatus) (e : PriorityRequestEntry) :
    (e.applyCoStatus coStatus).limiter = e.limiter := by
  by_cases hidle : e.statusInPRS = idleNotValid
  · rw [applyCoStatus_of_idle hidle]
  · obtain ⟨status, heq, -⟩ := applyCoStatus_of_open hidle coStatus
    rw [heq]
    rfl

end PriorityRequestEntry

/-! ## The operations that leave the limiters alone -/

/-- The limiters of the rows, in order. -/
def PriorityTable.limiters (t : PriorityTable) : List (Limiter RequestStatus) :=
  t.rows.map PriorityRequestEntry.limiter

namespace PriorityTable

theorem limiters_modify {t : PriorityTable} {i : Nat}
    {f : PriorityRequestEntry → PriorityRequestEntry} (hf : ∀ e, (f e).limiter = e.limiter) :
    (t.modify i f).limiters = t.limiters := by
  apply List.ext_getElem?
  intro j
  simp only [limiters, rows_modify, List.getElem?_map, List.getElem?_modify]
  cases t.rows[j]? with
  | none => rfl
  | some e =>
      show some (if i = j then f e else e).limiter = some e.limiter
      split_ifs
      · rw [hf]
      · rfl

theorem limiters_mapIdx {t : PriorityTable}
    {f : Nat → PriorityRequestEntry → PriorityRequestEntry}
    (hf : ∀ i e, (f i e).limiter = e.limiter) : (t.mapIdx f).limiters = t.limiters := by
  apply List.ext_getElem?
  intro j
  simp only [limiters, rows_mapIdx, List.getElem?_map, List.getElem?_mapIdx]
  cases t.rows[j]? with
  | none => rfl
  | some e => exact congrArg some (hf j e)

theorem limiters_checkForOverride (t : PriorityTable) :
    t.checkForOverride.limiters = t.limiters := by
  rcases t.checkForOverride_cases with hsame | ⟨active, entry, status, -, -, -, heq⟩
  · rw [hsame]
  · rw [heq]
    exact limiters_modify fun _ => rfl

theorem limiters_applyPrsPackage (p : PriorityRequestProcessor) (pkg : SignalRequestPackage)
    (input : PrsPackageInput) (t : PriorityTable) :
    (applyPrsPackage p pkg input t).1.limiters = t.limiters := by
  rcases applyPrsPackage_cases p pkg input t with
    ⟨i, entry, -, -, heq⟩ | hfull | ⟨slot, entry, -, -, -, heq | heq⟩
  · rw [heq]
    exact limiters_modify fun _ => rfl
  · rw [hfull]
  · rw [heq]
    exact limiters_modify fun _ => rfl
  · have hother : ∀ (j : Nat) (other : PriorityRequestEntry),
        (if j ≠ slot && overriddenBy input other then { other with statusInPRS := activeOverride }
          else other).limiter = other.limiter := by
      intro j other
      split_ifs <;> rfl
    rw [heq]
    exact (limiters_mapIdx hother).trans (limiters_modify fun _ => rfl)

/-- Where the reordering puts row `i`. -/
theorem getElem?_reorder_idxOf (t : PriorityTable) {i : Nat} (hi : i < maxServiceRequests) :
    t.reorder.rows[t.order.idxOf i]? = some (t.rows.getD i {}) := by
  have hmem : i ∈ t.order := t.perm_order.mem_iff.mpr (List.mem_range.mpr hi)
  have hlen : t.order.length = maxServiceRequests := by
    rw [t.perm_order.length_eq, List.length_range]
  have hrows : t.reorder.rows = t.order.map fun i => t.rows.getD i {} := by
    simp [reorder, List.take_of_length_le hlen.le, hlen]
  rw [hrows, List.getElem?_map, List.getElem?_eq_getElem (List.idxOf_lt_length_of_mem hmem),
    List.getElem_idxOf]
  rfl

end PriorityTable

/-! ## Following a request -/

namespace TableOp

/-- Where the operation moves row `i`. -/
def newRow (s : PrsState) (i : Nat) : TableOp → Nat
  | runPrioritizationProcessing now =>
      let expired := s.table.expireStale now
      if expired.hasActive then i else expired.order.idxOf i
  | _ => i

/-- The row of the request after the operation; none once it is idle. -/
def follow (s : PrsState) (i : Nat) (op : TableOp) : Option Nat :=
  let j := op.newRow s i
  if ((op.apply s).table.rows.getD j {}).statusInPRS = idleNotValid then none else some j

/-- What the request of row `i` sees of an operation: a broadcast with its effective status, and
whether it is reported. -/
def seen (s : PrsState) (i : Nat) : TableOp → List (RequestStatus × Bool)
  | buildSsmFromTable maxBroadcastsPerStatus _ =>
      let entry := s.table.rows.getD i {}
      [(entry.effectiveStatus, entry.due maxBroadcastsPerStatus)]
  | _ => []

/-- The broadcasts a request lives to see, from row `i` on. -/
def broadcasts (s : PrsState) (i : Nat) : List TableOp → List (RequestStatus × Bool)
  | [] => []
  | op :: ops =>
      op.seen s i ++
        match op.follow s i with
        | some j => broadcasts (op.apply s) j ops
        | none => []

/-- Every broadcast has the limit `n`. -/
def HasLimit (n : UInt8) : TableOp → Prop
  | buildSsmFromTable maxBroadcastsPerStatus _ => maxBroadcastsPerStatus = n
  | _ => True

end TableOp

/-- The package is stored in row `i`, which was idle. -/
def Inserts (s : PrsState) (pkg : SignalRequestPackage) (input : PrsPackageInput) (i : Nat) :
    Prop :=
  ∃ before after, s.table.rows[i]? = some before ∧ before.statusInPRS = idleNotValid ∧
    ((TableOp.applyPrsPackage pkg input).apply s).table.rows[i]? = some after ∧
    after.statusInPRS ≠ idleNotValid

theorem getElem?_of_limiters {t t' : PriorityTable} (h : t'.limiters = t.limiters) {i : Nat}
    {e e' : PriorityRequestEntry} (he : t.rows[i]? = some e) (he' : t'.rows[i]? = some e') :
    e'.limiter = e.limiter := by
  have hi : t'.limiters[i]? = t.limiters[i]? := by rw [h]
  simpa only [PriorityTable.limiters, List.getElem?_map, he, he', Option.map_some,
    Option.some.injEq] using hi

/-- No override opens a row that was reset. -/
theorem idle_checkForOverride {t : PriorityTable} {i : Nat} {e' : PriorityRequestEntry}
    (he : t.rows[i]? = some {}) (he' : t.checkForOverride.rows[i]? = some e') :
    e'.statusInPRS = idleNotValid := by
  rcases t.checkForOverride_cases with hsame | ⟨active, entry, status, hentry, hco, -, heq⟩
  · rw [hsame, he] at he'
    rw [← Option.some.inj he']
  · rw [heq, PriorityTable.rows_modify] at he'
    by_cases hrow : active = i
    · rw [hrow, he] at hentry
      rw [← Option.some.inj hentry] at hco
      exact absurd hco (by decide)
    · rw [List.getElem?_modify_ne _ _ hrow, he] at he'
      rw [← Option.some.inj he']

/-- What an operation does to the limiter of a request: only a broadcast moves it. -/
def LimiterKept (e e' : PriorityRequestEntry) : TableOp → Prop
  | .buildSsmFromTable maxBroadcastsPerStatus _ => e' = e.charge maxBroadcastsPerStatus
  | _ => e'.limiter = e.limiter

namespace TableOp

section

variable {s : PrsState} {i : Nat} {e e' : PriorityRequestEntry}

theorem limiterKept_prioritization {now : UInt32} (he : s.table.rows[i]? = some e)
    (he' : (s.table.runPrioritizationProcessing now).rows[
      (runPrioritizationProcessing now).newRow s i]? = some e')
    (hopen : e'.statusInPRS ≠ idleNotValid) : e'.limiter = e.limiter := by
  have hi : i < maxServiceRequests := by
    rw [← s.table.length_rows]
    exact (List.getElem?_eq_some_iff.mp he).1
  have hrow : (s.table.expireStale now).rows[i]? = some (e.expire now) := by
    rw [PriorityTable.expireStale, PriorityTable.rows_map, List.getElem?_map, he]
    rfl
  unfold PriorityTable.runPrioritizationProcessing newRow at he'
  simp only [] at he'
  split_ifs at he'
  · have hkept := getElem?_of_limiters (PriorityTable.limiters_checkForOverride _) hrow he'
    rcases e.limiter_expire now with hsame | hreset
    · exact hkept.trans hsame
    · rw [hreset] at hrow
      exact absurd (idle_checkForOverride hrow he') hopen
  · rw [PriorityTable.getElem?_reorder_idxOf _ hi, List.getD_eq_getElem?_getD, hrow] at he'
    have heq : e.expire now = e' := Option.some.inj he'
    rw [← heq] at hopen ⊢
    rcases e.limiter_expire now with hsame | hreset
    · exact hsame
    · rw [hreset] at hopen
      exact absurd rfl hopen

/-- **No limiter goes astray**: the row a request is followed to has the limiter of the row it was
in, moved on by a broadcast. -/
theorem limiterKept_of_follow {op : TableOp} {j : Nat} (he : s.table.rows[i]? = some e)
    (h : op.follow s i = some j) :
    ∃ e', (op.apply s).table.rows[j]? = some e' ∧ e'.statusInPRS ≠ idleNotValid ∧
      LimiterKept e e' op := by
  unfold follow at h
  simp only [] at h
  split_ifs at h with hidle
  obtain rfl := Option.some.inj h
  rw [List.getD_eq_getElem?_getD] at hidle
  cases he' : (op.apply s).table.rows[op.newRow s i]? with
  | none =>
      rw [he'] at hidle
      exact absurd rfl hidle
  | some e' =>
      rw [he'] at hidle
      refine ⟨e', rfl, hidle, ?_⟩
      cases op with
      | applyPrsPackage pkg input =>
          exact getElem?_of_limiters (PriorityTable.limiters_applyPrsPackage _ _ _ _) he he'
      | applyCoStatusUpdates coRows now =>
          have hrow := PriorityRequestProcessor.getElem?_applyCoStatusUpdates coRows now he
          obtain rfl := Option.some.inj (he'.symm.trans hrow)
          exact e.limiter_applyCoStatus _
      | runPrioritizationProcessing now => exact limiterKept_prioritization he he' hidle
      | buildSsmFromTable maxBroadcastsPerStatus nowEpoch =>
          have hrow : (s.table.map (PriorityRequestEntry.charge maxBroadcastsPerStatus)).rows[i]? =
              some e' := by
            rw [← buildSsmFromTable_table]
            exact he'
          rw [PriorityTable.rows_map, List.getElem?_map, he] at hrow
          exact (Option.some.inj hrow).symm
      | clearLaneStrategyMap =>
          obtain rfl := Option.some.inj (he'.symm.trans he)
          exact rfl
      | setLaneStrategy =>
          obtain rfl := Option.some.inj (he'.symm.trans he)
          exact rfl

end

/-- What a request sees of an operation are the calls of its limiter, -/
theorem seen_eq_calls {n : UInt8} {op : TableOp} (hlimit : op.HasLimit n) {s : PrsState} {i : Nat}
    {e : PriorityRequestEntry} (he : s.table.rows[i]? = some e)
    (hopen : e.statusInPRS ≠ idleNotValid) :
    op.seen s i = e.limiter.calls n.toNat ((op.seen s i).map Prod.fst) := by
  cases op with
  | buildSsmFromTable maxBroadcastsPerStatus nowEpoch =>
      have hget : s.table.rows.getD i {} = e := by
        rw [List.getD_eq_getElem?_getD, he]
        rfl
      obtain rfl : maxBroadcastsPerStatus = n := hlimit
      simp only [seen, hget, List.map_cons, List.map_nil, Limiter.calls]
      rw [PriorityRequestEntry.due_of_open hopen]
  | _ => rfl

/-- and these leave the limiter of its next row. -/
theorem limiter_of_kept {n : UInt8} {op : TableOp} (hlimit : op.HasLimit n) {s : PrsState}
    {i : Nat} {e e' : PriorityRequestEntry} (he : s.table.rows[i]? = some e)
    (hopen : e.statusInPRS ≠ idleNotValid) (hkept : LimiterKept e e' op) :
    ((op.seen s i).map Prod.fst).foldl (Limiter.step n.toNat) e.limiter = e'.limiter := by
  cases op with
  | buildSsmFromTable maxBroadcastsPerStatus nowEpoch =>
      have hget : s.table.rows.getD i {} = e := by
        rw [List.getD_eq_getElem?_getD, he]
        rfl
      obtain rfl : maxBroadcastsPerStatus = n := hlimit
      obtain rfl : e' = e.charge maxBroadcastsPerStatus := hkept
      simp only [seen, hget, List.map_cons, List.map_nil, List.foldl_cons, List.foldl_nil]
      exact (PriorityRequestEntry.limiter_charge hopen _).symm
  | _ => exact hkept.symm

/-- The broadcasts of a request are the calls of its limiter. -/
theorem broadcasts_eq_calls {n : UInt8} (ops : List TableOp) (hlimit : ∀ op ∈ ops, op.HasLimit n)
    {s : PrsState} {i : Nat} {e : PriorityRequestEntry} (he : s.table.rows[i]? = some e)
    (hopen : e.statusInPRS ≠ idleNotValid) :
    broadcasts s i ops =
      e.limiter.calls n.toNat ((broadcasts s i ops).map Prod.fst) := by
  induction ops generalizing s i e with
  | nil => rfl
  | cons op ops ih =>
      obtain ⟨hop, hops⟩ := List.forall_mem_cons.mp hlimit
      have hseen := seen_eq_calls hop he hopen
      rw [broadcasts, List.map_append, Limiter.calls_append, ← hseen]
      congr 1
      cases hfollow : op.follow s i with
      | none => rfl
      | some j =>
          obtain ⟨e', he', hopen', hkept⟩ := limiterKept_of_follow he hfollow
          rw [limiter_of_kept hop he hopen hkept]
          exact ih hops he' hopen'

end TableOp

/-! ## The message -/

/-- The packages of a message, intersection after intersection. -/
def SignalStatusMessage.packages (msg : SignalStatusMessage) : List SignalStatusPackage :=
  msg.status.flatMap SignalStatus.sigStatus

theorem perm_addByIntersection (groups : List (Int × List PriorityRequestEntry))
    (entry : PriorityRequestEntry) :
    ((addByIntersection groups entry).flatMap Prod.snd).Perm
      (groups.flatMap Prod.snd ++ [entry]) := by
  induction groups with
  | nil => exact .refl _
  | cons group groups ih =>
      obtain ⟨intID, entries⟩ := group
      unfold addByIntersection
      split_ifs
      · simp only [List.flatMap_cons]
        exact List.perm_append_comm
      · simp only [List.flatMap_cons, List.append_assoc]
        exact List.perm_append_comm.append_left _
      · simp only [List.flatMap_cons, List.append_assoc]
        exact ih.append_left _

theorem perm_foldl_addByIntersection (rows : List PriorityRequestEntry)
    (groups : List (Int × List PriorityRequestEntry)) :
    ((rows.foldl addByIntersection groups).flatMap Prod.snd).Perm
      (groups.flatMap Prod.snd ++ rows) := by
  induction rows generalizing groups with
  | nil => rw [List.append_nil]; exact .refl _
  | cons row rows ih =>
      refine (ih _).trans ?_
      refine ((perm_addByIntersection groups row).append_right rows).trans ?_
      rw [List.append_assoc]
      exact .refl _

theorem packages_signalStatuses (st : SsmBroadcastState)
    (groups : List (Int × List PriorityRequestEntry)) :
    (st.signalStatuses groups).2.flatMap SignalStatus.sigStatus =
      (groups.flatMap Prod.snd).map PriorityRequestEntry.statusPackage := by
  induction groups generalizing st with
  | nil => rfl
  | cons group groups ih =>
      obtain ⟨intID, entries⟩ := group
      simp only [SsmBroadcastState.signalStatuses, List.flatMap_cons, List.map_append]
      rw [ih]

/-- **A message has one package for each row that is due, and no others**; without a row that is
due there is no message. -/
theorem perm_packages_buildSsmFromTable (table : PriorityTable) (maxBroadcastsPerStatus : UInt8)
    (nowEpoch : Int) (ssmState : SsmBroadcastState) :
    ((buildSsmFromTable table maxBroadcastsPerStatus nowEpoch ssmState).2.2.toList.flatMap
        SignalStatusMessage.packages).Perm
      ((table.rows.filter fun entry => entry.due maxBroadcastsPerStatus).map
        PriorityRequestEntry.statusPackage) := by
  have hgroups := perm_foldl_addByIntersection
    (table.rows.filter fun entry => entry.due maxBroadcastsPerStatus) []
  unfold buildSsmFromTable
  simp only []
  split_ifs with hempty
  · rw [List.isEmpty_iff.mp hempty] at hgroups
    exact hgroups.map _
  · have hpackages := packages_signalStatuses
      { ssmState with ssmSequenceCounter := ssmState.ssmSequenceCounter + 1 }
      ((table.rows.filter fun entry => entry.due maxBroadcastsPerStatus).foldl
        addByIntersection [])
    show ([_].flatMap SignalStatusMessage.packages).Perm _
    rw [List.flatMap_singleton]
    unfold SignalStatusMessage.packages
    rw [hpackages]
    exact hgroups.map _

/-! ## Whole lives -/

/-- A package leaves the limiter of the row it is stored in fresh. -/
theorem count_of_inserts {ops : List TableOp} {pkg : SignalRequestPackage}
    {input : PrsPackageInput} {i : Nat} {before after : PriorityRequestEntry}
    (hbefore : (TableOp.run ops).table.rows[i]? = some before)
    (hidle : before.statusInPRS = idleNotValid)
    (hafter : ((TableOp.applyPrsPackage pkg input).apply (TableOp.run ops)).table.rows[i]? =
      some after) : after.limiter.count = 0 := by
  have hdefault : before = {} :=
    ((tableInvariant_foldl ops).rowOk before (List.mem_of_getElem? hbefore)).idle_default hidle
  have hkept := getElem?_of_limiters (PriorityTable.limiters_applyPrsPackage _ _ _ _) hbefore hafter
  rw [hkept, hdefault]
  rfl

/-- **The broadcast limiter**: in every run with a fixed limit, from the package that inserts a
request until its row is reset, each maximal stretch of broadcasts in which the request has one
effective status reports it in exactly the first `n` of them. The broadcasts that report a request
are those whose message has a package for its row. -/
theorem broadcasts_limited {n : UInt8} {ops later : List TableOp} {pkg : SignalRequestPackage}
    {input : PrsPackageInput} {i : Nat} (hinserts : Inserts (TableOp.run ops) pkg input i)
    (hlimit : ∀ op ∈ later, op.HasLimit n) :
    Limited n.toNat
        (TableOp.broadcasts ((TableOp.applyPrsPackage pkg input).apply (TableOp.run ops)) i later) ∧
      ∀ (table : PriorityTable) (nowEpoch : Int) (ssmState : SsmBroadcastState),
        ((buildSsmFromTable table n nowEpoch ssmState).2.2.toList.flatMap
            SignalStatusMessage.packages).Perm
          ((table.rows.filter fun entry => entry.due n).map
            PriorityRequestEntry.statusPackage) := by
  refine ⟨?_, fun table => perm_packages_buildSsmFromTable table n⟩
  obtain ⟨before, after, hbefore, hidle, hafter, hopen⟩ := hinserts
  rw [TableOp.broadcasts_eq_calls later hlimit hafter hopen]
  exact Limiter.limited_calls (count_of_inserts hbefore hidle hafter) _

/-- A request for lane 1, which has no strategy here. -/
def strangePkg : SignalRequestPackage where
  requestID := 3
  intersectionID := 9709
  requestType := .priorityRequest
  inBoundLane := .lane 1

/-- Four broadcasts with the limit 2 and a reordering of the rows between them. -/
def fourBroadcasts : List TableOp :=
  [.buildSsmFromTable 2 1000, .buildSsmFromTable 2 1001, .runPrioritizationProcessing 1001,
    .buildSsmFromTable 2 1002, .buildSsmFromTable 2 1003]

theorem hasLimit_fourBroadcasts : ∀ op ∈ fourBroadcasts, op.HasLimit 2 :=
  List.forall_mem_cons.mpr ⟨rfl, List.forall_mem_cons.mpr ⟨rfl, List.forall_mem_cons.mpr ⟨trivial,
    List.forall_mem_cons.mpr ⟨rfl, List.forall_mem_cons.mpr ⟨rfl, List.forall_mem_nil _⟩⟩⟩⟩⟩

def strangeInput : PrsPackageInput where
  vehicleID := [0x11, 0x22, 0x33, 0x44]
  classType := 3
  classLevel := 1
  nowEpoch := 1000
  timeToLiveSec := 60

theorem inserts_strangePkg : Inserts (TableOp.run []) strangePkg strangeInput 0 :=
  ⟨{}, _, rfl, rfl, rfl, by decide⟩

theorem broadcasts_limited_strangePkg :
    Limited 2 (TableOp.broadcasts
        ((TableOp.applyPrsPackage strangePkg strangeInput).apply (TableOp.run [])) 0
        fourBroadcasts) ∧
      ∀ (table : PriorityTable) (nowEpoch : Int) (ssmState : SsmBroadcastState),
        ((buildSsmFromTable table 2 nowEpoch ssmState).2.2.toList.flatMap
            SignalStatusMessage.packages).Perm
          ((table.rows.filter fun entry => entry.due 2).map PriorityRequestEntry.statusPackage) :=
  broadcasts_limited inserts_strangePkg hasLimit_fourBroadcasts

end V2XHub.Priority
