import V2XHub.Priority.Builder
import V2XHub.Priority.Ssm

/-!
# Signal status messages from a requestor

In PRG mode the plugin answers an SRM at once, from what it recorded of the vehicle's requests.
`buildSsmFromRequestor` shares its sequencing state with `buildSsmFromTable`, and its loop over the
intersections is the same: a key per request decides whether the intersection's sequence number
advances, a package per request is reported. `report` is that loop, over pairs of a key and a
package, and says what both builders do to the state.
-/

namespace V2XHub.Priority

/-! ## Grouping by intersection -/

/-- `byIntersection[..].push_back(..)` of a `std::map`, the keys ascending. -/
def pushBack {α : Type} (intID : α → Int) : List (Int × List α) → α → List (Int × List α)
  | [], a => [(intID a, [a])]
  | (id, as) :: rest, a =>
      if intID a < id then (intID a, [a]) :: (id, as) :: rest
      else if intID a = id then (id, as ++ [a]) :: rest
      else (id, as) :: pushBack intID rest a

theorem addByIntersection_eq : addByIntersection = pushBack (·.intersectionID) := by
  funext groups entry
  induction groups with
  | nil => rfl
  | cons g rest ih =>
      obtain ⟨id, es⟩ := g
      simp only [addByIntersection, pushBack, ih]

section pushBack

variable {α : Type} {intID : α → Int}

/-- The keys of the map, strictly ascending. -/
def Ascending (groups : List (Int × List α)) : Prop := groups.Pairwise (fun g h => g.1 < h.1)

theorem mem_pushBack {groups : List (Int × List α)} {a : α} {g : Int × List α}
    (h : g ∈ pushBack intID groups a) :
    g ∈ groups ∨ (g.1 = intID a ∧ ∃ as, g.2 = as ++ [a] ∧ (as = [] ∨ (g.1, as) ∈ groups)) := by
  induction groups with
  | nil =>
      simp only [pushBack, List.mem_singleton] at h
      subst h
      exact .inr ⟨rfl, [], rfl, .inl rfl⟩
  | cons d rest ih =>
      obtain ⟨id, as⟩ := d
      simp only [pushBack] at h
      split at h
      · rcases List.mem_cons.mp h with rfl | h
        · exact .inr ⟨rfl, [], rfl, .inl rfl⟩
        · exact .inl h
      · split at h
        · next heq =>
          rcases List.mem_cons.mp h with rfl | h
          · exact .inr ⟨heq.symm, as, rfl, .inr List.mem_cons_self⟩
          · exact .inl (List.mem_cons_of_mem _ h)
        · rcases List.mem_cons.mp h with rfl | h
          · exact .inl List.mem_cons_self
          · rcases ih h with h | ⟨hid, bs, hbs, hold⟩
            · exact .inl (List.mem_cons_of_mem _ h)
            · exact .inr ⟨hid, bs, hbs, hold.imp_right (List.mem_cons_of_mem _)⟩

theorem Ascending.pushBack {groups : List (Int × List α)} (h : Ascending groups) (a : α) :
    Ascending (pushBack intID groups a) := by
  induction groups with
  | nil => exact List.pairwise_singleton _ _
  | cons d rest ih =>
      obtain ⟨id, as⟩ := d
      obtain ⟨hhead, htail⟩ := List.pairwise_cons.mp h
      simp only [Priority.pushBack]
      split
      · next hlt =>
        refine List.pairwise_cons.mpr ⟨fun g hg => ?_, h⟩
        rcases List.mem_cons.mp hg with rfl | hg
        · exact hlt
        · exact Int.lt_trans hlt (hhead g hg)
      · split
        · exact List.pairwise_cons.mpr ⟨hhead, htail⟩
        · next hnlt hne =>
          refine List.pairwise_cons.mpr ⟨fun g hg => ?_, ih htail⟩
          rcases mem_pushBack hg with hg | ⟨hid, -⟩
          · exact hhead g hg
          · show id < g.1
            omega

/-- A map built by `push_back` of the elements `as`: ascending keys, and nothing but what was
pushed. -/
structure Grouped (as : List α) (groups : List (Int × List α)) : Prop where
  ascending : Ascending groups
  mem : ∀ g ∈ groups, ∀ a ∈ g.2, a ∈ as

theorem Grouped.pushBack {as : List α} {groups : List (Int × List α)} (h : Grouped as groups)
    {a : α} (ha : a ∈ as) : Grouped as (pushBack intID groups a) := by
  refine ⟨h.ascending.pushBack a, ?_⟩
  intro g hg b hb
  rcases mem_pushBack hg with hg | ⟨-, bs, hbs, hold⟩
  · exact h.mem g hg b hb
  · rw [hbs, List.mem_append, List.mem_singleton] at hb
    rcases hb with hb | rfl
    · rcases hold with rfl | hold
      · cases hb
      · exact h.mem _ hold b hb
    · exact ha

theorem grouped_foldl (intID : α → Int) (as : List α) : Grouped as (as.foldl (pushBack intID) []) :=
  List.foldlRecOn (motive := Grouped as) as _ ⟨.nil, by simp⟩
    fun _ h _ ha => h.pushBack ha

end pushBack

/-! ## The loop over the intersections -/

/-- What is reported of one intersection: a key and a package for each request. -/
abbrev StatusGroup := Int × List (List Int × SignalStatusPackage)

namespace SsmBroadcastState

def report (st : SsmBroadcastState) : List StatusGroup → SsmBroadcastState × List SignalStatus
  | [] => (st, [])
  | (intID, reqs) :: rest =>
      let st := st.advance intID (reqs.map Prod.fst)
      let signalStatus : SignalStatus :=
        { id := intID
          sequenceNumber := st.signalStatusSeq intID
          sigStatus := reqs.map Prod.snd }
      let (st, statuses) := st.report rest
      (st, signalStatus :: statuses)

/-- The sequence number an intersection is reported with. -/
def seqAfter (st : SsmBroadcastState) (intID : Int) (currentSeqKey : List (List Int)) : UInt8 :=
  if st.lastSignalStatusKey.lookup intID = some currentSeqKey then st.signalStatusSeq intID
  else st.signalStatusSeq intID + 1

section advance

variable (st : SsmBroadcastState) (intID : Int) (key : List (List Int))

theorem signalStatusSeq_advance : (st.advance intID key).signalStatusSeq intID =
    st.seqAfter intID key := by
  unfold advance seqAfter
  split
  · rfl
  · simp [signalStatusSeq]

theorem lastSignalStatusKey_advance :
    (st.advance intID key).lastSignalStatusKey.lookup intID = some key := by
  unfold advance
  split
  · assumption
  · simp

theorem advance_of_ne {id : Int} (h : id ≠ intID) :
    (st.advance intID key).signalStatusSeq id = st.signalStatusSeq id ∧
      (st.advance intID key).lastSignalStatusKey.lookup id =
        st.lastSignalStatusKey.lookup id := by
  unfold advance
  split
  · exact ⟨rfl, rfl⟩
  · simp [signalStatusSeq, AList.lookup_insert_ne h]

@[simp] theorem ssmSequenceCounter_advance :
    (st.advance intID key).ssmSequenceCounter = st.ssmSequenceCounter := by
  unfold advance
  split
  · rfl
  · rfl

end advance

@[simp] theorem ssmSequenceCounter_report (st : SsmBroadcastState) (groups : List StatusGroup) :
    (st.report groups).1.ssmSequenceCounter = st.ssmSequenceCounter := by
  induction groups generalizing st with
  | nil => rfl
  | cons g rest ih =>
      show ((st.advance g.1 _).report rest).1.ssmSequenceCounter = _
      rw [ih, ssmSequenceCounter_advance]

/-- Intersections that are not reported keep their sequence number and key. -/
theorem report_of_not_mem (st : SsmBroadcastState) {groups : List StatusGroup} {id : Int}
    (h : ∀ g ∈ groups, g.1 ≠ id) :
    (st.report groups).1.signalStatusSeq id = st.signalStatusSeq id ∧
      (st.report groups).1.lastSignalStatusKey.lookup id =
        st.lastSignalStatusKey.lookup id := by
  induction groups generalizing st with
  | nil => exact ⟨rfl, rfl⟩
  | cons g rest ih =>
      have hne : id ≠ g.1 := Ne.symm (h g List.mem_cons_self)
      obtain ⟨hseq, hkey⟩ := ih (st.advance g.1 (g.2.map Prod.fst))
        fun d hd => h d (List.mem_cons_of_mem _ hd)
      obtain ⟨hseq', hkey'⟩ := st.advance_of_ne g.1 (g.2.map Prod.fst) hne
      exact ⟨hseq.trans hseq', hkey.trans hkey'⟩

/-- An intersection that is reported has the key of this report and the number that goes with it. -/
theorem report_of_mem (st : SsmBroadcastState) {groups : List StatusGroup}
    (hasc : Ascending groups) {g : StatusGroup} (hg : g ∈ groups) :
    (st.report groups).1.signalStatusSeq g.1 = st.seqAfter g.1 (g.2.map Prod.fst) ∧
      (st.report groups).1.lastSignalStatusKey.lookup g.1 = some (g.2.map Prod.fst) := by
  induction groups generalizing st with
  | nil => cases hg
  | cons d rest ih =>
      obtain ⟨hhead, htail⟩ := List.pairwise_cons.mp hasc
      rcases List.mem_cons.mp hg with rfl | hg
      · obtain ⟨hseq, hkey⟩ := report_of_not_mem (st.advance g.1 (g.2.map Prod.fst))
          fun d hd => Int.ne_of_gt (hhead d hd)
        exact ⟨hseq.trans (signalStatusSeq_advance ..), hkey.trans (lastSignalStatusKey_advance ..)⟩
      · obtain ⟨hseq, hkey⟩ := ih (st.advance d.1 (d.2.map Prod.fst)) htail hg
        obtain ⟨hseq', hkey'⟩ := st.advance_of_ne d.1 (d.2.map Prod.fst)
          (Int.ne_of_gt (hhead g hg))
        refine ⟨hseq.trans ?_, hkey⟩
        rw [seqAfter, seqAfter, hseq', hkey']

/-- **What the loop reports**: one status per intersection, numbered from the state before the
loop. -/
theorem statuses_report {st : SsmBroadcastState} {groups : List StatusGroup}
    (hasc : Ascending groups) :
    (st.report groups).2 = groups.map fun g =>
      { id := g.1
        sequenceNumber := st.seqAfter g.1 (g.2.map Prod.fst)
        sigStatus := g.2.map Prod.snd } := by
  induction groups generalizing st with
  | nil => rfl
  | cons d rest ih =>
      obtain ⟨hhead, htail⟩ := List.pairwise_cons.mp hasc
      show _ :: ((st.advance d.1 _).report rest).2 = _ :: _
      rw [ih htail, signalStatusSeq_advance]
      refine congrArg (List.cons _) (List.map_congr_left fun g hg => ?_)
      -- the first intersection's update is not seen by the others
      obtain ⟨hseq, hkey⟩ := st.advance_of_ne d.1 (d.2.map Prod.fst) (Int.ne_of_gt (hhead g hg))
      rw [seqAfter, seqAfter, hseq, hkey]

/-- The rows of one intersection as the table builder reports them. -/
def tableGroup (g : Int × List PriorityRequestEntry) : StatusGroup :=
  (g.1, g.2.map fun e => (e.seqKey, e.statusPackage))

theorem signalStatuses_eq_report (st : SsmBroadcastState)
    (groups : List (Int × List PriorityRequestEntry)) :
    st.signalStatuses groups = st.report (groups.map tableGroup) := by
  induction groups generalizing st with
  | nil => rfl
  | cons g rest ih =>
      obtain ⟨intID, entries⟩ := g
      simp only [signalStatuses, List.map_cons, tableGroup, report, List.map_map]
      rw [ih]
      rfl

end SsmBroadcastState

/-! ## The builder -/

namespace SignalRequest

variable (state : RequestorState) (req : SignalRequest)

/-- The numbers of `seqKey`, in order. -/
def seqKey : List Int :=
  [req.requestID.toNat, if req.rejected then 1 else 0, state.sequenceNumber.toNat,
    req.timeOfService.toNat, req.timeOfDepart.toNat, req.inboundPresent.toNat, req.inboundValue]

/-- `fallbackEta`, for a request without an ETA of its own. -/
def fallbackUtc (nowEpoch : Int) (estimatedArrivalTime : UInt16) : Tm :=
  gmtime_r (nowEpoch + estimatedArrivalTime.toNat)

/-- The configured duration, in seconds, for a request without one. -/
def fallbackDuration (estimatedArrivalTime estimatedDepartureTime : UInt16) : Nat :=
  if estimatedDepartureTime > estimatedArrivalTime then
    estimatedDepartureTime.toNat - estimatedArrivalTime.toNat
  else estimatedDepartureTime.toNat

def statusPackage (nowEpoch : Int) (estimatedArrivalTime estimatedDepartureTime : UInt16) :
    SignalStatusPackage where
  requesterId := requesterVehicleID state.vehicleID
  request := req.requestID
  requesterSequenceNumber := state.sequenceNumber
  role := state.role
  inboundOn := inboundOn req.inboundPresent req.inboundValue
  minute :=
    some (if req.etaMinute > 0 then req.etaMinute
      else (fallbackUtc nowEpoch estimatedArrivalTime).minuteOfTheYear)
  second :=
    some (if req.etaSecond > 0 then req.etaSecond
      else (fallbackUtc nowEpoch estimatedArrivalTime).tm_sec * 1000)
  duration :=
    some (if req.duration > 0 then req.duration
      else fallbackDuration estimatedArrivalTime estimatedDepartureTime * 1000)
  status :=
    if req.rejected then .rejected
    else if req.requestType = .priorityCancellation then .watchOtherTraffic
    else .processing

end SignalRequest

/-- The sequencing state afterwards and the message; none when there are no requests. -/
def buildSsmFromRequestor (state : RequestorState) (nowMs : UInt64)
    (estimatedArrivalTime estimatedDepartureTime : UInt16) (ssmState : SsmBroadcastState) :
    SsmBroadcastState × Option SignalStatusMessage :=
  if state.requests.isEmpty then (ssmState, none)
  else
    let nowEpoch : Int := (nowMs / 1000).toNat
    let subsecMs : Int := (nowMs % 1000).toNat
    let utcNow := gmtime_r nowEpoch
    let ssmState :=
      { ssmState with ssmSequenceCounter := ssmState.ssmSequenceCounter + 1 }
    let byIntersection := state.requests.foldl (pushBack (·.intersectionID)) []
    let (ssmState', statuses) := ssmState.report (byIntersection.map fun g =>
      (g.1, g.2.map fun req => (req.seqKey state,
        req.statusPackage state nowEpoch estimatedArrivalTime estimatedDepartureTime)))
    (ssmState',
      some { timeStamp := utcNow.minuteOfTheYear
             second := utcNow.tm_sec * 1000 + subsecMs
             sequenceNumber := ssmState.ssmSequenceCounter
             status := statuses })

end V2XHub.Priority
