import V2XHub.Priority.Prg
import V2XHub.Priority.SsmRequestor

/-!
# Sequences of signal status messages

Both builders work on one `SsmBroadcastState`, in any order. A `Call` is one use of either; what it
reports of an intersection is a list of rows or of requests (`Reported`), and `build_eq` brings the
two builders to one form. From it follow the exact conditions for the two things receivers rely on:
the fields fit their J2735 types, and a sequence number that stands still means that nothing
changed.
-/

namespace V2XHub.Priority

/-- One row or one request in a message. -/
inductive Reported
  | row (entry : PriorityRequestEntry)
  | request (state : RequestorState) (nowEpoch : Int)
      (estimatedArrivalTime estimatedDepartureTime : UInt16) (req : SignalRequest)

namespace Reported

def key : Reported → List Int
  | row e => e.seqKey
  | request state _ _ _ req => req.seqKey state

def package : Reported → SignalStatusPackage
  | row e => e.statusPackage
  | request state nowEpoch arrival departure req =>
      req.statusPackage state nowEpoch arrival departure

end Reported

inductive Call
  | fromTable (table : PriorityTable) (maxBroadcastsPerStatus : UInt8) (nowEpoch : Int)
  | fromRequestor (state : RequestorState) (nowMs : UInt64)
      (estimatedArrivalTime estimatedDepartureTime : UInt16)

namespace Call

def build (ssmState : SsmBroadcastState) : Call → SsmBroadcastState × Option SignalStatusMessage
  | fromTable table maxBroadcastsPerStatus nowEpoch =>
      (buildSsmFromTable table maxBroadcastsPerStatus nowEpoch ssmState).2
  | fromRequestor state nowMs arrival departure =>
      buildSsmFromRequestor state nowMs arrival departure ssmState

/-- What a call reports, by intersection. -/
def groups : Call → List (Int × List Reported)
  | fromTable table maxBroadcastsPerStatus _ =>
      ((table.rows.filter fun e => e.due maxBroadcastsPerStatus).foldl addByIntersection []).map
        fun g => (g.1, g.2.map .row)
  | fromRequestor state nowMs arrival departure =>
      (state.requests.foldl (pushBack (·.intersectionID)) []).map
        fun g => (g.1, g.2.map (.request state (nowMs / 1000).toNat arrival departure))

/-- The header's `timeStamp`. -/
def timeStamp : Call → Int
  | fromTable _ _ nowEpoch => (gmtime_r nowEpoch).minuteOfTheYear
  | fromRequestor _ nowMs _ _ => (gmtime_r (nowMs / 1000).toNat).minuteOfTheYear

/-- The header's `second`, which is in milliseconds. -/
def second : Call → Int
  | fromTable _ _ nowEpoch => (gmtime_r nowEpoch).tm_sec * 1000
  | fromRequestor _ nowMs _ _ =>
      (gmtime_r (nowMs / 1000).toNat).tm_sec * 1000 + (nowMs % 1000).toNat

def statusGroup (g : Int × List Reported) : StatusGroup :=
  (g.1, g.2.map fun r => (r.key, r.package))

end Call

theorem pushBack_ne_nil {α : Type} (intID : α → Int) (groups : List (Int × List α)) (a : α) :
    pushBack intID groups a ≠ [] := by
  cases groups with
  | nil => simp [pushBack]
  | cons g rest =>
      simp only [pushBack]
      split
      · simp
      · split
        · simp
        · simp

theorem isEmpty_foldl_pushBack {α : Type} (intID : α → Int) (as : List α) :
    (as.foldl (pushBack intID) []).isEmpty = as.isEmpty := by
  rcases List.eq_nil_or_concat as with rfl | ⟨as, a, rfl⟩
  · rfl
  · have hlast := pushBack_ne_nil intID (as.foldl (pushBack intID) []) a
    rw [List.concat_eq_append, List.foldl_append, List.foldl_cons, List.foldl_nil,
      List.isEmpty_eq_false_iff.mpr hlast, List.isEmpty_eq_false_iff.mpr (by simp)]

/-- **Both builders in one form.** -/
theorem build_eq (c : Call) (st : SsmBroadcastState) :
    c.build st =
      if c.groups.isEmpty then (st, none)
      else
        let r := { st with ssmSequenceCounter := st.ssmSequenceCounter + 1 }.report
          (c.groups.map Call.statusGroup)
        (r.1, some { timeStamp := c.timeStamp
                     second := c.second
                     sequenceNumber := st.ssmSequenceCounter + 1
                     status := r.2 }) := by
  cases c with
  | fromTable table max now =>
      have hgroups : (Call.fromTable table max now).groups.map Call.statusGroup =
          ((table.rows.filter fun e => e.due max).foldl addByIntersection []).map
            SsmBroadcastState.tableGroup := by
        simp [Call.groups, Call.statusGroup, SsmBroadcastState.tableGroup, Function.comp_def,
          Reported.key, Reported.package]
      rw [hgroups]
      simp only [Call.build, buildSsmFromTable, SsmBroadcastState.signalStatuses_eq_report,
        Call.groups, List.isEmpty_map]
      split
      · rfl
      · rfl
  | fromRequestor state nowMs arrival departure =>
      have hgroups : (Call.fromRequestor state nowMs arrival departure).groups.map
          Call.statusGroup = (state.requests.foldl (pushBack (·.intersectionID)) []).map fun g =>
            (g.1, g.2.map fun req => (req.seqKey state,
              req.statusPackage state (nowMs / 1000).toNat arrival departure)) := by
        simp [Call.groups, Call.statusGroup, Function.comp_def, Reported.key, Reported.package]
      rw [hgroups]
      simp only [Call.build, buildSsmFromRequestor, Call.groups, List.isEmpty_map,
        isEmpty_foldl_pushBack]
      split
      · rfl
      · rfl

namespace Call

theorem ascending_groups (c : Call) : Ascending (c.groups.map statusGroup) := by
  have hmap : ∀ {α : Type} {groups : List (Int × List α)}
      {f : Int × List α → StatusGroup}, (∀ g, (f g).1 = g.1) → Ascending groups →
      Ascending (groups.map f) := by
    intro α groups f hf h
    exact List.pairwise_map.mpr (h.imp fun {g d} hlt => by rw [hf, hf]; exact hlt)
  cases c with
  | fromTable table max now =>
      simp only [groups, List.map_map]
      refine hmap (fun g => rfl) ?_
      rw [addByIntersection_eq]
      exact (grouped_foldl _ _).ascending
  | fromRequestor state nowMs arrival departure =>
      simp only [groups, List.map_map]
      exact hmap (fun g => rfl) (grouped_foldl _ _).ascending

/-- The message of a call, from the state before it. -/
theorem message_of_build {c : Call} {st : SsmBroadcastState} {msg : SignalStatusMessage}
    (h : (c.build st).2 = some msg) :
    c.groups ≠ [] ∧ msg.second = c.second ∧ msg.sequenceNumber = st.ssmSequenceCounter + 1 ∧
      msg.status = c.groups.map fun g =>
        { id := g.1
          sequenceNumber := st.seqAfter g.1 (g.2.map Reported.key)
          sigStatus := g.2.map Reported.package } := by
  rw [build_eq] at h
  split at h
  · cases h
  · next hne =>
    cases h
    refine ⟨by simpa using hne, rfl, rfl, ?_⟩
    show (SsmBroadcastState.report _ _).2 = _
    rw [SsmBroadcastState.statuses_report c.ascending_groups, List.map_map]
    apply List.map_congr_left
    intro g _
    simp [statusGroup, Function.comp_def, SsmBroadcastState.seqAfter,
      SsmBroadcastState.signalStatusSeq]

theorem state_of_mem {c : Call} {st : SsmBroadcastState} {g : Int × List Reported}
    (hg : g ∈ c.groups) :
    (c.build st).1.signalStatusSeq g.1 = st.seqAfter g.1 (g.2.map Reported.key) ∧
      (c.build st).1.lastSignalStatusKey.lookup g.1 = some (g.2.map Reported.key) := by
  have hne : ¬ c.groups.isEmpty = true := by
    intro hempty
    rw [List.isEmpty_iff.mp hempty] at hg
    cases hg
  have hspec := SsmBroadcastState.report_of_mem
    { st with ssmSequenceCounter := st.ssmSequenceCounter + 1 } c.ascending_groups
    (List.mem_map_of_mem hg)
  rw [build_eq, if_neg hne]
  simpa [statusGroup, Function.comp_def, SsmBroadcastState.seqAfter,
    SsmBroadcastState.signalStatusSeq] using hspec

theorem state_of_not_mem {c : Call} {st : SsmBroadcastState} {intID : Int}
    (h : ∀ g ∈ c.groups, g.1 ≠ intID) :
    (c.build st).1.signalStatusSeq intID = st.signalStatusSeq intID ∧
      (c.build st).1.lastSignalStatusKey.lookup intID = st.lastSignalStatusKey.lookup intID := by
  rw [build_eq]
  split
  · exact ⟨rfl, rfl⟩
  · apply SsmBroadcastState.report_of_not_mem _
    intro d hd
    obtain ⟨g, hg, rfl⟩ := List.mem_map.mp hd
    exact h g hg

/-- There is a message as soon as there is something to report. -/
theorem exists_message {c : Call} (st : SsmBroadcastState) (h : c.groups ≠ []) :
    ∃ msg, (c.build st).2 = some msg := by
  rw [build_eq, if_neg (by simpa using h)]
  exact ⟨_, rfl⟩

end Call

/-- The sequencing state after a series of calls. -/
def stateAfter (calls : List Call) : SsmBroadcastState :=
  calls.foldl (fun st c => (c.build st).1) {}

/-! ## Field ranges -/

/-- `Common_MsgCount_t`, 0..127. -/
def IsMsgCount (n : UInt8) : Prop := n.toNat ≤ 127

/-- `DSecond_t`, 0..65535. -/
def IsDSecond (x : Int) : Prop := 0 ≤ x ∧ x ≤ 65535

/-- The counters, seconds and durations of a message can be encoded. -/
structure SignalStatusMessage.InRange (msg : SignalStatusMessage) : Prop where
  second : IsDSecond msg.second
  sequenceNumber : IsMsgCount msg.sequenceNumber
  status : ∀ status ∈ msg.status, IsMsgCount status.sequenceNumber ∧
    ∀ pkg ∈ status.sigStatus,
      (∀ x, pkg.second = some x → IsDSecond x) ∧ (∀ x, pkg.duration = some x → IsDSecond x)

/-- A counter whose next value is a message count. It wraps at 256, not at 128. -/
def HasRoom (counter : UInt8) : Prop := counter.toNat < 127 ∨ counter.toNat = 255

theorem isMsgCount_add_one {counter : UInt8} : IsMsgCount (counter + 1) ↔ HasRoom counter := by
  have hlt := counter.toNat_lt
  simp only [IsMsgCount, HasRoom, UInt8.toNat_add]
  simp only [UInt8.reduceToNat]
  omega

/-- The duration reported fits: of a row when departure follows service by at most 65 s (the product
with 1000 is taken in 32 bits), of a request when it brings its own or the configured estimates are
at most 65 s apart. -/
def Reported.DurationFits : Reported → Prop
  | .row e => e.timeOfEstimatedDepartureInPRS > e.timeOfServiceDesiredInPRS →
      (e.timeOfEstimatedDepartureInPRS - e.timeOfServiceDesiredInPRS).toNat * 1000 % UInt32.size ≤
        65535
  | .request _ _ arrival departure req =>
      req.duration > 0 ∨ SignalRequest.fallbackDuration arrival departure ≤ 65

/-- The requests of the handler come from decoded SRMs, whose `second` and `duration` are
`DSecond_t`. -/
def SignalRequest.Decoded (req : SignalRequest) : Prop :=
  IsDSecond req.etaSecond ∧ IsDSecond req.duration

/-- What the SRM handler records of a package is decoded. -/
theorem processPrgPackage_decoded (s : PrgState) {pkg : SignalRequestPackage}
    (input : PrgPackageInput) (setOk : Bool) (hsecond : ∀ x, pkg.second = some x → IsDSecond x)
    (hduration : ∀ x, pkg.duration = some x → IsDSecond x) :
    (s.processPrgPackage pkg input setOk).2.Decoded := by
  have hget : ∀ {o : Option Int}, (∀ x, o = some x → IsDSecond x) → IsDSecond (o.getD 0) := by
    intro o ho
    cases o with
    | none => exact ⟨by simp, by simp⟩
    | some x => exact ho x rfl
  have hbuilt : (buildPrgPackage s.processor pkg input s.prgTrackedRequests
      s.controllers).signalRequest.Decoded := by
    unfold buildPrgPackage
    split
    · exact ⟨hget hsecond, hget hduration⟩
    · split
      · exact ⟨hget hsecond, hget hduration⟩
      · simp only []
        split_ifs
        · exact ⟨hget hsecond, hget hduration⟩
        · exact ⟨hget hsecond, hget hduration⟩
  unfold PrgState.processPrgPackage
  simp only []
  split
  · exact hbuilt
  · split_ifs
    · exact hbuilt
    · exact hbuilt

def Call.Decoded : Call → Prop
  | .fromTable _ _ _ => True
  | .fromRequestor state _ _ _ => ∀ req ∈ state.requests, req.Decoded

/-- Everything a call reports fits its field. -/
def Call.Fits (st : SsmBroadcastState) (c : Call) : Prop :=
  c.groups ≠ [] → HasRoom st.ssmSequenceCounter ∧ ∀ g ∈ c.groups,
    (if st.lastSignalStatusKey.lookup g.1 = some (g.2.map Reported.key) then
      IsMsgCount (st.signalStatusSeq g.1) else HasRoom (st.signalStatusSeq g.1)) ∧
    ∀ r ∈ g.2, r.DurationFits

instance (r : Reported) : Decidable r.DurationFits :=
  match r with
  | .row _ => inferInstanceAs (Decidable (_ → _))
  | .request .. => inferInstanceAs (Decidable (_ ∨ _))

instance (n : UInt8) : Decidable (IsMsgCount n) := inferInstanceAs (Decidable (_ ≤ _))

instance (n : UInt8) : Decidable (HasRoom n) := inferInstanceAs (Decidable (_ ∨ _))

theorem isDSecond_tm_sec (t : Int) : IsDSecond ((gmtime_r t).tm_sec * 1000) := by
  simp only [IsDSecond, gmtime_r]
  omega

theorem Call.isDSecond_second (c : Call) : IsDSecond c.second := by
  cases c with
  | fromTable table max now => exact isDSecond_tm_sec now
  | fromRequestor state nowMs arrival departure =>
      have hsub : (nowMs % 1000).toNat < 1000 := by
        rw [UInt64.toNat_mod]
        exact Nat.mod_lt _ (by decide)
      simp only [IsDSecond, Call.second, gmtime_r]
      omega

namespace Reported

def Decoded : Reported → Prop
  | .row _ => True
  | .request _ _ _ _ req => req.Decoded

theorem isDSecond_second {r : Reported} (h : r.Decoded) {x : Int}
    (hx : r.package.second = some x) : IsDSecond x := by
  cases r with
  | row e =>
      simp only [package, PriorityRequestEntry.statusPackage] at hx
      split at hx
      · cases hx
        exact isDSecond_tm_sec _
      · cases hx
  | request state now arrival departure req =>
      simp only [package, SignalRequest.statusPackage, Option.some.injEq] at hx
      subst hx
      split
      · exact h.1
      · exact isDSecond_tm_sec _

theorem isDSecond_duration_iff {r : Reported} (h : r.Decoded) :
    (∀ x, r.package.duration = some x → IsDSecond x) ↔ r.DurationFits := by
  cases r with
  | row e =>
      have htoNat : ((e.timeOfEstimatedDepartureInPRS - e.timeOfServiceDesiredInPRS) * 1000).toNat =
          (e.timeOfEstimatedDepartureInPRS - e.timeOfServiceDesiredInPRS).toNat * 1000 %
            UInt32.size := by
        rw [UInt32.toNat_mul]
        rfl
      simp only [package, PriorityRequestEntry.statusPackage, DurationFits, htoNat]
      by_cases hlater : e.timeOfEstimatedDepartureInPRS > e.timeOfServiceDesiredInPRS
      · simp only [hlater, if_true, Option.some.injEq, forall_eq', forall_const, IsDSecond]
        omega
      · simp [hlater]
  | request state now arrival departure req =>
      obtain ⟨-, hlo, hhi⟩ := h
      simp only [package, SignalRequest.statusPackage, DurationFits, Option.some.injEq, forall_eq',
        IsDSecond]
      by_cases hown : req.duration > 0
      · simp only [hown, if_true, true_or, iff_true]
        omega
      · simp only [hown, if_false, false_or]
        omega

end Reported

theorem Call.decoded_of_mem {c : Call} (hc : c.Decoded) {g : Int × List Reported}
    (hg : g ∈ c.groups) {r : Reported} (hr : r ∈ g.2) : r.Decoded := by
  cases c with
  | fromTable table max now =>
      obtain ⟨d, -, rfl⟩ := List.mem_map.mp hg
      obtain ⟨e, -, rfl⟩ := List.mem_map.mp hr
      trivial
  | fromRequestor state nowMs arrival departure =>
      obtain ⟨d, hd, rfl⟩ := List.mem_map.mp hg
      obtain ⟨req, hreq, rfl⟩ := List.mem_map.mp hr
      exact hc req ((grouped_foldl _ _).mem d hd req hreq)

/-- One call: its message is in range exactly when everything it reports fits. -/
theorem inRange_iff_fits {c : Call} (hc : c.Decoded) (st : SsmBroadcastState) :
    (∀ msg, (c.build st).2 = some msg → msg.InRange) ↔ c.Fits st := by
  constructor
  · intro h hne
    obtain ⟨msg, hmsg⟩ := Call.exists_message st hne
    obtain ⟨-, -, hnumber, hstatus⟩ := Call.message_of_build hmsg
    have hrange := h msg hmsg
    refine ⟨isMsgCount_add_one.mp (hnumber ▸ hrange.sequenceNumber), ?_⟩
    intro g hg
    obtain ⟨hseq, hpkgs⟩ := hrange.status _ (hstatus ▸ List.mem_map_of_mem hg)
    refine ⟨?_, fun r hr => ?_⟩
    · simp only [SsmBroadcastState.seqAfter] at hseq
      split at hseq
      · next heq => rwa [if_pos heq]
      · next hne => rwa [if_neg hne, ← isMsgCount_add_one]
    · exact (Reported.isDSecond_duration_iff (Call.decoded_of_mem hc hg hr)).mp
        (hpkgs _ (List.mem_map_of_mem hr)).2
  · intro hfits msg hmsg
    obtain ⟨hne, hsecond, hnumber, hstatus⟩ := Call.message_of_build hmsg
    obtain ⟨hroom, hgroups⟩ := hfits hne
    refine ⟨hsecond ▸ c.isDSecond_second, hnumber ▸ isMsgCount_add_one.mpr hroom, ?_⟩
    intro status hmem
    rw [hstatus] at hmem
    obtain ⟨g, hg, rfl⟩ := List.mem_map.mp hmem
    obtain ⟨hseq, hdurations⟩ := hgroups g hg
    refine ⟨?_, fun pkg hpkg => ?_⟩
    · simp only [SsmBroadcastState.seqAfter]
      split
      · next heq => rwa [if_pos heq] at hseq
      · next hne => rwa [if_neg hne, ← isMsgCount_add_one] at hseq
    · obtain ⟨r, hr, rfl⟩ := List.mem_map.mp hpkg
      have hdec := Call.decoded_of_mem hc hg hr
      exact ⟨fun x => Reported.isDSecond_second hdec,
        (Reported.isDSecond_duration_iff hdec).mpr (hdurations r hr)⟩

/-- **Every message of a run is in range exactly when every call fits** the state it finds. -/
theorem ssm_in_range_iff (calls : List Call) (hdecoded : ∀ c ∈ calls, c.Decoded) :
    (∀ (n : Nat) (c : Call) (msg : SignalStatusMessage), calls[n]? = some c →
      (c.build (stateAfter (calls.take n))).2 = some msg → msg.InRange) ↔
    ∀ (n : Nat) (c : Call), calls[n]? = some c → c.Fits (stateAfter (calls.take n)) := by
  constructor
  · intro h n c hc
    exact (inRange_iff_fits (hdecoded c (List.mem_of_getElem? hc)) _).mp fun msg => h n c msg hc
  · intro h n c msg hc
    exact (inRange_iff_fits (hdecoded c (List.mem_of_getElem? hc)) _).mpr (h n c hc) msg

/-- A vehicle's answer, one request with ETA and duration of its own. -/
def answer : Call :=
  .fromRequestor
    { vehicleID := [1, 2, 3, 4], classType := 1, sequenceNumber := 5, timeOfRequest := 0
      requests := [{ requestID := 1, intersectionID := 7, requestType := .priorityRequest
                     timeOfService := 5, timeOfDepart := 15, inboundPresent := 1, inboundValue := 3
                     etaMinute := 1000, etaSecond := 5000, duration := 10000 }] }
    1735689570000 4 3

theorem decoded_answer : answer.Decoded := by
  intro req hreq
  obtain rfl := List.mem_singleton.mp hreq
  exact ⟨⟨by decide, by decide⟩, ⟨by decide, by decide⟩⟩

/-- The answer, broadcast once. -/
theorem ssm_in_range_answer :
    (∃ msg, (answer.build {}).2 = some msg) ∧
    ∀ (n : Nat) (c : Call) (msg : SignalStatusMessage), [answer][n]? = some c →
      (c.build (stateAfter ([answer].take n))).2 = some msg → msg.InRange := by
  refine ⟨⟨_, rfl⟩, (ssm_in_range_iff [answer] ?_).mpr fun n c hc => ?_⟩
  · intro c hc
    obtain rfl := List.mem_singleton.mp hc
    exact decoded_answer
  · cases n with
    | zero =>
        cases hc
        intro _
        decide +kernel
    | succ n => simp at hc

theorem ssmSequenceCounter_build {c : Call} (hne : c.groups ≠ []) (st : SsmBroadcastState) :
    (c.build st).1.ssmSequenceCounter = st.ssmSequenceCounter + 1 := by
  rw [build_eq, if_neg (by simpa using hne)]
  exact SsmBroadcastState.ssmSequenceCounter_report _ _

theorem ssmSequenceCounter_replicate {c : Call} (hne : c.groups ≠ []) (n : Nat) :
    (stateAfter (List.replicate n c)).ssmSequenceCounter = UInt8.ofNat n := by
  induction n with
  | zero => rfl
  | succ n ih =>
      have hlast : stateAfter (List.replicate (n + 1) c) =
          (c.build (stateAfter (List.replicate n c))).1 := by
        simp [stateAfter, List.replicate_succ', List.foldl_append]
      rw [hlast, ssmSequenceCounter_build hne, ih, UInt8.ofNat_add]
      rfl

/-- The 128th message carries the sequence number 128. -/
theorem ssm_number_128 : ¬ ∀ calls : List Call, (∀ c ∈ calls, c.Decoded) →
    ∀ (n : Nat) (c : Call) (msg : SignalStatusMessage), calls[n]? = some c →
      (c.build (stateAfter (calls.take n))).2 = some msg → msg.InRange := by
  intro h
  have hne : answer.groups ≠ [] := by simp [answer, Call.groups, pushBack]
  have hdecoded : ∀ c ∈ List.replicate 128 answer, c.Decoded := by
    intro c hc
    rw [List.eq_of_mem_replicate hc]
    exact decoded_answer
  obtain ⟨msg, hmsg⟩ := Call.exists_message
    (stateAfter ((List.replicate 128 answer).take 127)) hne
  have hrange := h _ hdecoded 127 answer msg (by simp) hmsg
  have hnumber := (Call.message_of_build hmsg).2.2.1
  rw [List.take_replicate, ssmSequenceCounter_replicate hne] at hnumber
  have hcount := hnumber ▸ hrange.sequenceNumber
  revert hcount
  decide

/-! ## The change counter

A receiver that has seen an intersection's sequence number may ignore a status with the same number.
The number advances with the key, and the key leaves fields out. -/

theorem ofLittleEndian_inj {bs cs : List UInt8} (hlen : bs.length = cs.length)
    (h : ofLittleEndian bs = ofLittleEndian cs) : bs = cs := by
  induction bs generalizing cs with
  | nil => exact (List.length_eq_zero_iff.mp hlen.symm).symm
  | cons b bs ih =>
      cases cs with
      | nil => simp at hlen
      | cons c cs =>
          simp only [ofLittleEndian] at h
          have hb := b.toNat_lt
          have hc := c.toNat_lt
          have hhead : b.toNat = c.toNat := by omega
          have htail : ofLittleEndian bs = ofLittleEndian cs := by omega
          rw [UInt8.toNat_inj.mp hhead, ih (by simpa using hlen) htail]

/-- The requester id of a message tells vehicles apart. -/
theorem requesterVehicleID_inj {v w : List UInt8} :
    requesterVehicleID v = requesterVehicleID w ↔ v = w := by
  refine ⟨fun h => ?_, congrArg _⟩
  unfold requesterVehicleID at h
  split at h
  · next hv =>
    split at h
    · next hw => exact ofLittleEndian_inj (hv.trans hw.symm) (VehicleID.stationID.inj h)
    · split at h
      · cases h
      · cases h
  · split at h
    · split at h
      · cases h
      · split at h
        · exact VehicleID.entityID.inj h
        · cases h
    · next hv =>
      split at h
      · cases h
      · split at h
        · cases h
        · next hw => rw [not_not.mp hv, not_not.mp hw]

theorem toByte_inj {a b : RequestStatus} (h : a.toByte.toNat = b.toByte.toNat) : a = b := by
  have := congrArg RequestStatus.ofByte (UInt8.toNat_inj.mp h)
  rwa [RequestStatus.ofByte_toByte, RequestStatus.ofByte_toByte] at this

/-- What a package shows that its key does not determine. -/
inductive Unkeyed
  | row (vehicleID : List UInt8) (role : Int)
  | request (vehicleID : List UInt8) (role : Int) (cancels : Bool) (minute second duration : Int)
  deriving DecidableEq, Repr

namespace Reported

def unkeyed : Reported → Unkeyed
  | .row e => .row e.vehicleID e.role
  | .request state nowEpoch arrival departure req =>
      .request state.vehicleID state.role
        (!req.rejected && req.requestType = .priorityCancellation)
        (if req.etaMinute > 0 then req.etaMinute
          else (SignalRequest.fallbackUtc nowEpoch arrival).minuteOfTheYear)
        (if req.etaSecond > 0 then req.etaSecond
          else (SignalRequest.fallbackUtc nowEpoch arrival).tm_sec * 1000)
        (if req.duration > 0 then req.duration
          else SignalRequest.fallbackDuration arrival departure * 1000)

/-- Rows that are reported are in use. -/
def InUse : Reported → Prop
  | .row e => e.effectiveStatus ≠ .idleNotValid
  | .request .. => True

theorem package_eq_iff_of_rows {e e' : PriorityRequestEntry} (hkey : e.seqKey = e'.seqKey) :
    e.statusPackage = e'.statusPackage ↔ (row e).unkeyed = (row e').unkeyed := by
  simp only [PriorityRequestEntry.seqKey, List.cons.injEq, and_true] at hkey
  obtain ⟨hid, hstatus, hseq, htsd, hted, hpresent, hvalue⟩ := hkey
  have hid' : e.requestID = e'.requestID := UInt8.toNat_inj.mp (by omega)
  have hstatus' : e.effectiveStatus = e'.effectiveStatus := toByte_inj (by omega)
  have hseq' : e.sequenceNumber = e'.sequenceNumber := UInt8.toNat_inj.mp (by omega)
  have htsd' : e.timeOfServiceDesiredInPRS = e'.timeOfServiceDesiredInPRS :=
    UInt32.toNat_inj.mp (by omega)
  have hted' : e.timeOfEstimatedDepartureInPRS = e'.timeOfEstimatedDepartureInPRS :=
    UInt32.toNat_inj.mp (by omega)
  have hpresent' : e.inboundPresent = e'.inboundPresent := UInt8.toNat_inj.mp (by omega)
  simp only [PriorityRequestEntry.statusPackage, SignalStatusPackage.mk.injEq, hid', hstatus',
    hseq', htsd', hted', hpresent', hvalue, true_and, and_true, requesterVehicleID_inj, unkeyed,
    Unkeyed.row.injEq]

theorem package_eq_iff_of_requests {state state' : RequestorState} {now now' : Int}
    {arrival arrival' departure departure' : UInt16} {req req' : SignalRequest}
    (hkey : req.seqKey state = req'.seqKey state') :
    (request state now arrival departure req).package =
        (request state' now' arrival' departure' req').package ↔
      (request state now arrival departure req).unkeyed =
        (request state' now' arrival' departure' req').unkeyed := by
  simp only [SignalRequest.seqKey, List.cons.injEq, and_true] at hkey
  obtain ⟨hid, hrejected, hseq, -, -, hpresent, hvalue⟩ := hkey
  have hid' : req.requestID = req'.requestID := UInt8.toNat_inj.mp (by omega)
  have hseq' : state.sequenceNumber = state'.sequenceNumber := UInt8.toNat_inj.mp (by omega)
  have hpresent' : req.inboundPresent = req'.inboundPresent := UInt8.toNat_inj.mp (by omega)
  have hrejected' : req.rejected = req'.rejected := by
    cases hr : req.rejected with
    | false =>
        cases hr' : req'.rejected with
        | false => rfl
        | true => simp [hr, hr'] at hrejected
    | true =>
        cases hr' : req'.rejected with
        | false => simp [hr, hr'] at hrejected
        | true => rfl
  -- of the status, the key has the rejection and leaves out the cancellation
  have hstatus : (if req'.rejected then PrioritizationResponseStatus.rejected
        else if req.requestType = .priorityCancellation then .watchOtherTraffic else .processing) =
      (if req'.rejected then PrioritizationResponseStatus.rejected
        else if req'.requestType = .priorityCancellation then .watchOtherTraffic
        else .processing) ↔
      (!req'.rejected && decide (req.requestType = .priorityCancellation)) =
        (!req'.rejected && decide (req'.requestType = .priorityCancellation)) := by
    cases req'.rejected with
    | true => simp
    | false =>
        by_cases h : req.requestType = .priorityCancellation
        · by_cases h' : req'.requestType = .priorityCancellation
          · simp [h, h']
          · simp [h, h']
        · by_cases h' : req'.requestType = .priorityCancellation
          · simp [h, h']
          · simp [h, h']
  simp only [package, SignalRequest.statusPackage, SignalStatusPackage.mk.injEq, hid', hseq',
    hpresent', hvalue, hrejected', true_and, requesterVehicleID_inj, unkeyed, Option.some.injEq,
    Unkeyed.request.injEq, hstatus]
  tauto

/-- A row and a request never have the same key: the second number is a status from 2 on for the
one, and a truth value for the other. -/
theorem key_row_ne_request {e : PriorityRequestEntry} (h : e.effectiveStatus ≠ .idleNotValid)
    (state : RequestorState) (req : SignalRequest) : e.seqKey ≠ req.seqKey state := by
  intro hkey
  simp only [PriorityRequestEntry.seqKey, SignalRequest.seqKey, List.cons.injEq] at hkey
  have hstatus := hkey.2.1
  have htwo : 2 ≤ e.effectiveStatus.toByte.toNat := by
    revert h
    cases e.effectiveStatus <;> decide
  split at hstatus <;> omega

/-- **What decides a package besides its key.** -/
theorem package_eq_iff {r r' : Reported} (hr : r.InUse) (hr' : r'.InUse) (hkey : r.key = r'.key) :
    r.package = r'.package ↔ r.unkeyed = r'.unkeyed := by
  cases r with
  | row e =>
      cases r' with
      | row e' => exact package_eq_iff_of_rows hkey
      | request state now arrival departure req =>
          exact absurd hkey (key_row_ne_request hr state req)
  | request state now arrival departure req =>
      cases r' with
      | row e => exact absurd hkey.symm (key_row_ne_request hr' state req)
      | request state' now' arrival' departure' req' => exact package_eq_iff_of_requests hkey

theorem map_package_eq_iff {rs rs' : List Reported} (hrs : ∀ r ∈ rs, r.InUse)
    (hrs' : ∀ r ∈ rs', r.InUse) (hkeys : rs.map key = rs'.map key) :
    rs.map package = rs'.map package ↔ rs.map unkeyed = rs'.map unkeyed := by
  induction rs generalizing rs' with
  | nil =>
      cases rs' with
      | nil => simp
      | cons r' rs' => simp at hkeys
  | cons r rs ih =>
      cases rs' with
      | nil => simp at hkeys
      | cons r' rs' =>
          simp only [List.map_cons, List.cons.injEq] at hkeys ⊢
          rw [package_eq_iff (hrs r List.mem_cons_self) (hrs' r' List.mem_cons_self) hkeys.1,
            ih (fun d hd => hrs d (List.mem_cons_of_mem _ hd))
              (fun d hd => hrs' d (List.mem_cons_of_mem _ hd)) hkeys.2]

end Reported

theorem Call.inUse_of_mem {c : Call} {g : Int × List Reported} (hg : g ∈ c.groups) {r : Reported}
    (hr : r ∈ g.2) : r.InUse := by
  cases c with
  | fromTable table max now =>
      obtain ⟨d, hd, rfl⟩ := List.mem_map.mp hg
      obtain ⟨e, he, rfl⟩ := List.mem_map.mp hr
      rw [addByIntersection_eq] at hd
      have hdue := (List.mem_filter.mp ((grouped_foldl _ _).mem d hd e he)).2
      simp only [PriorityRequestEntry.due, Bool.and_eq_true, decide_eq_true_eq] at hdue
      intro hidle
      unfold PriorityRequestEntry.effectiveStatus at hidle
      split at hidle
      · next hactive =>
        rw [hidle] at hactive
        cases hactive
      · exact hdue.1 hidle
  | fromRequestor state nowMs arrival departure =>
      obtain ⟨d, hd, rfl⟩ := List.mem_map.mp hg
      obtain ⟨req, hreq, rfl⟩ := List.mem_map.mp hr
      trivial

/-- The sequencing state, and the status last broadcast for each intersection: as the receivers have
it, and what it was made from. -/
structure SsmChannel where
  ssmState : SsmBroadcastState := {}
  lastStatus : Int → Option SignalStatus := fun _ => none
  lastReported : Int → Option (List Reported) := fun _ => none

namespace SsmChannel

def call (ch : SsmChannel) (c : Call) : SsmChannel where
  ssmState := (c.build ch.ssmState).1
  lastStatus intID :=
    ((c.build ch.ssmState).2.bind fun msg => msg.status.find? (·.id = intID)).or
      (ch.lastStatus intID)
  lastReported intID :=
    ((c.groups.find? (·.1 = intID)).map Prod.snd).or (ch.lastReported intID)

/-- The channel after a series of calls. -/
def after (calls : List Call) : SsmChannel := calls.foldl call {}

/-- A status with the sequence number of the last one for its intersection has the same packages. -/
def NumberTells (ch : SsmChannel) (c : Call) : Prop :=
  ∀ msg, (c.build ch.ssmState).2 = some msg → ∀ status ∈ msg.status, ∀ prev,
    ch.lastStatus status.id = some prev → prev.sequenceNumber = status.sequenceNumber →
      prev.sigStatus = status.sigStatus

/-- Where the key of an intersection is that of its last status, so is what the key leaves out. -/
def KeyTells (ch : SsmChannel) (c : Call) : Prop :=
  ∀ g ∈ c.groups, ∀ prev, ch.lastReported g.1 = some prev →
    prev.map Reported.key = g.2.map Reported.key →
      prev.map Reported.unkeyed = g.2.map Reported.unkeyed

/-- The last status of an intersection is the one its key and number belong to. -/
structure Linked (ch : SsmChannel) : Prop where
  silent : ∀ intID, ch.lastReported intID = none → ch.lastStatus intID = none
  spoken : ∀ intID rs, ch.lastReported intID = some rs →
    (∀ r ∈ rs, r.InUse) ∧
    ch.lastStatus intID =
      some ⟨intID, ch.ssmState.signalStatusSeq intID, rs.map Reported.package⟩ ∧
    ch.ssmState.lastSignalStatusKey.lookup intID = some (rs.map Reported.key)

theorem linked_init : Linked {} := ⟨fun _ _ => rfl, fun _ _ h => by cases h⟩

/-- The status of an intersection in the message of a call, if it has one. -/
theorem find_status (c : Call) (st : SsmBroadcastState) (intID : Int) :
    ((c.build st).2.bind fun msg => msg.status.find? (·.id = intID)) =
      (c.groups.find? (·.1 = intID)).map fun g =>
        ⟨g.1, st.seqAfter g.1 (g.2.map Reported.key), g.2.map Reported.package⟩ := by
  by_cases hne : c.groups = []
  · have hnone : (c.build st).2 = none := by rw [build_eq, hne]; rfl
    rw [hnone, hne]
    rfl
  · obtain ⟨msg, hmsg⟩ := Call.exists_message st hne
    rw [hmsg, Option.bind_some, (Call.message_of_build hmsg).2.2.2, List.find?_map]
    rfl

theorem Linked.call {ch : SsmChannel} (h : Linked ch) (c : Call) : Linked (ch.call c) := by
  refine ⟨fun intID hnone => ?_, fun intID rs hrs => ?_⟩
  · simp only [SsmChannel.call, Option.or_eq_none_iff, Option.map_eq_none_iff] at hnone
    simp only [SsmChannel.call, find_status, hnone.1, Option.map_none, Option.none_or]
    exact h.silent intID hnone.2
  · cases hfind : c.groups.find? (·.1 = intID) with
    | none =>
        have hother : ∀ g ∈ c.groups, g.1 ≠ intID := by
          simpa [List.find?_eq_none] using hfind
        simp only [SsmChannel.call, hfind, Option.map_none, Option.none_or] at hrs
        simp only [SsmChannel.call, find_status, hfind, Option.map_none, Option.none_or,
          Call.state_of_not_mem hother]
        exact h.spoken intID rs hrs
    | some g =>
        have hg : g ∈ c.groups := List.mem_of_find?_eq_some hfind
        obtain rfl : g.1 = intID := by simpa using List.find?_some hfind
        simp only [SsmChannel.call, hfind, Option.map_some, Option.some_or,
          Option.some.injEq] at hrs
        subst hrs
        simp only [SsmChannel.call, find_status, hfind, Option.map_some, Option.some_or,
          Call.state_of_mem hg]
        exact ⟨fun r hr => Call.inUse_of_mem hg hr, trivial, trivial⟩

theorem linked_after (calls : List Call) : Linked (after calls) :=
  List.foldlRecOn (motive := Linked) calls _ linked_init fun _ h c _ => h.call c

/-- The number of an intersection stands still exactly when its key does. -/
theorem seqAfter_eq_iff (st : SsmBroadcastState) (intID : Int) (key : List (List Int)) :
    st.signalStatusSeq intID = st.seqAfter intID key ↔
      st.lastSignalStatusKey.lookup intID = some key := by
  unfold SsmBroadcastState.seqAfter
  split
  · next h => simp [h]
  · next h =>
    simp only [h, iff_false]
    intro heq
    have hnat := congrArg UInt8.toNat heq
    have hlt := (st.signalStatusSeq intID).toNat_lt
    simp only [UInt8.toNat_add, UInt8.reduceToNat] at hnat
    omega

/-- One call: the number tells as much as the key does. -/
theorem numberTells_iff {ch : SsmChannel} (h : Linked ch) (c : Call) :
    ch.NumberTells c ↔ ch.KeyTells c := by
  constructor
  · intro hnumber g hg prev hprev hkeys
    obtain ⟨huse, hstatus, hkey⟩ := h.spoken g.1 prev hprev
    obtain ⟨msg, hmsg⟩ := Call.exists_message ch.ssmState (List.ne_nil_of_mem hg)
    have hmem := (Call.message_of_build hmsg).2.2.2 ▸ List.mem_map_of_mem hg
    have hseq := (seqAfter_eq_iff ch.ssmState g.1 (g.2.map Reported.key)).mpr (hkeys ▸ hkey)
    have hpkgs := hnumber msg hmsg _ hmem _ hstatus hseq
    exact (Reported.map_package_eq_iff huse (fun r hr => Call.inUse_of_mem hg hr) hkeys).mp hpkgs
  · intro hkeyTells msg hmsg status hmem prevStatus hprevStatus hseq
    rw [(Call.message_of_build hmsg).2.2.2] at hmem
    obtain ⟨g, hg, rfl⟩ := List.mem_map.mp hmem
    cases hlast : ch.lastReported g.1 with
    | none =>
        rw [h.silent g.1 hlast] at hprevStatus
        cases hprevStatus
    | some prev =>
        obtain ⟨huse, hstatus, hkey⟩ := h.spoken g.1 prev hlast
        rw [hstatus] at hprevStatus
        cases hprevStatus
        have hlookup := (seqAfter_eq_iff ch.ssmState g.1 (g.2.map Reported.key)).mp hseq
        have hkeys : prev.map Reported.key = g.2.map Reported.key :=
          Option.some.inj (hkey.symm.trans hlookup)
        exact (Reported.map_package_eq_iff huse (fun r hr => Call.inUse_of_mem hg hr) hkeys).mpr
          (hkeyTells g hg prev hlast hkeys)

/-- **A sequence number that stands still means an unchanged status, in every message of a run,
exactly when in every call an unchanged key means that what the key leaves out is unchanged.** -/
theorem ssm_number_tells_iff (calls : List Call) :
    (∀ (n : Nat) (c : Call), calls[n]? = some c → (after (calls.take n)).NumberTells c) ↔
    ∀ (n : Nat) (c : Call), calls[n]? = some c → (after (calls.take n)).KeyTells c := by
  constructor
  · intro h n c hc
    exact (numberTells_iff (linked_after _) c).mp (h n c hc)
  · intro h n c hc
    exact (numberTells_iff (linked_after _) c).mpr (h n c hc)

/-- An answer to a request without a second: its ETA is estimated from the time of the call. -/
def estimated (nowMs : UInt64) : Call :=
  .fromRequestor
    { vehicleID := [1, 2, 3, 4], classType := 1, sequenceNumber := 5, timeOfRequest := 0
      requests := [{ requestID := 1, intersectionID := 7, requestType := .priorityRequest
                     timeOfService := 5, timeOfDepart := 15, inboundPresent := 1, inboundValue := 3
                     etaMinute := 1000, duration := 10000 }] }
    nowMs 4 3

/-- The answer broadcast twice, a second apart: the ETA moves and the number stands still. -/
theorem ssm_number_stands_still : ¬ ∀ (calls : List Call) (n : Nat) (c : Call),
    calls[n]? = some c → (after (calls.take n)).NumberTells c := by
  intro h
  have hkey := (numberTells_iff (linked_after _) _).mp
    (h [estimated 1735689570000, estimated 1735689571000] 1 _ rfl)
  have hsame := hkey _ List.mem_cons_self _ rfl (by decide +kernel)
  revert hsame
  decide +kernel

end SsmChannel

end V2XHub.Priority
