import V2XHub.Priority.HandleSrm

/-!
# Which SRMs are dropped

An SRM is dropped when its number is the one last taken from its vehicle. Whether that makes it a
duplicate depends on what the number says: a missing one is read as 0, and says nothing.

The runs of this module are those of one plugin in either role. Between two SRMs anything else may
change, except the role and the two maps only the handler writes.
-/

namespace V2XHub.Priority

open Lib

/-! ## What the handler does to the numbers -/

namespace PriorityPlugin

variable (s : PriorityPlugin) {srm : SignalRequestMessage} (world : SrmWorld)

theorem handleSRM_of_empty (h : srm.requests.isEmpty = true) :
    s.handleSRM srm world = (s, .skipped) := if_pos h

/-- An SRM with packages is dropped when its number is the last one, and taken otherwise. -/
theorem handleSRM_outcome (h : srm.requests.isEmpty = false) :
    if s.lastSeq srm.vehicleKey = some srm.newSeq then (s.handleSRM srm world).2 = .discarded
    else ∃ ssms, (s.handleSRM srm world).2 = .processed ssms := by
  have hsome : ¬ srm.requests.isEmpty = true := by rw [h]; exact Bool.false_ne_true
  unfold handleSRM lastSeq
  rw [if_neg hsome]
  cases s.pluginRole with
  | PRS =>
      simp only [handlePrsSRM]
      split_ifs
      · rfl
      · exact ⟨[], rfl⟩
  | PRG =>
      simp only [handlePrgSRM]
      split_ifs
      · rfl
      · exact ⟨_, rfl⟩

theorem pluginRole_handleSRM : (s.handleSRM srm world).1.pluginRole = s.pluginRole := by
  unfold handleSRM
  split_ifs
  · rfl
  · cases hrole : s.pluginRole with
    | PRS => exact hrole
    | PRG =>
        simp only [handlePrgSRM]
        split_ifs <;> exact hrole

/-- Dropped or taken, the number of the SRM is the vehicle's last one afterwards; the numbers of the
other vehicles stay. -/
theorem lastSeq_handleSRM (h : srm.requests.isEmpty = false) (key : List UInt8) :
    (s.handleSRM srm world).1.lastSeq key =
      if srm.vehicleKey = key then some srm.newSeq else s.lastSeq key := by
  have hsome : ¬ srm.requests.isEmpty = true := by rw [h]; exact Bool.false_ne_true
  unfold lastSeq
  rw [pluginRole_handleSRM]
  unfold handleSRM
  rw [if_neg hsome]
  cases s.pluginRole with
  | PRS =>
      simp only [handlePrsSRM, handleSrm, h, Bool.false_eq_true, if_false]
      split_ifs with hseen hkey hkey
      · rwa [← hkey]
      · rfl
      · rw [← hkey, AList.lookup_insert]
      · rw [AList.lookup_insert_ne (Ne.symm hkey)]
  | PRG =>
      simp only [handlePrgSRM]
      split_ifs with hseen hkey hkey
      · rwa [← hkey]
      · rfl
      · rw [← hkey, AList.lookup_insert, Option.map_some]
      · rw [AList.lookup_insert_ne (Ne.symm hkey)]

end PriorityPlugin

/-! ## Histories -/

/-- An SRM with packages that the handler was given, and whether it dropped it. -/
structure SrmRecord where
  srm : SignalRequestMessage
  discarded : Bool
  deriving DecidableEq, Repr

/-- The SRMs of a run, newest first. -/
abbrev SrmHistory := List SrmRecord

namespace SrmHistory

def lastReceived (key : List UInt8) (history : SrmHistory) : Option SrmRecord :=
  history.find? fun r => r.srm.vehicleKey = key

def lastProcessed (key : List UInt8) (history : SrmHistory) : Option SrmRecord :=
  history.find? fun r => r.srm.vehicleKey = key && !r.discarded

/-- Every SRM that was dropped has an explicit number, and it is the explicit number of the SRM last
taken from its vehicle. -/
def DiscardsJustified : SrmHistory → Prop
  | [] => True
  | r :: history =>
      (r.discarded = true → ∃ (n : Int) (p : SrmRecord), r.srm.sequenceNumber = some n ∧
        lastProcessed r.srm.vehicleKey history = some p ∧ p.srm.sequenceNumber = some n) ∧
      DiscardsJustified history

/-- Whenever two SRMs that follow each other from one vehicle have the same byte for a number, both
have the same explicit number. -/
def NumbersTell : SrmHistory → Prop
  | [] => True
  | r :: history =>
      (∀ p, lastReceived r.srm.vehicleKey history = some p → p.srm.newSeq = r.srm.newSeq →
        ∃ n : Int, r.srm.sequenceNumber = some n ∧ p.srm.sequenceNumber = some n) ∧
      NumbersTell history

/-- The handler dropped the SRMs whose byte is that of the SRM before from the vehicle. -/
def ByNumber : SrmHistory → Prop
  | [] => True
  | r :: history =>
      (r.discarded = true ↔
        (lastReceived r.srm.vehicleKey history).map (·.srm.newSeq) = some r.srm.newSeq) ∧
      ByNumber history

/-- The SRM last taken and the SRM last received from a vehicle have the same number, or both
none. -/
def Agree (history : SrmHistory) : Prop :=
  ∀ key, (lastProcessed key history).map (·.srm.sequenceNumber) =
    (lastReceived key history).map (·.srm.sequenceNumber)

theorem lastReceived_cons (key : List UInt8) (r : SrmRecord) (history : SrmHistory) :
    lastReceived key (r :: history) =
      if r.srm.vehicleKey = key then some r else lastReceived key history := by
  unfold lastReceived
  rw [List.find?_cons]
  by_cases hkey : r.srm.vehicleKey = key
  · rw [if_pos hkey, decide_eq_true hkey]
  · rw [if_neg hkey, decide_eq_false hkey]

theorem lastProcessed_cons (key : List UInt8) (r : SrmRecord) (history : SrmHistory) :
    lastProcessed key (r :: history) =
      if r.srm.vehicleKey = key ∧ r.discarded = false then some r
      else lastProcessed key history := by
  unfold lastProcessed
  rw [List.find?_cons]
  by_cases hkey : r.srm.vehicleKey = key
  · cases hdiscarded : r.discarded with
    | true => simp [hkey]
    | false => simp [hkey]
  · simp [hkey]

theorem Agree.cons {r : SrmRecord} {history : SrmHistory} (h : Agree history)
    (hr : r.discarded = true → ∃ (n : Int) (p : SrmRecord), r.srm.sequenceNumber = some n ∧
      lastProcessed r.srm.vehicleKey history = some p ∧ p.srm.sequenceNumber = some n) :
    Agree (r :: history) := by
  intro key
  rw [lastReceived_cons, lastProcessed_cons]
  by_cases hkey : r.srm.vehicleKey = key
  · cases hdiscarded : r.discarded with
    | true =>
        obtain ⟨n, p, hn, hp, hpn⟩ := hr hdiscarded
        rw [if_pos hkey, if_neg (fun hand => Bool.noConfusion hand.2), ← hkey, hp,
          Option.map_some, Option.map_some, hn, hpn]
    | false => rw [if_pos hkey, if_pos ⟨hkey, rfl⟩]
  · rw [if_neg hkey, if_neg (fun hand => hkey hand.1)]
    exact h key

/-- With numbers that tell, the number of the last SRM received is that of the last one taken. -/
theorem justified_iff_tell {history : SrmHistory} (hby : ByNumber history) :
    (DiscardsJustified history ↔ NumbersTell history) ∧
      (DiscardsJustified history → Agree history) := by
  induction history with
  | nil => exact ⟨Iff.rfl, fun _ _ => rfl⟩
  | cons r history ih =>
      obtain ⟨hflag, hby⟩ := hby
      obtain ⟨hiff, hagree⟩ := ih hby
      refine ⟨⟨fun ⟨hr, hrest⟩ => ⟨fun p hp hseq => ?_, hiff.mp hrest⟩,
        fun ⟨hr, hrest⟩ => ⟨fun hdiscarded => ?_, hiff.mpr hrest⟩⟩,
        fun ⟨hr, hrest⟩ => (hagree hrest).cons hr⟩
      · have hdiscarded : r.discarded = true := by
          rw [hflag, hp, Option.map_some, hseq]
        obtain ⟨n, p₀, hn, hp₀, hn₀⟩ := hr hdiscarded
        have hsame := hagree hrest r.srm.vehicleKey
        rw [hp₀, hp, Option.map_some, Option.map_some, hn₀] at hsame
        exact ⟨n, hn, (Option.some.inj hsame).symm⟩
      · obtain ⟨p, hp, hseq⟩ := Option.map_eq_some_iff.mp (hflag.mp hdiscarded)
        obtain ⟨n, hn, hpn⟩ := hr p hp hseq
        have hsame := hagree (hiff.mpr hrest) r.srm.vehicleKey
        rw [hp, Option.map_some, hpn] at hsame
        obtain ⟨p₀, hp₀, hn₀⟩ := Option.map_eq_some_iff.mp hsame
        exact ⟨n, p₀, hn, hp₀, hn₀⟩

end SrmHistory

/-! ## Runs -/

structure SrmRun where
  plugin : PriorityPlugin
  history : SrmHistory := []

/-- What is noted of an SRM; one without packages leaves no trace. -/
def SrmHistory.record (history : SrmHistory) (srm : SignalRequestMessage) :
    SrmOutcome → SrmHistory
  | .skipped => history
  | .discarded => ⟨srm, true⟩ :: history
  | .processed _ => ⟨srm, false⟩ :: history

inductive SrmLabel where
  | handleSRM (srm : SignalRequestMessage) (world : SrmWorld)
  | other

inductive SrmStep : SrmRun → SrmLabel → SrmRun → Prop
  | handleSRM {s : PriorityPlugin} {history : SrmHistory} {srm : SignalRequestMessage}
      {world : SrmWorld} :
      SrmStep ⟨s, history⟩ (.handleSRM srm world)
        ⟨(s.handleSRM srm world).1, history.record srm (s.handleSRM srm world).2⟩
  | other {s t : PriorityPlugin} {history : SrmHistory} (hrole : t.pluginRole = s.pluginRole)
      (hprs : t.prsLastSeqByVehicle = s.prsLastSeqByVehicle)
      (hprg : t.requestorStates = s.requestorStates) :
      SrmStep ⟨s, history⟩ .other ⟨t, history⟩

/-- The map has the number of the last SRM of every vehicle, and the SRMs were dropped by it. -/
structure NumbersKept (r : SrmRun) : Prop where
  lastSeq : ∀ key,
    r.plugin.lastSeq key = (r.history.lastReceived key).map (·.srm.newSeq)
  byNumber : r.history.ByNumber

theorem NumbersKept.step {r r' : SrmRun} {label : SrmLabel} (h : NumbersKept r)
    (hstep : SrmStep r label r') : NumbersKept r' := by
  cases hstep with
  | @handleSRM s history srm world =>
      cases hempty : srm.requests.isEmpty with
      | true =>
          rw [s.handleSRM_of_empty world hempty]
          exact h
      | false =>
          have hseq := s.lastSeq_handleSRM world hempty
          have houtcome := s.handleSRM_outcome world hempty
          rw [h.lastSeq] at houtcome
          split_ifs at houtcome with hseen
          · rw [houtcome]
            refine ⟨fun key => ?_, ⟨iff_of_true rfl hseen, h.byNumber⟩⟩
            show (s.handleSRM srm world).1.lastSeq key = _
            rw [hseq, h.lastSeq, SrmHistory.record, SrmHistory.lastReceived_cons]
            split_ifs <;> rfl
          · obtain ⟨ssms, houtcome⟩ := houtcome
            rw [houtcome]
            refine ⟨fun key => ?_, ⟨iff_of_false Bool.false_ne_true hseen, h.byNumber⟩⟩
            show (s.handleSRM srm world).1.lastSeq key = _
            rw [hseq, h.lastSeq, SrmHistory.record, SrmHistory.lastReceived_cons]
            split_ifs <;> rfl
  | @other s t history hrole hprs hprg =>
      refine ⟨fun key => ?_, h.byNumber⟩
      rw [← h.lastSeq key]
      show t.lastSeq key = s.lastSeq key
      unfold PriorityPlugin.lastSeq
      rw [hrole, hprs, hprg]

theorem NumbersKept.initial {s : PriorityPlugin} (hprs : s.prsLastSeqByVehicle = ∅)
    (hprg : s.requestorStates = ∅) : NumbersKept ⟨s, []⟩ where
  lastSeq key := by
    unfold PriorityPlugin.lastSeq
    simp only [hprs, hprg]
    cases s.pluginRole <;> rfl
  byNumber := trivial

/-- **Only duplicates are dropped, in every run of either role, exactly when the numbers tell**: no
SRM without a number comes next to one from the same vehicle that has none or has 0. -/
theorem discards_justified_iff {s : PriorityPlugin} {labels : List SrmLabel} {r : SrmRun}
    (hprs : s.prsLastSeqByVehicle = ∅) (hprg : s.requestorStates = ∅)
    (hrun : Run SrmStep ⟨s, []⟩ labels r) :
    r.history.DiscardsJustified ↔ r.history.NumbersTell := by
  have hkept : NumbersKept r :=
    hrun.invariant (fun _ _ _ h hstep => h.step hstep) (.initial hprs hprg)
  exact (SrmHistory.justified_iff_tell hkept.byNumber).1

/-! ## Two SRMs without a number -/

/-- An SRM of one package. -/
def numberedSrm (sequenceNumber : Option Int) (requestID : Int) : SignalRequestMessage where
  sequenceNumber := sequenceNumber
  requests :=
    [{ requestID := requestID, intersectionID := 9709, requestType := .priorityRequest,
       inBoundLane := .lane 1 }]
  requestorId := .entityID [0x11, 0x22, 0x33, 0x44]

/-- Two SRMs one after the other, in a fresh plugin. -/
def afterTwo (first second : SignalRequestMessage) : SrmRun :=
  let s₁ := PriorityPlugin.handleSRM {} first {}
  let s₂ := s₁.1.handleSRM second {}
  ⟨s₂.1, SrmHistory.record (SrmHistory.record [] first s₁.2) second s₂.2⟩

theorem run_afterTwo (first second : SignalRequestMessage) :
    Run SrmStep ⟨{}, []⟩ [.handleSRM first {}, .handleSRM second {}]
      (afterTwo first second) :=
  .cons .handleSRM (.cons .handleSRM .nil)

theorem discards_justified_iff_repeated :
    (afterTwo (numberedSrm (some 5) 1) (numberedSrm (some 5) 1)).history =
        [⟨numberedSrm (some 5) 1, true⟩, ⟨numberedSrm (some 5) 1, false⟩] ∧
      (afterTwo (numberedSrm (some 5) 1) (numberedSrm (some 5) 1)).history.DiscardsJustified := by
  have hhistory : (afterTwo (numberedSrm (some 5) 1) (numberedSrm (some 5) 1)).history =
      [⟨numberedSrm (some 5) 1, true⟩, ⟨numberedSrm (some 5) 1, false⟩] := by decide
  refine ⟨hhistory, (discards_justified_iff rfl rfl (run_afterTwo _ _)).mpr ?_⟩
  rw [hhistory]
  refine ⟨?_, ?_, trivial⟩
  · intro p hp _
    cases hp
    exact ⟨5, rfl, rfl⟩
  · intro p hp _
    cases hp

/-- A vehicle that numbers nothing asks for something else, and is not heard. -/
theorem numberless_discarded :
    ¬ ∀ (s : PriorityPlugin) (labels : List SrmLabel) (r : SrmRun),
      s.prsLastSeqByVehicle = ∅ → s.requestorStates = ∅ →
        Run SrmStep ⟨s, []⟩ labels r → r.history.DiscardsJustified := by
  intro h
  have hjustified := h _ _ _ rfl rfl (run_afterTwo (numberedSrm none 1) (numberedSrm none 2))
  have hhistory : (afterTwo (numberedSrm none 1) (numberedSrm none 2)).history =
      [⟨numberedSrm none 2, true⟩, ⟨numberedSrm none 1, false⟩] := by decide
  rw [hhistory] at hjustified
  obtain ⟨n, -, hnone, -⟩ := hjustified.1 rfl
  exact Option.some_ne_none n hnone.symm

end V2XHub.Priority
