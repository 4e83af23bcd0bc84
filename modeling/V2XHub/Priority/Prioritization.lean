import V2XHub.Priority.Processor

/-!
# What prioritization decides

`runPrioritizationProcessing` first applies the expiry rules to every row. Then, while the
controller serves a request, it decides whether that request has to give way; otherwise it arranges
the rows by priority.

**Main results**

* `overrideDecided_iff`: the override decision is right exactly when the first queued row speaks for
  all of them. The search for a queued request of higher priority ends at the first queued request.
* `prioritizedBy_expiryRule`: the arrangement of the rows, for every table the controller serves no
  request of.
-/

namespace V2XHub.Priority

open RequestStatus

/-! ## The expiry rules -/

namespace PriorityRequestEntry

/-- A ready or closed request whose time to live is over. -/
def TimedOut (now : UInt32) (entry : PriorityRequestEntry) : Prop :=
  (entry.statusInPRS.isReadyX || entry.statusInPRS.isClosedX) = true ∧
    0 < entry.timeToLive ∧ entry.timeToLive ≤ now

/-- Not closed, with the desired service time after the time to live. -/
def WantedTooLate (entry : PriorityRequestEntry) : Prop :=
  entry.statusInPRS.isClosedX = false ∧ entry.timeToLive < entry.timeOfServiceDesiredInPRS

/-- A request with a time to live, 0 standing for none, that is wanted too late. -/
def RequestTooLate (entry : PriorityRequestEntry) : Prop :=
  entry.statusInPRS ≠ idleNotValid ∧ 0 < entry.timeToLive ∧ entry.WantedTooLate

instance (now : UInt32) (entry : PriorityRequestEntry) : Decidable (entry.TimedOut now) :=
  inferInstanceAs (Decidable (_ ∧ _))

instance : DecidablePred WantedTooLate := fun entry =>
  inferInstanceAs (Decidable (entry.statusInPRS.isClosedX = false ∧ _))

instance : DecidablePred RequestTooLate := fun entry =>
  inferInstanceAs (Decidable (entry.statusInPRS ≠ idleNotValid ∧ _))

/-- The expiry rules, given which rows are relabelled: a request that timed out is replaced by the
default entry, any other row that is relabelled is closed, the rest stay. -/
def expiryRule (relabelled : PriorityRequestEntry → Prop) [DecidablePred relabelled]
    (now : UInt32) (entry : PriorityRequestEntry) : PriorityRequestEntry :=
  if entry.TimedOut now then {}
  else if relabelled entry then { entry with statusInPRS := closedTimeToLiveError }
  else entry

/-- The code's two tests, in the code's order, are the expiry rules. -/
theorem expire_eq_expiryRule (now : UInt32) (entry : PriorityRequestEntry) :
    entry.expire now = entry.expiryRule RequestTooLate now := by
  unfold expire expiryRule
  by_cases hidle : entry.statusInPRS = idleNotValid
  · have htimed : ¬ entry.TimedOut now := by
      rintro ⟨hstatus, -⟩
      rw [hidle] at hstatus
      cases hstatus
    have hlate : ¬ entry.RequestTooLate := fun h => h.1 hidle
    rw [if_pos hidle, if_neg htimed, if_neg hlate]
  · rw [if_neg hidle]
    simp [TimedOut, RequestTooLate, WantedTooLate, hidle, and_assoc, and_left_comm]

/-- No expiry rule touches what the CO says, but for the requests that timed out. -/
theorem statusInCO_expire (now : UInt32) (entry : PriorityRequestEntry) :
    (entry.expire now).statusInCO =
      if entry.TimedOut now then idleNotValid else entry.statusInCO := by
  rw [expire_eq_expiryRule, expiryRule]
  split_ifs <;> rfl

theorem active_of_active_expire {now : UInt32} {entry : PriorityRequestEntry}
    (h : (entry.expire now).statusInCO.isActiveX = true) : entry.statusInCO.isActiveX = true := by
  rw [statusInCO_expire] at h
  split_ifs at h
  · cases h
  · exact h

end PriorityRequestEntry

/-! ## The override decision -/

namespace PriorityTable

/-- The first row the CO is serving. -/
def firstActive (t : PriorityTable) : Option Nat :=
  t.rows.findIdx? fun entry => entry.statusInCO.isActiveX

/-- The rows other than row `i`. -/
def others (t : PriorityTable) (i : Nat) : List PriorityRequestEntry :=
  t.rows.eraseIdx i

/-- Another row holds a queued request of higher priority than row `i`. -/
def Outranked (t : PriorityTable) (i : Nat) : Prop :=
  ∃ other ∈ t.others i, other.statusInPRS = readyQueued ∧
    other.outranks (t.rows.getD i {}) = true

/-- Row `i` is asked to give way exactly when it is outranked. -/
def OverrideDecided (t : PriorityTable) (i : Nat) : Prop :=
  (t.rows.getD i {}).statusInPRS = activeOverride ↔ Outranked t i

/-- If any queued request outranks row `i`, the first one in row order does. -/
def FirstQueuedSpeaks (t : PriorityTable) (i : Nat) : Prop :=
  Outranked t i →
    ∃ first, (t.others i).find? (fun entry => entry.statusInPRS = readyQueued) = some first ∧
      first.outranks (t.rows.getD i {}) = true

instance (t : PriorityTable) (i : Nat) : Decidable (Outranked t i) :=
  inferInstanceAs (Decidable (∃ other ∈ _, _))

instance (t : PriorityTable) (i : Nat) : Decidable (OverrideDecided t i) :=
  inferInstanceAs (Decidable (_ ↔ _))

theorem others_modify (t : PriorityTable) (i : Nat)
    (f : PriorityRequestEntry → PriorityRequestEntry) : (t.modify i f).others i = t.others i :=
  List.eraseIdx_modify_of_eq f i t.rows

/-- The status of a row has no part in whether it is outranked. -/
theorem overrideDecided_modify {t : PriorityTable} {i : Nat} (hi : i < t.rows.length)
    (status : RequestStatus) :
    OverrideDecided (t.modify i fun entry => { entry with statusInPRS := status }) i ↔
      (status = activeOverride ↔ Outranked t i) := by
  have hget : (t.modify i fun entry => { entry with statusInPRS := status }).rows.getD i {} =
      { t.rows.getD i {} with statusInPRS := status } := by
    simp [List.getD_eq_getElem?_getD, List.getElem?_eq_getElem hi]
  unfold OverrideDecided Outranked
  rw [others_modify, hget]
  exact Iff.rfl

/-- What the search of `checkForOverride` finds. -/
def higherPriorityQueued (t : PriorityTable) (active : Nat) : Bool :=
  match (t.others active).find? fun entry => entry.statusInPRS = readyQueued with
  | some entry => entry.outranks (t.rows.getD active {})
  | none => false

theorem checkForOverride_of_firstActive {t : PriorityTable} {i : Nat}
    (h : t.firstActive = some i) :
    t.checkForOverride =
      if t.higherPriorityQueued i then
        t.modify i fun entry => { entry with statusInPRS := activeOverride }
      else if (t.rows.getD i {}).statusInPRS = activeOverride then
        t.modify i fun entry => { entry with statusInPRS := readyQueued }
      else t := by
  unfold checkForOverride
  rw [show (t.rows.findIdx? fun entry => entry.statusInCO.isActiveX) = some i from h]
  rfl

theorem higherPriorityQueued_iff {t : PriorityTable} {i : Nat} :
    t.higherPriorityQueued i = true ↔
      ∃ first, (t.others i).find? (fun entry => entry.statusInPRS = readyQueued) = some first ∧
        first.outranks (t.rows.getD i {}) = true := by
  unfold higherPriorityQueued
  split
  next first hfirst =>
    constructor
    · intro houtranks
      exact ⟨first, hfirst, houtranks⟩
    · rintro ⟨first', hfirst', houtranks⟩
      rw [hfirst] at hfirst'
      cases hfirst'
      exact houtranks
  next hnone =>
    rw [hnone]
    simp

/-- What the search finds is a queued request of higher priority. -/
theorem outranked_of_higherPriorityQueued {t : PriorityTable} {i : Nat}
    (h : t.higherPriorityQueued i = true) : Outranked t i := by
  obtain ⟨first, hfirst, houtranks⟩ := higherPriorityQueued_iff.mp h
  refine ⟨first, List.mem_of_find?_eq_some hfirst, ?_, houtranks⟩
  simpa using List.find?_some hfirst

theorem firstQueuedSpeaks_iff {t : PriorityTable} {i : Nat} :
    FirstQueuedSpeaks t i ↔ (t.higherPriorityQueued i = true ↔ Outranked t i) := by
  unfold FirstQueuedSpeaks
  rw [← higherPriorityQueued_iff]
  exact ⟨fun h => ⟨outranked_of_higherPriorityQueued, h⟩, fun h => h.mpr⟩

/-- The status that `checkForOverride` leaves the first row the CO is serving with answers the
search, whatever it was before. -/
theorem overrideDecided_checkForOverride {t : PriorityTable} {i : Nat}
    (h : t.firstActive = some i) :
    OverrideDecided t.checkForOverride i ↔ (t.higherPriorityQueued i = true ↔ Outranked t i) := by
  have hi : i < t.rows.length := (List.findIdx?_eq_some_iff_getElem.mp h).1
  rw [checkForOverride_of_firstActive h]
  split_ifs with hqueued hoverride
  · rw [overrideDecided_modify hi]
    simp [hqueued]
  · rw [overrideDecided_modify hi]
    simp [hqueued]
  · unfold OverrideDecided
    simp only [hqueued, hoverride, Bool.false_eq_true]

theorem hasActive_of_firstActive {t : PriorityTable} {i : Nat} (h : t.firstActive = some i) :
    t.hasActive = true := by
  obtain ⟨hi, hactive, -⟩ := List.findIdx?_eq_some_iff_getElem.mp h
  exact List.any_eq_true.mpr ⟨t.rows[i], List.getElem_mem hi, hactive⟩

/-- The first row the CO is serving is still the first after the expiry rules, unless its request
timed out. -/
theorem firstActive_expireStale {t : PriorityTable} {now : UInt32} {i : Nat}
    (h : t.firstActive = some i) (hkept : ¬ (t.rows.getD i {}).TimedOut now) :
    (t.expireStale now).firstActive = some i := by
  obtain ⟨hi, hactive, hfirst⟩ := List.findIdx?_eq_some_iff_getElem.mp h
  rw [List.getD_eq_getElem?_getD, List.getElem?_eq_getElem hi, Option.getD_some] at hkept
  show (t.rows.map (PriorityRequestEntry.expire now)).findIdx? _ = some i
  rw [List.findIdx?_map, List.findIdx?_eq_some_iff_getElem]
  refine ⟨hi, ?_, fun j hj hactive' => hfirst j hj ?_⟩
  · show (t.rows[i].expire now).statusInCO.isActiveX = true
    rw [PriorityRequestEntry.statusInCO_expire, if_neg hkept]
    exact hactive
  · exact PriorityRequestEntry.active_of_active_expire hactive'

/-- **The override decision**: the first row the CO is serving is asked to give way when, and only
when, it is outranked, exactly if the first queued request speaks for all. -/
theorem overrideDecided_iff (t : PriorityTable) (now : UInt32) {i : Nat}
    (h : (t.expireStale now).firstActive = some i) :
    OverrideDecided (t.runPrioritizationProcessing now) i ↔
      FirstQueuedSpeaks (t.expireStale now) i := by
  have hrun : t.runPrioritizationProcessing now = (t.expireStale now).checkForOverride :=
    if_pos (hasActive_of_firstActive h)
  rw [hrun, overrideDecided_checkForOverride h, firstQueuedSpeaks_iff]

/-! ### A request the search does not reach

The controller serves a request of class type 5. A request of type 7 is queued in front of one of
type 2. -/

/-- A row with a request of class type `classType`. -/
def classRow (classType : UInt8) (coStatus : RequestStatus) : PriorityRequestEntry where
  vehicleClassType := classType
  statusInPRS := readyQueued
  statusInCO := coStatus

/-- Rows at the head of a table, the others idle. -/
def ofRows (rows : List PriorityRequestEntry) (h : rows.length ≤ maxServiceRequests) :
    PriorityTable where
  rows := rows ++ List.replicate (maxServiceRequests - rows.length) {}
  length_rows := by
    rw [List.length_append, List.length_replicate]
    omega

def hiddenRequest : PriorityTable :=
  ofRows [classRow 5 activeProcessing, classRow 7 idleNotValid, classRow 2 idleNotValid]
    (Nat.le_of_ble_eq_true rfl)

/-- With the request of type 2 first, the decision is right. -/
def visibleRequest : PriorityTable :=
  ofRows [classRow 5 activeProcessing, classRow 2 idleNotValid, classRow 7 idleNotValid]
    (Nat.le_of_ble_eq_true rfl)

theorem overrideDecided_visibleRequest :
    (visibleRequest.expireStale 100).firstActive = some 0 ∧
      OverrideDecided (visibleRequest.runPrioritizationProcessing 100) 0 :=
  have hfirst : (visibleRequest.expireStale 100).firstActive = some 0 :=
    firstActive_expireStale (by decide) (by decide)
  have hspeaks : FirstQueuedSpeaks (visibleRequest.expireStale 100) 0 :=
    fun _ => ⟨classRow 2 idleNotValid, by decide, by decide⟩
  ⟨hfirst, (overrideDecided_iff visibleRequest 100 hfirst).mpr hspeaks⟩

theorem not_overrideDecided_hiddenRequest :
    (hiddenRequest.expireStale 100).firstActive = some 0 ∧
      ¬ OverrideDecided (hiddenRequest.runPrioritizationProcessing 100) 0 := by
  decide

end PriorityTable

/-! ## The arrangement of the rows -/

namespace PriorityRequestEntry

/-- Priority order: class type, then class level, then desired service time. -/
def InOrder (a b : PriorityRequestEntry) : Prop :=
  a.vehicleClassType < b.vehicleClassType ∨ a.vehicleClassType = b.vehicleClassType ∧
    (a.vehicleClassLevel < b.vehicleClassLevel ∨ a.vehicleClassLevel = b.vehicleClassLevel ∧
      a.timeOfServiceDesiredInPRS ≤ b.timeOfServiceDesiredInPRS)

theorem not_sortsBefore_iff {a b : PriorityRequestEntry} :
    ¬ b.sortsBefore a = true ↔ a.InOrder b := by
  unfold sortsBefore InOrder
  grind

theorem InOrder.total (a b : PriorityRequestEntry) : a.InOrder b ∨ b.InOrder a := by
  unfold InOrder
  grind

theorem InOrder.trans {a b c : PriorityRequestEntry} (hab : a.InOrder b) (hbc : b.InOrder c) :
    a.InOrder c := by
  unfold InOrder at *
  grind

end PriorityRequestEntry

namespace PriorityTable

/-- The rows with a given kind of status, in order. -/
def rowsWith (rows : List PriorityRequestEntry) (p : RequestStatus → Bool) :
    List PriorityRequestEntry :=
  rows.filter fun entry => p entry.statusInPRS

/-- The rows after some expiry rule, arranged by priority: the queued requests sorted, then the
overridden ones, the other requests and the idle rows, these three as they stood. -/
structure PrioritizedBy (rule : PriorityRequestEntry → PriorityRequestEntry)
    (before after : List PriorityRequestEntry) : Prop where
  perm : after.Perm (before.map rule)
  arranged : ∃ queued : List PriorityRequestEntry,
    queued.Perm (rowsWith (before.map rule) fun s => s = readyQueued) ∧
      queued.Pairwise PriorityRequestEntry.InOrder ∧
      after = queued ++ rowsWith (before.map rule) (fun s => s = readyOverridden) ++
        rowsWith (before.map rule)
          (fun s => s ≠ readyQueued && s ≠ readyOverridden && s ≠ idleNotValid) ++
        rowsWith (before.map rule) fun s => s = idleNotValid

/-- Copying the rows of one kind by their indices picks the rows of that kind. -/
theorem map_indices (t : PriorityTable) (p : RequestStatus → Bool) :
    (t.indices p).map (fun i => t.rows.getD i {}) = rowsWith t.rows p := by
  have hfilter := List.filter_map (f := fun i => t.rows.getD i {})
    (p := fun entry => p entry.statusInPRS) (l := List.range maxServiceRequests)
  rw [map_range_getD] at hfilter
  exact hfilter.symm

/-- No row is dropped by the bound checks: the four groups have ten rows together. -/
theorem rows_reorder (t : PriorityTable) :
    t.reorder.rows = t.order.map fun i => t.rows.getD i {} := by
  have hlen : t.order.length = maxServiceRequests := by
    rw [t.perm_order.length_eq, List.length_range]
  simp [reorder, List.take_of_length_le hlen.le, hlen]

/-- Sorting the indices of the queued rows by the rows' priority sorts the rows. -/
theorem pairwise_queued (t : PriorityTable) (is : List Nat) :
    ((is.insertionSort fun i j => ¬ (t.rows.getD j {}).sortsBefore (t.rows.getD i {})).map
      fun i => t.rows.getD i {}).Pairwise PriorityRequestEntry.InOrder := by
  have htotal : Std.Total fun i j : Nat =>
      ¬ (t.rows.getD j {}).sortsBefore (t.rows.getD i {}) = true :=
    ⟨fun i j => by
      rw [PriorityRequestEntry.not_sortsBefore_iff, PriorityRequestEntry.not_sortsBefore_iff]
      exact PriorityRequestEntry.InOrder.total _ _⟩
  have htrans : IsTrans Nat fun i j =>
      ¬ (t.rows.getD j {}).sortsBefore (t.rows.getD i {}) = true :=
    ⟨fun i j k => by
      simp only [PriorityRequestEntry.not_sortsBefore_iff]
      exact PriorityRequestEntry.InOrder.trans⟩
  rw [List.pairwise_map]
  refine (List.pairwise_insertionSort _ is).imp ?_
  intro i j hij
  exact PriorityRequestEntry.not_sortsBefore_iff.mp hij

/-- **Reordering arranges the rows by priority.** -/
theorem prioritizedBy_reorder (t : PriorityTable) {rule} {before : PriorityTable}
    (h : t.rows = before.rows.map rule) : PrioritizedBy rule before.rows t.reorder.rows where
  perm := h ▸ t.perm_reorder
  arranged := by
    rw [← h]
    refine ⟨_, ?_, t.pairwise_queued (t.indices fun s => s = readyQueued), ?_⟩
    · rw [← map_indices]
      exact (List.perm_insertionSort _ _).map _
    · rw [rows_reorder]
      simp only [order, List.map_append, map_indices]

/-- No expiry rule makes the controller serve a row. -/
theorem hasActive_expireStale {t : PriorityTable} (now : UInt32) (h : t.hasActive = false) :
    (t.expireStale now).hasActive = false := by
  simp only [hasActive, expireStale, rows_map, List.any_map, List.any_eq_false] at h ⊢
  intro entry hentry hactive
  exact h entry hentry (PriorityRequestEntry.active_of_active_expire hactive)

/-- **Prioritization order**: when the CO serves no row, the rows after the expiry rules are
arranged by priority. -/
theorem prioritizedBy_expiryRule (t : PriorityTable) (now : UInt32) (h : t.hasActive = false) :
    PrioritizedBy (PriorityRequestEntry.expiryRule PriorityRequestEntry.RequestTooLate now) t.rows
      (t.runPrioritizationProcessing now).rows := by
  have hrun : t.runPrioritizationProcessing now = (t.expireStale now).reorder :=
    if_neg (Bool.not_eq_true _ ▸ hasActive_expireStale now h)
  rw [hrun]
  refine prioritizedBy_reorder (t.expireStale now) ?_
  show t.rows.map (PriorityRequestEntry.expire now) = _
  rw [funext (PriorityRequestEntry.expire_eq_expiryRule now)]

/-- Queued requests out of order, an overridden one, one whose time to live is over, one that is
wanted too late and one that was refused. -/
def mixedRequests : PriorityTable :=
  ofRows
    [{ requestID := 1, vehicleClassType := 7, statusInPRS := readyQueued },
      { requestID := 2, vehicleClassType := 1, statusInPRS := readyOverridden },
      { requestID := 3, vehicleClassType := 2, vehicleClassLevel := 3, statusInPRS := readyQueued },
      { requestID := 4, vehicleClassType := 2, timeOfServiceDesiredInPRS := 20,
        statusInPRS := readyQueued },
      { requestID := 5, vehicleClassType := 1, timeToLive := 90, statusInPRS := readyQueued },
      { requestID := 6, vehicleClassType := 1, timeOfServiceDesiredInPRS := 500, timeToLive := 300,
        statusInPRS := readyQueued },
      { requestID := 7, vehicleClassType := 2, timeOfServiceDesiredInPRS := 10,
        statusInPRS := readyQueued },
      { requestID := 8, vehicleClassType := 1, statusInPRS := reserviceError }]
    (Nat.le_of_ble_eq_true rfl)

theorem prioritizedBy_mixedRequests :
    PrioritizedBy (PriorityRequestEntry.expiryRule PriorityRequestEntry.RequestTooLate 100)
        mixedRequests.rows (mixedRequests.runPrioritizationProcessing 100).rows ∧
      (mixedRequests.runPrioritizationProcessing 100).rows.map
          (fun entry => (entry.requestID, entry.statusInPRS)) =
        [(7, readyQueued), (4, readyQueued), (3, readyQueued), (1, readyQueued),
          (2, readyOverridden), (6, closedTimeToLiveError), (8, reserviceError),
          (0, idleNotValid), (0, idleNotValid), (0, idleNotValid)] :=
  ⟨prioritizedBy_expiryRule mixedRequests 100 (by decide), by decide +kernel⟩

/-! ### A request without a time to live

A refused request keeps its row. With a time to live of 0 the row is left as it is, however late it
asks for service. -/

def lifelessRequest : PriorityTable :=
  ofRows [{ statusInPRS := reserviceError, timeOfServiceDesiredInPRS := 5 }]
    (Nat.le_of_ble_eq_true rfl)

/-- Relabelling every row that is wanted too late gives another table. -/
theorem not_prioritizedBy_lifelessRequest :
    lifelessRequest.hasActive = false ∧
      ¬ PrioritizedBy (PriorityRequestEntry.expiryRule PriorityRequestEntry.WantedTooLate 100)
        lifelessRequest.rows (lifelessRequest.runPrioritizationProcessing 100).rows := by
  refine ⟨by decide, fun h => ?_⟩
  have hstays : { statusInPRS := reserviceError, timeOfServiceDesiredInPRS := 5 } ∈
      (lifelessRequest.runPrioritizationProcessing 100).rows := by decide
  exact absurd (h.perm.mem_iff.mp hstays) (by decide)

end PriorityTable

end V2XHub.Priority
