import V2XHub.Lib.Run

/-!
# Broadcast-rate windows

SPaT and MAP messages are to be broadcast at least every so often. `MessageIntervalValidator`
compares the time of each message with that of the one before it, and gathers the violations into
windows: the first violation opens one, and the first message at or after its end closes it and
returns its counts.

The counts and times are machine integers, as in the source. A window whose end is beyond the
largest `uint64_t` ends before it starts, and a count that has reached the largest `uint32_t` starts
again at zero.
-/

namespace V2XHub.Validation

open V2XHub.Lib

structure IntervalCheck where
  intervalMs : UInt64 := 0
  violation : Bool := false
  deriving DecidableEq, Repr

/-- Throws on a step back in time. The error is the text of the `TmxException`. -/
def evaluateMessageInterval (lastTimestampMs currentTimestampMs thresholdMs : UInt64) :
    Except String IntervalCheck :=
  if lastTimestampMs = 0 then
    .ok {}
  else if currentTimestampMs < lastTimestampMs then
    .error ("Message timestamp " ++ toString currentTimestampMs ++
      " ms is earlier than the last received message timestamp " ++
      toString lastTimestampMs ++ " ms")
  else
    .ok
      { intervalMs := currentTimestampMs - lastTimestampMs
        violation := currentTimestampMs - lastTimestampMs > thresholdMs }

/-- The counts of a window, for one BroadcastRate event. -/
structure IntervalWindowResult where
  windowStartMs : UInt64 := 0
  windowEndMs : UInt64 := 0
  violationCount : UInt32 := 0
  messageCount : UInt32 := 0
  intersectionId : Int := -1
  intersectionIdMismatch : Bool := false
  deriving DecidableEq, Repr

structure MessageIntervalValidator where
  thresholdMs : UInt64
  lastTimestampMs : UInt64 := 0
  lastIntervalMs : UInt64 := 0
  windowOpen : Bool := false
  windowStartMs : UInt64 := 0
  windowEndMs : UInt64 := 0
  windowViolations : UInt32 := 0
  windowMessages : UInt32 := 0
  windowIntersectionId : Int := -1
  windowIntersectionIdMismatch : Bool := false
  totalViolations : UInt32 := 0
  deriving DecidableEq, Repr

/-- The arguments of a call of `recordMessage`. -/
structure MessageArrival where
  currentTimestampMs : UInt64
  windowDurationMs : UInt64
  intersectionId : Int := -1
  deriving DecidableEq, Repr

namespace MessageIntervalValidator

def closeWindow (v : MessageIntervalValidator) :
    IntervalWindowResult × MessageIntervalValidator :=
  ({ windowStartMs := v.windowStartMs
     windowEndMs := v.windowEndMs
     violationCount := v.windowViolations
     messageCount := v.windowMessages
     intersectionId := v.windowIntersectionId
     intersectionIdMismatch := v.windowIntersectionIdMismatch },
   { v with
     windowOpen := false
     windowStartMs := 0
     windowEndMs := 0
     windowViolations := 0
     windowMessages := 0
     windowIntersectionId := -1
     windowIntersectionIdMismatch := false })

/-- Close an expired window. -/
def expireWindow (v : MessageIntervalValidator) (currentTimestampMs : UInt64) :
    Option IntervalWindowResult × MessageIntervalValidator :=
  if v.windowOpen = true ∧ currentTimestampMs ≥ v.windowEndMs then
    let (result, v) := v.closeWindow
    (some result, v)
  else
    (none, v)

/-- The counts after a message with that check, the expired window closed already. -/
def countMessage (v : MessageIntervalValidator) (check : IntervalCheck) (m : MessageArrival) :
    MessageIntervalValidator :=
  if check.violation then
    let v := { v with totalViolations := v.totalViolations + 1 }
    if v.windowOpen then
      { v with
        windowViolations := v.windowViolations + 1
        windowMessages := v.windowMessages + 1
        windowIntersectionIdMismatch :=
          if m.intersectionId ≠ v.windowIntersectionId then true
          else v.windowIntersectionIdMismatch }
    else
      { v with
        windowOpen := true
        windowStartMs := m.currentTimestampMs
        windowEndMs := m.currentTimestampMs + m.windowDurationMs
        windowViolations := 1
        windowMessages := 1
        windowIntersectionId := m.intersectionId
        windowIntersectionIdMismatch := false }
  else if v.windowOpen then
    { v with windowMessages := v.windowMessages + 1 }
  else
    v

/-- The result and the validator after the call. A call that throws has taken over the time. -/
def recordMessage (v : MessageIntervalValidator) (m : MessageArrival) :
    Except String (Option IntervalWindowResult) × MessageIntervalValidator :=
  match evaluateMessageInterval v.lastTimestampMs m.currentTimestampMs v.thresholdMs with
  | .error e =>
      (.error e, { v with lastTimestampMs := m.currentTimestampMs, lastIntervalMs := 0 })
  | .ok check =>
      let v := { v with lastIntervalMs := check.intervalMs }
      let (closed, v) := v.expireWindow m.currentTimestampMs
      let v := { v with lastTimestampMs := m.currentTimestampMs }
      (.ok closed, v.countMessage check m)

/-- The window that is open, with its counts so far. -/
def openWindow (v : MessageIntervalValidator) : Option IntervalWindowResult :=
  if v.windowOpen then some v.closeWindow.1 else none

end MessageIntervalValidator

/-! ## Runs

What the windows are to be judged by is kept beside the validator: all messages so far, each with
whether its interval was too long, and all windows that calls have returned. -/

/-- Too long after a message at `lastTimestampMs`. At time zero no message is known. -/
def violates (thresholdMs lastTimestampMs currentTimestampMs : UInt64) : Bool :=
  lastTimestampMs ≠ 0 ∧ lastTimestampMs ≤ currentTimestampMs ∧
    thresholdMs < currentTimestampMs - lastTimestampMs

structure RecordedMessage where
  timestampMs : UInt64
  windowDurationMs : UInt64
  violation : Bool
  deriving DecidableEq, Repr

structure BroadcastLog where
  validator : MessageIntervalValidator
  messages : List RecordedMessage := []
  windows : List IntervalWindowResult := []
  deriving DecidableEq, Repr

namespace BroadcastLog

/-- The time of the last message, whether its call has thrown or not. -/
def lastTime (s : BroadcastLog) : UInt64 :=
  (s.messages.getLast?.map RecordedMessage.timestampMs).getD 0

def recorded (s : BroadcastLog) (m : MessageArrival) : RecordedMessage where
  timestampMs := m.currentTimestampMs
  windowDurationMs := m.windowDurationMs
  violation := violates s.validator.thresholdMs s.lastTime m.currentTimestampMs

/-- A call of `recordMessage`. -/
def record (s : BroadcastLog) (m : MessageArrival) : BroadcastLog :=
  let (result, validator) := s.validator.recordMessage m
  { validator
    messages := s.messages ++ [s.recorded m]
    windows := s.windows ++
      match result with
      | .ok closed => closed.toList
      | .error _ => [] }

def Step (s : BroadcastLog) (m : MessageArrival) (t : BroadcastLog) : Prop :=
  t = s.record m

/-- All windows so far, the open one last. -/
def reported (s : BroadcastLog) : List IntervalWindowResult :=
  s.windows ++ s.validator.openWindow.toList

end BroadcastLog

/-- The message falls into the window. -/
def RecordedMessage.within (w : IntervalWindowResult) (m : RecordedMessage) : Bool :=
  w.windowStartMs ≤ m.timestampMs ∧ m.timestampMs < w.windowEndMs

/-- The counts of a window are those of the messages that fall into it. -/
structure IntervalWindowResult.Exact (messages : List RecordedMessage)
    (w : IntervalWindowResult) : Prop where
  messageCount : w.messageCount.toNat = messages.countP (RecordedMessage.within w)
  violationCount :
    w.violationCount.toNat = messages.countP fun m => m.violation && m.within w

/-- Timestamps never decrease and durations are positive. -/
structure Regular (messages : List RecordedMessage) : Prop where
  sorted : messages.Pairwise fun m m' => m.timestampMs ≤ m'.timestampMs
  positive : ∀ m ∈ messages, 0 < m.windowDurationMs

/-- The sum of the violations of all windows. -/
def violationSum : List IntervalWindowResult → Nat
  | [] => 0
  | w :: windows => w.violationCount.toNat + violationSum windows

/-- What is to hold of the windows reported so far. -/
structure WindowLaw (s : BroadcastLog) : Prop where
  balanced :
    violationSum s.windows +
      (if s.validator.windowOpen then s.validator.windowViolations.toNat else 0) =
        s.validator.totalViolations.toNat
  total : s.validator.totalViolations.toNat = s.messages.countP RecordedMessage.violation
  exact : Regular s.messages → ∀ w ∈ s.reported, w.Exact s.messages

/-! ## No count and no end of a window overflows -/

/-- The message is counted into the open window. -/
def MessageIntervalValidator.joins (v : MessageIntervalValidator) (m : MessageArrival) : Bool :=
  v.windowOpen ∧ m.currentTimestampMs < v.windowEndMs

/-- Neither a count nor the end of a window that this message would open overflows. -/
def MessageIntervalValidator.Fits (v : MessageIntervalValidator) (m : MessageArrival) : Prop :=
  (violates v.thresholdMs v.lastTimestampMs m.currentTimestampMs →
    v.totalViolations.toNat + 1 < UInt32.size) ∧
  (v.joins m → v.windowMessages.toNat + 1 < UInt32.size) ∧
  (violates v.thresholdMs v.lastTimestampMs m.currentTimestampMs → ¬ v.joins m →
    m.currentTimestampMs.toNat + m.windowDurationMs.toNat < UInt64.size)

instance (v : MessageIntervalValidator) (m : MessageArrival) : Decidable (v.Fits m) :=
  inferInstanceAs (Decidable (_ ∧ _ ∧ _))

/-! ## What a call does -/

section Call

variable {v : MessageIntervalValidator} {m : MessageArrival}

theorem evaluateMessageInterval_ok {last current threshold : UInt64} {check : IntervalCheck}
    (h : evaluateMessageInterval last current threshold = .ok check) :
    check.violation = violates threshold last current := by
  unfold evaluateMessageInterval at h
  split at h
  · next hzero =>
      cases h
      simp [violates, hzero]
  · next hne =>
      split at h
      · cases h
      · next hlt =>
          cases h
          simp [violates, hne, UInt64.not_lt.mp hlt]

theorem evaluateMessageInterval_error {last current threshold : UInt64} {e : String}
    (h : evaluateMessageInterval last current threshold = .error e) :
    current < last ∧ violates threshold last current = false := by
  unfold evaluateMessageInterval at h
  split at h
  · cases h
  · split at h
    · next hlt =>
        refine ⟨hlt, ?_⟩
        simp [violates, UInt64.not_le.mpr hlt]
    · cases h

/-- An open window after one more message. -/
def IntervalWindowResult.counted (w : IntervalWindowResult) (violation : Bool)
    (intersectionId : Int) : IntervalWindowResult :=
  { w with
    messageCount := w.messageCount + 1
    violationCount := if violation then w.violationCount + 1 else w.violationCount
    intersectionIdMismatch :=
      if violation && intersectionId != w.intersectionId then true
      else w.intersectionIdMismatch }

/-- The window that a violation opens. -/
def MessageArrival.newWindow (m : MessageArrival) : IntervalWindowResult where
  windowStartMs := m.currentTimestampMs
  windowEndMs := m.currentTimestampMs + m.windowDurationMs
  violationCount := 1
  messageCount := 1
  intersectionId := m.intersectionId

namespace MessageIntervalValidator

theorem openWindow_eq_some {w : IntervalWindowResult} (h : v.openWindow = some w) :
    v.windowOpen = true ∧ v.closeWindow.1 = w := by
  unfold openWindow at h
  split at h
  · next hopen => exact ⟨hopen, Option.some.inj h⟩
  · cases h

theorem openWindow_countMessage_of_some {check : IntervalCheck} {w : IntervalWindowResult}
    (h : v.openWindow = some w) :
    (v.countMessage check m).openWindow = some (w.counted check.violation m.intersectionId) := by
  obtain ⟨hopen, rfl⟩ := openWindow_eq_some h
  unfold countMessage
  cases hviolation : check.violation with
  | true =>
      by_cases hid : m.intersectionId = v.windowIntersectionId
      · simp [openWindow, closeWindow, IntervalWindowResult.counted, hopen, hid]
      · simp [openWindow, closeWindow, IntervalWindowResult.counted, hopen, hid]
  | false => simp [openWindow, closeWindow, IntervalWindowResult.counted, hopen]

theorem openWindow_countMessage_of_none (check : IntervalCheck) (h : v.openWindow = none) :
    (v.countMessage check m).openWindow =
      if check.violation then some m.newWindow else none := by
  have hclosed : v.windowOpen = false := by
    unfold openWindow at h
    split at h
    · cases h
    · next hopen => exact Bool.eq_false_iff.mpr hopen
  unfold countMessage
  cases hviolation : check.violation with
  | true => simp [openWindow, closeWindow, MessageArrival.newWindow, hclosed]
  | false => simp [openWindow, hclosed]

theorem countMessage_totalViolations (check : IntervalCheck) :
    (v.countMessage check m).totalViolations =
      if check.violation then v.totalViolations + 1 else v.totalViolations := by
  cases hviolation : check.violation with
  | true => cases hopen : v.windowOpen <;> simp [countMessage, hviolation, hopen]
  | false => cases hopen : v.windowOpen <;> simp [countMessage, hviolation, hopen]

theorem countMessage_lastTimestampMs (check : IntervalCheck) :
    (v.countMessage check m).lastTimestampMs = v.lastTimestampMs := by
  cases hviolation : check.violation with
  | true => cases hopen : v.windowOpen <;> simp [countMessage, hviolation, hopen]
  | false => cases hopen : v.windowOpen <;> simp [countMessage, hviolation, hopen]

/-- The open window either goes on or is returned. -/
theorem expireWindow_cases (v : MessageIntervalValidator) (t : UInt64) :
    (∃ w, v.openWindow = some w ∧ t < w.windowEndMs ∧ v.expireWindow t = (none, v)) ∨
    ((∀ w, v.openWindow = some w → w.windowEndMs ≤ t) ∧
      (v.expireWindow t).1 = v.openWindow ∧ (v.expireWindow t).2.openWindow = none) := by
  unfold expireWindow
  by_cases hopen : v.windowOpen = true
  · by_cases hend : t ≥ v.windowEndMs
    · right
      rw [if_pos ⟨hopen, hend⟩]
      refine ⟨fun w hw => ?_, ?_, ?_⟩
      · obtain ⟨_, rfl⟩ := openWindow_eq_some hw
        exact hend
      · simp [openWindow, hopen]
      · simp [openWindow, closeWindow]
    · left
      rw [if_neg fun h => hend h.2]
      exact ⟨v.closeWindow.1, by simp [openWindow, hopen], UInt64.not_le.mp hend, rfl⟩
  · right
    rw [if_neg fun h => hopen h.1]
    have hnone : v.openWindow = none := by simp [openWindow, hopen]
    refine ⟨fun w hw => ?_, hnone.symm, hnone⟩
    rw [hnone] at hw
    cases hw

theorem expireWindow_totalViolations (v : MessageIntervalValidator) (t : UInt64) :
    (v.expireWindow t).2.totalViolations = v.totalViolations := by
  unfold expireWindow
  split
  · rfl
  · rfl

end MessageIntervalValidator

/-- What a call does with the windows. -/
inductive WindowMoves (s : BroadcastLog) (m : MessageArrival) (violation : Bool)
    (t : BroadcastLog) : Prop
  | thrown : m.currentTimestampMs < s.validator.lastTimestampMs → violation = false →
      t.windows = s.windows → t.validator.openWindow = s.validator.openWindow →
      WindowMoves s m violation t
  | joined (w : IntervalWindowResult) : s.validator.openWindow = some w →
      m.currentTimestampMs < w.windowEndMs → t.windows = s.windows →
      t.validator.openWindow = some (w.counted violation m.intersectionId) →
      WindowMoves s m violation t
  | opened : (∀ w, s.validator.openWindow = some w → w.windowEndMs ≤ m.currentTimestampMs) →
      violation = true → t.windows = s.reported →
      t.validator.openWindow = some m.newWindow → WindowMoves s m violation t
  | passed : (∀ w, s.validator.openWindow = some w → w.windowEndMs ≤ m.currentTimestampMs) →
      violation = false → t.windows = s.reported →
      t.validator.openWindow = none → WindowMoves s m violation t

namespace BroadcastLog

variable {s t : BroadcastLog}

/-- The verdict on a message, from what the validator remembers. -/
def judges (s : BroadcastLog) (m : MessageArrival) : Bool :=
  violates s.validator.thresholdMs s.validator.lastTimestampMs m.currentTimestampMs

theorem windowMoves_record (s : BroadcastLog) (m : MessageArrival) :
    WindowMoves s m (s.judges m) (s.record m) := by
  unfold record MessageIntervalValidator.recordMessage
  cases heval : evaluateMessageInterval s.validator.lastTimestampMs m.currentTimestampMs
      s.validator.thresholdMs with
  | error e =>
      obtain ⟨hlt, hfalse⟩ := evaluateMessageInterval_error heval
      exact .thrown hlt hfalse (List.append_nil _) rfl
  | ok check =>
      have hcheck : check.violation = s.judges m := evaluateMessageInterval_ok heval
      let v := { s.validator with lastIntervalMs := check.intervalMs }
      rw [← hcheck]
      rcases v.expireWindow_cases m.currentTimestampMs with
        ⟨w, hw, hlt, hkept⟩ | ⟨hend, hret, hnone⟩
      · refine .joined w hw hlt ?_ ?_
        · show s.windows ++ (v.expireWindow m.currentTimestampMs).1.toList = s.windows
          rw [hkept]
          exact List.append_nil _
        · apply MessageIntervalValidator.openWindow_countMessage_of_some
          show (v.expireWindow m.currentTimestampMs).2.openWindow = some w
          rw [hkept]
          exact hw
      · have hwindows :
            s.windows ++ (v.expireWindow m.currentTimestampMs).1.toList = s.reported := by
          rw [hret]
          rfl
        have hcount := MessageIntervalValidator.openWindow_countMessage_of_none (m := m)
          (v := { (v.expireWindow m.currentTimestampMs).2 with
            lastTimestampMs := m.currentTimestampMs }) check hnone
        cases hviolation : check.violation with
        | true =>
            rw [hviolation, if_pos rfl] at hcount
            exact .opened hend rfl hwindows hcount
        | false =>
            rw [hviolation, if_neg Bool.false_ne_true] at hcount
            exact .passed hend rfl hwindows hcount

theorem record_totalViolations (s : BroadcastLog) (m : MessageArrival) :
    (s.record m).validator.totalViolations =
      if s.judges m then s.validator.totalViolations + 1 else s.validator.totalViolations := by
  unfold record MessageIntervalValidator.recordMessage
  cases heval : evaluateMessageInterval s.validator.lastTimestampMs m.currentTimestampMs
      s.validator.thresholdMs with
  | error e =>
      have hfalse : s.judges m = false := (evaluateMessageInterval_error heval).2
      rw [hfalse]
      rfl
  | ok check =>
      have hcheck : check.violation = s.judges m := evaluateMessageInterval_ok heval
      rw [← hcheck]
      simp only [MessageIntervalValidator.countMessage_totalViolations,
        MessageIntervalValidator.expireWindow_totalViolations]

theorem record_lastTimestampMs (s : BroadcastLog) (m : MessageArrival) :
    (s.record m).validator.lastTimestampMs = m.currentTimestampMs := by
  unfold record MessageIntervalValidator.recordMessage
  cases evaluateMessageInterval s.validator.lastTimestampMs m.currentTimestampMs
      s.validator.thresholdMs with
  | error e => rfl
  | ok check => exact MessageIntervalValidator.countMessage_lastTimestampMs check

theorem record_lastTime (s : BroadcastLog) (m : MessageArrival) :
    (s.record m).lastTime = m.currentTimestampMs := by
  show ((s.messages ++ [s.recorded m]).getLast?.map RecordedMessage.timestampMs).getD 0 = _
  rw [List.getLast?_concat]
  rfl

end BroadcastLog

end Call

/-! ## The windows are exact -/

section Exact

variable {messages : List RecordedMessage} {x : RecordedMessage} {w : IntervalWindowResult}

theorem toNat_add_one {n : UInt32} (h : n.toNat + 1 < UInt32.size) :
    (n + 1).toNat = n.toNat + 1 := by
  rw [UInt32.toNat_add]
  exact Nat.mod_eq_of_lt h

theorem IntervalWindowResult.Exact.concat_outside (h : w.Exact messages)
    (hx : x.within w = false) : w.Exact (messages ++ [x]) where
  messageCount := by simp [List.countP_append, hx, h.messageCount]
  violationCount := by simp [List.countP_append, hx, h.violationCount]

/-- The violations of a window are among its messages. -/
theorem IntervalWindowResult.Exact.violationCount_le (h : w.Exact messages) :
    w.violationCount.toNat ≤ w.messageCount.toNat := by
  rw [h.messageCount, h.violationCount]
  apply List.countP_mono_left
  intro x _ hx
  exact (Bool.and_eq_true_iff.mp hx).2

theorem IntervalWindowResult.Exact.counted {intersectionId : Int} (h : w.Exact messages)
    (hx : x.within w = true) (hfits : w.messageCount.toNat + 1 < UInt32.size) :
    (w.counted x.violation intersectionId).Exact (messages ++ [x]) where
  messageCount := by
    show (w.messageCount + 1).toNat = (messages ++ [x]).countP (RecordedMessage.within w)
    rw [toNat_add_one hfits, h.messageCount]
    simp [List.countP_append, hx]
  violationCount := by
    show (if x.violation then w.violationCount + 1 else w.violationCount).toNat =
      (messages ++ [x]).countP fun m => m.violation && m.within w
    have hle := h.violationCount_le
    cases hviolation : x.violation with
    | true =>
        rw [if_pos rfl, toNat_add_one (by omega), h.violationCount]
        simp [List.countP_append, hx, hviolation]
    | false =>
        rw [if_neg Bool.false_ne_true, h.violationCount]
        simp [List.countP_append, hviolation]

end Exact

/-! ## What every call preserves -/

theorem MessageArrival.lt_newWindow_end {m : MessageArrival} (hpositive : 0 < m.windowDurationMs)
    (hfits : m.currentTimestampMs.toNat + m.windowDurationMs.toNat < UInt64.size) :
    m.currentTimestampMs < m.newWindow.windowEndMs := by
  show m.currentTimestampMs < m.currentTimestampMs + m.windowDurationMs
  rw [UInt64.lt_iff_toNat_lt] at hpositive ⊢
  rw [UInt64.toNat_add, Nat.mod_eq_of_lt hfits]
  simp only [UInt64.toNat_zero] at hpositive
  omega

theorem Regular.of_append {l l' : List RecordedMessage} (h : Regular (l ++ l')) : Regular l where
  sorted := (List.pairwise_append.mp h.sorted).1
  positive := fun m hm => h.positive m (List.mem_append_left _ hm)

namespace BroadcastLog

variable {s : BroadcastLog} {m : MessageArrival}

/-- The accounts balance. -/
structure Balanced (s : BroadcastLog) : Prop where
  last : s.validator.lastTimestampMs = s.lastTime
  total : s.validator.totalViolations.toNat = s.messages.countP RecordedMessage.violation
  sum : violationSum s.reported = s.validator.totalViolations.toNat

theorem violationSum_append (ws ws' : List IntervalWindowResult) :
    violationSum (ws ++ ws') = violationSum ws + violationSum ws' := by
  induction ws with
  | nil => exact (Nat.zero_add _).symm
  | cons w ws ih =>
      show w.violationCount.toNat + violationSum (ws ++ ws') = _
      rw [ih, ← Nat.add_assoc]
      rfl

theorem violationSum_reported {w : IntervalWindowResult} (h : s.validator.openWindow = some w) :
    violationSum s.reported = violationSum s.windows + w.violationCount.toNat := by
  unfold reported
  rw [violationSum_append, h]
  simp [violationSum]

theorem Balanced.judges (h : s.Balanced) : s.judges m = (s.recorded m).violation := by
  unfold BroadcastLog.judges
  rw [h.last]
  rfl

/-- The total counts up with the violation. -/
theorem toNat_record_totalViolations (hfits : s.validator.Fits m) :
    (s.record m).validator.totalViolations.toNat =
      s.validator.totalViolations.toNat + if s.judges m then 1 else 0 := by
  rw [record_totalViolations]
  cases hviolation : s.judges m with
  | true =>
      rw [if_pos rfl, if_pos rfl]
      exact toNat_add_one (hfits.1 hviolation)
  | false => rfl

theorem violationSum_record (h : s.Balanced) (hfits : s.validator.Fits m) :
    violationSum (s.record m).reported =
      violationSum s.reported + if s.judges m then 1 else 0 := by
  cases s.windowMoves_record m with
  | thrown _ hviolation hwindows hopen =>
      unfold reported
      rw [hwindows, hopen, hviolation]
      rfl
  | joined w hw _ hwindows hopen =>
      rw [violationSum_reported hw, violationSum_reported hopen, hwindows, Nat.add_assoc]
      congr 1
      show (if s.judges m then w.violationCount + 1 else w.violationCount).toNat = _
      cases hviolation : s.judges m with
      | true =>
          -- the violations of the window are among all of them, and these do not overflow
          have hle : w.violationCount.toNat ≤ s.validator.totalViolations.toNat := by
            rw [← h.sum, violationSum_reported hw]
            exact Nat.le_add_left _ _
          have htotal := hfits.1 hviolation
          exact toNat_add_one (by omega)
      | false => rfl
  | opened _ hviolation hwindows hopen =>
      rw [violationSum_reported hopen, hwindows, hviolation]
      rfl
  | passed _ hviolation hwindows hopen =>
      unfold reported
      rw [hwindows, hopen, hviolation]
      exact congrArg violationSum (List.append_nil _)

theorem Balanced.record (h : s.Balanced) (hfits : s.validator.Fits m) :
    (s.record m).Balanced where
  last := by rw [record_lastTimestampMs, record_lastTime]
  total := by
    rw [toNat_record_totalViolations hfits, h.total, h.judges]
    show _ = (s.messages ++ [s.recorded m]).countP RecordedMessage.violation
    rw [List.countP_append, List.countP_singleton]
  sum := by rw [violationSum_record h hfits, toNat_record_totalViolations hfits, h.sum]

/-- Where the windows lie: the closed ones before the last message, which the open one is around. -/
structure Placed (s : BroadcastLog) : Prop where
  closed : ∀ w ∈ s.windows, w.windowEndMs ≤ s.lastTime
  opened : ∀ w, s.validator.openWindow = some w →
    w.windowStartMs ≤ s.lastTime ∧ s.lastTime < w.windowEndMs
  exact : ∀ w ∈ s.reported, w.Exact s.messages

theorem le_lastTime (h : Regular s.messages) {x : RecordedMessage} (hx : x ∈ s.messages) :
    x.timestampMs ≤ s.lastTime := by
  unfold lastTime
  obtain ⟨l, y, hl⟩ : ∃ l y, s.messages = l ++ [y] :=
    ⟨_, _, (List.dropLast_concat_getLast (List.ne_nil_of_mem hx)).symm⟩
  have hsorted := h.sorted
  rw [hl] at hx hsorted ⊢
  rw [List.getLast?_concat]
  rcases List.mem_append.mp hx with hmem | hmem
  · exact (List.pairwise_append.mp hsorted).2.2 x hmem y List.mem_cons_self
  · rw [List.mem_singleton.mp hmem]
    exact UInt64.le_refl _

/-- A later message is outside all windows that have ended. -/
theorem not_within {w : IntervalWindowResult} (h : w.windowEndMs ≤ m.currentTimestampMs) :
    (s.recorded m).within w = false := by
  have hlt : ¬ m.currentTimestampMs < w.windowEndMs := UInt64.not_lt.mpr h
  simp [RecordedMessage.within, recorded, hlt]

theorem lastTime_le (h : Regular (s.record m).messages) : s.lastTime ≤ m.currentTimestampMs := by
  have hmem : s.recorded m ∈ (s.record m).messages :=
    List.mem_append_right _ List.mem_cons_self
  unfold lastTime
  cases hlast : s.messages.getLast? with
  | none => exact UInt64.zero_le
  | some x =>
      exact (List.pairwise_append.mp h.sorted).2.2 x (List.mem_of_getLast? hlast) _
        List.mem_cons_self

theorem lastTime_lt (h : s.Balanced) (hviolation : s.judges m = true) :
    s.lastTime < m.currentTimestampMs := by
  unfold BroadcastLog.judges violates at hviolation
  rw [h.last] at hviolation
  obtain ⟨_, hle, hlong⟩ := of_decide_eq_true hviolation
  rcases UInt64.lt_or_eq_of_le hle with hlt | heq
  · exact hlt
  · rw [heq, UInt64.sub_self] at hlong
    exact absurd hlong UInt64.not_lt_zero

/-- All windows have ended: nothing in them is counted any more. -/
theorem Placed.ended (h : s.Placed) (hle : s.lastTime ≤ m.currentTimestampMs)
    (hopen : ∀ w, s.validator.openWindow = some w → w.windowEndMs ≤ m.currentTimestampMs)
    {w : IntervalWindowResult} (hw : w ∈ s.reported) :
    w.windowEndMs ≤ m.currentTimestampMs ∧ w.Exact (s.messages ++ [s.recorded m]) := by
  have hend : w.windowEndMs ≤ m.currentTimestampMs := by
    rcases List.mem_append.mp hw with hmem | hmem
    · exact UInt64.le_trans (h.closed w hmem) hle
    · exact hopen w (Option.mem_toList.mp hmem)
  exact ⟨hend, (h.exact w hw).concat_outside (not_within hend)⟩

/-- The window that a violation opens holds this violation and nothing before it. -/
theorem newWindow_exact (hbalanced : s.Balanced) (hregular : Regular s.messages)
    (hviolation : s.judges m = true) (hend : m.currentTimestampMs < m.newWindow.windowEndMs) :
    m.newWindow.Exact (s.messages ++ [s.recorded m]) := by
  have hlt := lastTime_lt hbalanced hviolation
  have hbefore : ∀ x ∈ s.messages, x.within m.newWindow = false := by
    intro x hx
    have hx' : ¬ m.currentTimestampMs ≤ x.timestampMs :=
      UInt64.not_le.mpr (UInt64.lt_of_le_of_lt (le_lastTime hregular hx) hlt)
    simp [RecordedMessage.within, MessageArrival.newWindow, hx']
  have hself : (s.recorded m).within m.newWindow = true := by
    simpa [RecordedMessage.within, MessageArrival.newWindow, recorded] using hend
  have hrecorded : (s.recorded m).violation = true := hbalanced.judges.symm.trans hviolation
  constructor
  · have hnone : s.messages.countP (RecordedMessage.within m.newWindow) = 0 := by
      apply List.countP_eq_zero.mpr
      intro x hx
      simp [hbefore x hx]
    rw [List.countP_append, hnone, List.countP_singleton, if_pos hself]
    rfl
  · have hnone : s.messages.countP (fun x => x.violation && x.within m.newWindow) = 0 := by
      apply List.countP_eq_zero.mpr
      intro x hx
      simp [hbefore x hx]
    have hcounted : ((s.recorded m).violation && (s.recorded m).within m.newWindow) = true := by
      rw [hrecorded, hself]
      rfl
    rw [List.countP_append, hnone, List.countP_singleton, if_pos hcounted]
    rfl

/-- A message that no open window is around: at most the window that it opens is open after it. -/
theorem Placed.rolled (h : s.Placed) (hle : s.lastTime ≤ m.currentTimestampMs)
    (hends : ∀ w, s.validator.openWindow = some w → w.windowEndMs ≤ m.currentTimestampMs)
    (hwindows : (s.record m).windows = s.reported)
    (hopened : ∀ w, (s.record m).validator.openWindow = some w →
      w.windowStartMs ≤ m.currentTimestampMs ∧ m.currentTimestampMs < w.windowEndMs ∧
        w.Exact (s.messages ++ [s.recorded m])) :
    (s.record m).Placed := by
  constructor
  · intro w hw
    rw [hwindows] at hw
    rw [record_lastTime]
    exact (h.ended hle hends hw).1
  · intro w hw
    obtain ⟨hstart, hend, _⟩ := hopened w hw
    rw [record_lastTime]
    exact ⟨hstart, hend⟩
  · intro w hw
    rcases List.mem_append.mp hw with hmem | hmem
    · rw [hwindows] at hmem
      exact (h.ended hle hends hmem).2
    · exact (hopened w (Option.mem_toList.mp hmem)).2.2

/-- A message that the open window is around. -/
theorem Placed.joined (h : s.Placed) (hle : s.lastTime ≤ m.currentTimestampMs)
    (hbalanced : s.Balanced) (hfits : s.validator.Fits m) {w : IntervalWindowResult}
    (hw : s.validator.openWindow = some w) (hlt : m.currentTimestampMs < w.windowEndMs)
    (hwindows : (s.record m).windows = s.windows)
    (hopen : (s.record m).validator.openWindow =
      some (w.counted (s.judges m) m.intersectionId)) :
    (s.record m).Placed := by
  have hstart := UInt64.le_trans (h.opened w hw).1 hle
  constructor
  · intro w' hw'
    rw [hwindows] at hw'
    rw [record_lastTime]
    exact UInt64.le_trans (h.closed w' hw') hle
  · intro w' hw'
    rw [hopen] at hw'
    cases hw'
    rw [record_lastTime]
    exact ⟨hstart, hlt⟩
  · intro w' hw'
    unfold reported at hw'
    rw [hwindows, hopen] at hw'
    rcases List.mem_append.mp hw' with hmem | hmem
    · have hend := UInt64.le_trans (h.closed w' hmem) hle
      exact (h.exact w' (List.mem_append_left _ hmem)).concat_outside (not_within hend)
    · rw [List.mem_singleton.mp hmem, hbalanced.judges]
      obtain ⟨hisOpen, hclose⟩ := MessageIntervalValidator.openWindow_eq_some hw
      have hexact : w.Exact s.messages := by
        apply h.exact
        unfold reported
        rw [hw]
        exact List.mem_append_right _ List.mem_cons_self
      apply hexact.counted
      · simp [RecordedMessage.within, recorded, hstart, hlt]
      · subst hclose
        apply hfits.2.1
        exact decide_eq_true ⟨hisOpen, hlt⟩

theorem Placed.record (h : s.Placed) (hbalanced : s.Balanced) (hfits : s.validator.Fits m)
    (hregular : Regular (s.record m).messages) : (s.record m).Placed := by
  have hle := lastTime_le hregular
  cases s.windowMoves_record m with
  | thrown hlt _ _ _ =>
      rw [hbalanced.last] at hlt
      exact absurd hle (UInt64.not_le.mpr hlt)
  | joined w hw hlt hwindows hopen =>
      exact h.joined hle hbalanced hfits hw hlt hwindows hopen
  | opened hends hviolation hwindows hopen =>
      have hnotJoins : ¬ s.validator.joins m = true := by
        intro hjoins
        obtain ⟨hisOpen, hlt⟩ := of_decide_eq_true hjoins
        exact absurd (hends _ (if_pos hisOpen)) (UInt64.not_le.mpr hlt)
      have hend : m.currentTimestampMs < m.newWindow.windowEndMs := by
        apply MessageArrival.lt_newWindow_end
        · exact hregular.positive (s.recorded m) (List.mem_append_right _ List.mem_cons_self)
        · exact hfits.2.2 hviolation hnotJoins
      apply h.rolled hle hends hwindows
      intro w hw
      rw [hopen] at hw
      cases hw
      exact ⟨UInt64.le_refl _, hend,
        newWindow_exact hbalanced (Regular.of_append hregular) hviolation hend⟩
  | passed hends _ hwindows hopen =>
      apply h.rolled hle hends hwindows
      intro w hw
      rw [hopen] at hw
      cases hw

/-- What every call preserves. -/
structure Tracked (s : BroadcastLog) : Prop where
  balanced : s.Balanced
  placed : Regular s.messages → s.Placed

theorem Tracked.record (h : s.Tracked) (hfits : s.validator.Fits m) : (s.record m).Tracked where
  balanced := h.balanced.record hfits
  placed := fun hregular =>
    (h.placed (Regular.of_append hregular)).record h.balanced hfits hregular

theorem tracked_new (thresholdMs : UInt64) : Tracked { validator := { thresholdMs } } where
  balanced := ⟨rfl, rfl, rfl⟩
  placed := by
    intro _
    constructor
    · intro w hw
      cases hw
    · intro w hw
      cases hw
    · intro w hw
      cases hw

theorem Tracked.windowLaw (h : s.Tracked) : WindowLaw s where
  balanced := by
    rw [← h.balanced.sum]
    unfold reported MessageIntervalValidator.openWindow
    rw [violationSum_append]
    cases s.validator.windowOpen with
    | true => simp [MessageIntervalValidator.closeWindow, violationSum]
    | false => simp [violationSum]
  total := h.balanced.total
  exact := fun hregular => (h.placed hregular).exact

end BroadcastLog

/-! ## The law -/

/-- **Broadcast-rate windows**: while no count and no end of a window overflows, the violations of
all windows add up to the total, and for messages in order each window holds exactly what happened
in it. -/
theorem windowLaw_of_fits (thresholdMs : UInt64) {calls : List MessageArrival} {s : BroadcastLog}
    (run : Run (Guarded (fun s m => s.validator.Fits m) BroadcastLog.Step)
      { validator := { thresholdMs } } calls s) :
    WindowLaw s := by
  apply BroadcastLog.Tracked.windowLaw
  refine run.invariant (I := BroadcastLog.Tracked) ?_ (BroadcastLog.tracked_new thresholdMs)
  rintro s m t htracked ⟨hfits, rfl⟩
  exact htracked.record hfits

/-- A message after 1 s opens a window of 5 s, one in it is in time, and one at its end closes it
and opens the next. -/
theorem windowLaw_of_fits_closing :
    ∃ calls s, Run (Guarded (fun s m => s.validator.Fits m) BroadcastLog.Step)
      { validator := { thresholdMs := 125 } } calls s ∧ s.windows.length = 1 ∧
        s.validator.windowOpen = true ∧ WindowLaw s := by
  have run : Run (Guarded (fun s m => s.validator.Fits m) BroadcastLog.Step)
      { validator := { thresholdMs := 125 } }
      [⟨1000, 5000, 7⟩, ⟨2000, 5000, 7⟩, ⟨2100, 5000, 7⟩, ⟨7000, 5000, 8⟩] _ :=
    .cons ⟨by decide +kernel, rfl⟩ (.cons ⟨by decide +kernel, rfl⟩
      (.cons ⟨by decide +kernel, rfl⟩ (.cons ⟨by decide +kernel, rfl⟩ .nil)))
  exact ⟨_, _, run, rfl, rfl, windowLaw_of_fits 125 run⟩

/-- A window of `2 ^ 64 - 1` ms that opens at 2 s ends 1 ms before, so that the message it was
opened for is not in it. -/
theorem window_end_overflows :
    ¬ ∀ (thresholdMs : UInt64) (calls : List MessageArrival) (s : BroadcastLog),
      Run BroadcastLog.Step { validator := { thresholdMs } } calls s → WindowLaw s := by
  intro h
  have hlaw := h 125 [⟨1000, 18446744073709551615, 7⟩, ⟨2000, 18446744073709551615, 7⟩] _
    (.cons rfl (.cons rfl .nil))
  have hregular : Regular [⟨1000, 18446744073709551615, false⟩,
      ⟨2000, 18446744073709551615, true⟩] := by
    constructor
    · decide +kernel
    · decide +kernel
  have hexact := hlaw.exact hregular
    { windowStartMs := 2000, windowEndMs := 1999, violationCount := 1, messageCount := 1
      intersectionId := 7 } (by decide +kernel)
  exact absurd hexact.messageCount (by decide +kernel)

end V2XHub.Validation
