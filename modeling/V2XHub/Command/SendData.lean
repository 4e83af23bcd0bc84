import Mathlib.Data.List.Induction
import V2XHub.Lib.History
import V2XHub.Tmx.Base64

/-!
# Sending the output buffer

`SendData` takes a chunk out of the output buffer of the session and encodes it. Then it asks up to
five times whether the pipe is choked, and gives the chunk to `lws_write` unless the first four
answers say so. A chunk that is not written has left the buffer all the same.
-/

namespace V2XHub.Command

open V2XHub.Lib
open V2XHub.Tmx

def MAX_SEND_BYTES : Nat := 5000

/-- The loop over `lws_send_pipe_choked`. The answers are asked for one after another, the last one
also where it makes no difference. -/
def waitForPipe (choked : Nat → Bool) (chokeCount : Nat) : Nat :=
  if h : choked chokeCount && chokeCount < 4 then waitForPipe choked (chokeCount + 1) else chokeCount
  termination_by 4 - chokeCount
  decreasing_by
    simp only [Bool.and_eq_true, decide_eq_true_eq] at h
    omega

/-- `SendData`: what is left in the buffer, and what is handed to `lws_write`. -/
def sendData (outputBuffer : List UInt8) (choked : Nat → Bool) :
    List UInt8 × Option (List Char) :=
  if outputBuffer.length = 0 then (outputBuffer, none)
  else
    let pluginList64 :=
      if outputBuffer.length > MAX_SEND_BYTES then
        Base64.Encode (outputBuffer.take MAX_SEND_BYTES)
      else Base64.Encode outputBuffer
    let rest :=
      if outputBuffer.length > MAX_SEND_BYTES then outputBuffer.drop MAX_SEND_BYTES else []
    (rest, if waitForPipe choked 0 < 4 then some pluginList64 else none)

/-- What happens to the buffer of a session: something is appended, or it is sent from. -/
inductive OutputEvent where
  | append (text : List UInt8)
  | sendData (choked : Nat → Bool)

/-- The buffer, with all that was appended to it and all that was handed to `lws_write`. -/
structure Output where
  outputBuffer : List UInt8 := []
  appended : List UInt8 := []
  written : List (List Char) := []

namespace Output

def step (o : Output) : OutputEvent → Output
  | .append text =>
      { o with outputBuffer := o.outputBuffer ++ text, appended := o.appended ++ text }
  | .sendData choked =>
      let (outputBuffer, text) := Command.sendData o.outputBuffer choked
      { o with outputBuffer, written := o.written ++ text.toList }

def run (events : List OutputEvent) : Output := events.foldl step {}

/-- What was written, as the client reads it, and what is still in the buffer. -/
def accounted (o : Output) : List UInt8 :=
  (o.written.map Base64.Decode).flatten ++ o.outputBuffer

/-- What is to hold: nothing is lost. -/
def Complete (o : Output) : Prop := o.accounted = o.appended

/-- The pipe is not choked four times in a row while there is something to send. -/
def Flows (o : Output) : OutputEvent → Prop
  | .append _ => True
  | .sendData choked => o.outputBuffer ≠ [] → ∃ k < 4, choked k = false

/-! ## What a step does -/

/-- The pipe is written to if one of the first four answers says that it is free. -/
theorem waitForPipe_lt_iff (choked : Nat → Bool) {k : Nat} (hk : k ≤ 4) :
    waitForPipe choked k < 4 ↔ ∃ j, k ≤ j ∧ j < 4 ∧ choked j = false := by
  fun_induction waitForPipe choked k with
  | case1 k h ih =>
      obtain ⟨hchoked, hlt⟩ := (Bool.and_eq_true _ _).mp h
      have hlt : k < 4 := of_decide_eq_true hlt
      rw [ih (by omega)]
      constructor
      · rintro ⟨j, hkj, hj, hfree⟩
        exact ⟨j, by omega, hj, hfree⟩
      · rintro ⟨j, hkj, hj, hfree⟩
        have hne : j ≠ k := by
          rintro rfl
          rw [hchoked] at hfree
          cases hfree
        exact ⟨j, by omega, hj, hfree⟩
  | case2 k h =>
      constructor
      · intro hlt
        refine ⟨k, Nat.le_refl k, hlt, ?_⟩
        rw [decide_eq_true hlt, Bool.and_true] at h
        exact eq_false_of_ne_true h
      · rintro ⟨j, hkj, hj, -⟩
        omega

theorem not_flows_iff (o : Output) (choked : Nat → Bool) :
    ¬ o.Flows (.sendData choked) ↔ o.outputBuffer ≠ [] ∧ ¬ waitForPipe choked 0 < 4 := by
  rw [waitForPipe_lt_iff choked (Nat.zero_le 4)]
  unfold Flows
  simp

/-- A chunk is the front of the buffer. -/
theorem sendData_eq {outputBuffer : List UInt8} (h : outputBuffer ≠ []) (choked : Nat → Bool) :
    ∃ chunk rest, chunk ≠ [] ∧ outputBuffer = chunk ++ rest ∧
      Command.sendData outputBuffer choked =
        (rest, if waitForPipe choked 0 < 4 then some (Base64.Encode chunk) else none) := by
  have hlength : ¬ outputBuffer.length = 0 := mt List.length_eq_zero_iff.mp h
  unfold Command.sendData
  rw [if_neg hlength]
  by_cases hlong : outputBuffer.length > MAX_SEND_BYTES
  · refine ⟨outputBuffer.take MAX_SEND_BYTES, outputBuffer.drop MAX_SEND_BYTES, ?_,
      (List.take_append_drop _ _).symm, ?_⟩
    · rw [← List.length_pos_iff, List.length_take]
      unfold MAX_SEND_BYTES at hlong ⊢
      omega
    · simp only [if_pos hlong]
  · refine ⟨outputBuffer, [], h, (List.append_nil _).symm, ?_⟩
    simp only [if_neg hlong]

/-- What is accounted for never gets to more than what was appended. -/
def Bounded (o : Output) : Prop := o.accounted.length ≤ o.appended.length

theorem accounted_append (o : Output) (text : List UInt8) :
    (o.step (.append text)).accounted = o.accounted ++ text :=
  (List.append_assoc _ _ _).symm

/-- A chunk that is written is accounted for as before, one that is not is missing. -/
theorem accounted_sendData (o : Output) (choked : Nat → Bool) :
    (o.Flows (.sendData choked) → (o.step (.sendData choked)).accounted = o.accounted) ∧
      (¬ o.Flows (.sendData choked) →
        (o.step (.sendData choked)).accounted.length < o.accounted.length) := by
  by_cases hempty : o.outputBuffer = []
  · refine ⟨fun _ => ?_, fun hnot => absurd (fun hne => absurd hempty hne) hnot⟩
    unfold accounted step Command.sendData
    simp [hempty]
  · obtain ⟨chunk, rest, hchunk, hbuffer, hsend⟩ := sendData_eq hempty choked
    have hpos := List.length_pos_iff.mpr hchunk
    by_cases hfree : waitForPipe choked 0 < 4
    · refine ⟨fun _ => ?_, fun hnot => absurd hfree ((not_flows_iff o choked).mp hnot).2⟩
      show ((o.written ++ (Command.sendData o.outputBuffer choked).2.toList).map
        Base64.Decode).flatten ++ (Command.sendData o.outputBuffer choked).1 = o.accounted
      rw [hsend, if_pos hfree]
      unfold accounted
      rw [hbuffer]
      simp [Base64.decode_encode]
    · refine ⟨fun hflows => absurd hflows ((not_flows_iff o choked).mpr ⟨hempty, hfree⟩),
        fun _ => ?_⟩
      show (((o.written ++ (Command.sendData o.outputBuffer choked).2.toList).map
        Base64.Decode).flatten ++ (Command.sendData o.outputBuffer choked).1).length <
          o.accounted.length
      rw [hsend, if_neg hfree]
      unfold accounted
      rw [hbuffer]
      simp only [Option.toList_none, List.append_nil, List.length_append]
      omega

theorem Bounded.step {o : Output} (h : o.Bounded) (e : OutputEvent) : (o.step e).Bounded := by
  unfold Bounded at h ⊢
  cases e with
  | append text =>
      show (o.step (.append text)).accounted.length ≤ (o.appended ++ text).length
      rw [accounted_append, List.length_append, List.length_append]
      omega
  | sendData choked =>
      obtain ⟨hkept, hlost⟩ := accounted_sendData o choked
      show (o.step (.sendData choked)).accounted.length ≤ o.appended.length
      by_cases hflows : o.Flows (.sendData choked)
      · rw [hkept hflows]
        exact h
      · have := hlost hflows
        omega

theorem complete_step_iff {o : Output} (h : o.Bounded) (e : OutputEvent) :
    (o.step e).Complete ↔ o.Complete ∧ o.Flows e := by
  cases e with
  | append text =>
      show (o.step (.append text)).accounted = o.appended ++ text ↔ _
      rw [accounted_append, List.append_left_inj]
      exact (and_iff_left trivial).symm
  | sendData choked =>
      obtain ⟨hkept, hlost⟩ := accounted_sendData o choked
      show (o.step (.sendData choked)).accounted = o.appended ↔ _
      by_cases hflows : o.Flows (.sendData choked)
      · rw [hkept hflows]
        exact (and_iff_left hflows).symm
      · refine iff_of_false ?_ fun hboth => hflows hboth.2
        intro heq
        have hless := hlost hflows
        have hle : o.accounted.length ≤ o.appended.length := h
        rw [heq] at hless
        omega

/-! ## Runs -/

theorem run_concat (events : List OutputEvent) (e : OutputEvent) :
    run (events ++ [e]) = (run events).step e := by
  unfold run
  rw [List.foldl_append]
  rfl

theorem bounded_run (events : List OutputEvent) : (run events).Bounded := by
  induction events using List.reverseRecOn with
  | nil => exact Nat.le_refl 0
  | append_singleton events e ih =>
      rw [run_concat]
      exact ih.step e

/-- **Output**: nothing is lost exactly if no call finds the pipe choked four times in a row with
something in the buffer. -/
theorem complete_iff_flows (events : List OutputEvent) :
    (run events).Complete ↔ Each (fun earlier e => (run earlier).Flows e) events := by
  induction events using List.reverseRecOn with
  | nil => exact iff_of_true rfl (each_nil _)
  | append_singleton events e ih =>
      rw [run_concat, complete_step_iff (bounded_run events), each_concat, ih]

/-- A choked pipe loses what was in the buffer. -/
theorem choked_chunk_lost : ¬ ∀ events : List OutputEvent, (run events).Complete := by
  intro h
  have hcomplete := (complete_step_iff (bounded_run [.append [65]]) (.sendData fun _ => true)).mp
    (h [.append [65], .sendData fun _ => true])
  obtain ⟨k, -, hfree⟩ := hcomplete.2 (by decide)
  cases hfree

end Output

end V2XHub.Command
