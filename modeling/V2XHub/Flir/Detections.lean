import Mathlib.Data.List.Infix
import Mathlib.Logic.Function.Basic
import V2XHub.Lib.Run

/-!
# Publishing camera detections

Each FLIR session has a websocket thread that pushes detections to the queue of the session. One
more thread, `sendDetections`, goes round all sessions: it takes a copy of the queue, broadcasts the
copy and then clears the queue. Copying, clearing and pushing lock the queue, broadcasting does not,
so that the websocket threads run between any two of the steps below.

What is pushed to a queue after it was copied is cleared without being broadcast.
-/

namespace V2XHub.Flir

open V2XHub.Lib

/-- A detection: what `sendDetections` reads of it, and the rest of the message. -/
structure SensorDetectedObject (α : Type) where
  objectId : Int
  isModified : Bool
  content : α
  deriving DecidableEq, Repr

/-- Where `sendDetections` is. -/
inductive Sender (n : Nat) (α : Type) where
  /-- asleep after a round -/
  | waiting
  /-- at the head of the loop over the sessions, before session `i` -/
  | before (i : Nat)
  /-- in the loop over the copied queue of session `i` -/
  | broadcasting (i : Fin n) (currentMsgQueue : List (SensorDetectedObject α))
      (incomingPedestrianIds : List Int)

/-- What the last round has set the status to. -/
structure PedestrianStatus where
  modifiedPedCount : UInt32
  uniquePedCount : UInt32
  totalPedCount : UInt32
  deriving DecidableEq, Repr

/-- The plugin with `n` sessions. What has been pushed, what has been broadcast, and what had been
pushed when the round began is kept beside it. -/
structure Plugin (n : Nat) (α : Type) where
  msgQueue : Fin n → List (SensorDetectedObject α) := fun _ => []
  sender : Sender n α := .waiting
  uniquePedestrianIds : List Int := []
  uniquePedCount : UInt32 := 0
  modifiedPedCount : UInt32 := 0
  totalPedCount : UInt32 := 0
  status : Option PedestrianStatus := none
  pushed : Fin n → List (SensorDetectedObject α) := fun _ => []
  published : List (Fin n × SensorDetectedObject α) := []
  due : Fin n → List (SensorDetectedObject α) := fun _ => []

/-- The locked part of `handleDataMessage` on a session, and the steps of `sendDetections`. -/
inductive Event (n : Nat) (α : Type) where
  | handleDataMessage (i : Fin n) (newDetections : List (SensorDetectedObject α))
  | startRound
  | getMsgQueue
  | broadcastMessage
  | clearMsgQueue
  | setStatus

namespace Plugin

variable {n : Nat} {α : Type}

def handleDataMessage (s : Plugin n α) (i : Fin n)
    (newDetections : List (SensorDetectedObject α)) : Plugin n α :=
  { s with
    msgQueue := Function.update s.msgQueue i (s.msgQueue i ++ newDetections)
    pushed := Function.update s.pushed i (s.pushed i ++ newDetections) }

/-- The copy is counted before it is broadcast. -/
def getMsgQueue (s : Plugin n α) (i : Fin n) : Plugin n α :=
  { s with
    sender := .broadcasting i (s.msgQueue i) []
    totalPedCount := s.totalPedCount + UInt32.ofNat (s.msgQueue i).length }

def broadcastMessage (s : Plugin n α) (i : Fin n) (message : SensorDetectedObject α)
    (currentMsgQueue : List (SensorDetectedObject α)) (incomingPedestrianIds : List Int) :
    Plugin n α :=
  { s with
    sender := .broadcasting i currentMsgQueue (message.objectId :: incomingPedestrianIds)
    uniquePedCount :=
      if message.objectId ∈ s.uniquePedestrianIds then s.uniquePedCount
      else s.uniquePedCount + 1
    modifiedPedCount :=
      if message.isModified then s.modifiedPedCount + 1 else s.modifiedPedCount
    published := s.published ++ [(i, message)] }

def clearMsgQueue (s : Plugin n α) (i : Fin n) (incomingPedestrianIds : List Int) : Plugin n α :=
  { s with
    msgQueue := Function.update s.msgQueue i []
    sender := .before (i + 1)
    uniquePedestrianIds :=
      if incomingPedestrianIds.isEmpty then s.uniquePedestrianIds else incomingPedestrianIds }

def step (s : Plugin n α) : Event n α → Option (Plugin n α)
  | .handleDataMessage i newDetections => some (s.handleDataMessage i newDetections)
  | .startRound =>
      match s.sender with
      | .waiting =>
          -- without sessions the round only sets the live count
          if n = 0 then some s else some { s with sender := .before 0, due := s.pushed }
      | _ => none
  | .getMsgQueue =>
      match s.sender with
      | .before i => if h : i < n then some (s.getMsgQueue ⟨i, h⟩) else none
      | _ => none
  | .broadcastMessage =>
      match s.sender with
      | .broadcasting i (message :: rest) ids => some (s.broadcastMessage i message rest ids)
      | _ => none
  | .clearMsgQueue =>
      match s.sender with
      | .broadcasting i [] ids => some (s.clearMsgQueue i ids)
      | _ => none
  | .setStatus =>
      match s.sender with
      | .before i =>
          if i < n then none
          else some
            { s with
              sender := .waiting
              status := some
                { modifiedPedCount := s.modifiedPedCount
                  uniquePedCount := s.uniquePedCount
                  totalPedCount := s.totalPedCount } }
      | _ => none

/-- What has been broadcast of a session. -/
def publishedBy (s : Plugin n α) (i : Fin n) : List (SensorDetectedObject α) :=
  s.published.filterMap fun p => if p.1 = i then some p.2 else none

/-- The sender is at this session, between copying its queue and clearing it. -/
def At (s : Plugin n α) (i : Fin n) : Prop :=
  ∃ rest ids, s.sender = .broadcasting i rest ids

/-- What is to hold of the detections in every state: of each session, what was broadcast is the
first part of what was pushed, and the rest is in the queue unless the sender is at this session.
After a round all that was pushed before it has been broadcast, and the total counts it. -/
structure PublishedOnce (s : Plugin n α) : Prop where
  ordered : ∀ i, s.publishedBy i <+: s.pushed i
  waiting : ∀ i, ¬ s.At i → s.pushed i = s.publishedBy i ++ s.msgQueue i
  due : s.sender = .waiting → ∀ i, s.due i <+: s.publishedBy i
  total : s.sender = .waiting → s.totalPedCount.toNat = s.published.length

/-! ## What a step does -/

/-- The cases of `step`. -/
inductive Moves (s : Plugin n α) : Event n α → Plugin n α → Prop
  | push (i : Fin n) (newDetections : List (SensorDetectedObject α)) :
      Moves s (.handleDataMessage i newDetections) (s.handleDataMessage i newDetections)
  | idle : n = 0 → s.sender = .waiting → Moves s .startRound s
  | start : s.sender = .waiting →
      Moves s .startRound { s with sender := .before 0, due := s.pushed }
  | copy (i : Fin n) : s.sender = .before i → Moves s .getMsgQueue (s.getMsgQueue i)
  | broadcast (i : Fin n) (message : SensorDetectedObject α)
      (rest : List (SensorDetectedObject α)) (ids : List Int) :
      s.sender = .broadcasting i (message :: rest) ids →
      Moves s .broadcastMessage (s.broadcastMessage i message rest ids)
  | clear (i : Fin n) (ids : List Int) : s.sender = .broadcasting i [] ids →
      Moves s .clearMsgQueue (s.clearMsgQueue i ids)
  | finish (i : Nat) (status : Option PedestrianStatus) : s.sender = .before i → n ≤ i →
      Moves s .setStatus { s with sender := .waiting, status }

theorem moves_of_step {s t : Plugin n α} {e : Event n α} (h : s.step e = some t) :
    s.Moves e t := by
  -- the sender takes its camera through copy, broadcast and clear in this order
  cases e with
  | handleDataMessage i newDetections =>
      cases h
      exact .push i newDetections
  | startRound =>
      simp only [step] at h
      split at h
      · next hsender =>
          split at h
          · next hn =>
              cases h
              exact .idle hn hsender
          · cases h
            exact .start hsender
      · cases h
  | getMsgQueue =>
      simp only [step] at h
      split at h
      · next i hsender =>
          split at h
          · next hlt =>
              cases h
              exact .copy ⟨i, hlt⟩ hsender
          · cases h
      · cases h
  | broadcastMessage =>
      simp only [step] at h
      split at h
      · next i message rest ids hsender =>
          cases h
          exact .broadcast i message rest ids hsender
      · cases h
  | clearMsgQueue =>
      simp only [step] at h
      split at h
      · next i ids hsender =>
          cases h
          exact .clear i ids hsender
      · cases h
  | setStatus =>
      simp only [step] at h
      split at h
      · next i hsender =>
          split at h
          · cases h
          · next hlt =>
              cases h
              exact .finish i _ hsender (Nat.not_lt.mp hlt)
      · cases h

/-! ## Nothing is lost while no queue is pushed to between copying and clearing it -/

/-- What is still to be broadcast of a session. -/
def unsent (s : Plugin n α) (i : Fin n) : List (SensorDetectedObject α) :=
  match s.sender with
  | .broadcasting j rest _ => if j = i then rest else s.msgQueue i
  | _ => s.msgQueue i

/-- The round has been at the session. -/
def Passed (s : Plugin n α) (i : Fin n) : Prop :=
  match s.sender with
  | .waiting => True
  | .before k => i < k
  | .broadcasting j _ _ => i < j

structure Delivered (s : Plugin n α) : Prop where
  accounted : ∀ i, s.pushed i = s.publishedBy i ++ s.unsent i
  due : ∀ i, s.due i <+: s.pushed i
  passed : ∀ i, s.Passed i → s.due i <+: s.publishedBy i

/-- No detections reach a session that the sender is at. -/
def Undisturbed (s : Plugin n α) : Event n α → Prop
  | .handleDataMessage i newDetections => s.At i → newDetections = []
  | _ => True

variable {s t : Plugin n α} {e : Event n α}

theorem unsent_of_not_at {i : Fin n} (h : ¬ s.At i) : s.unsent i = s.msgQueue i := by
  unfold unsent
  split
  · next j rest ids hsender =>
      have hne : ¬ j = i := by
        rintro rfl
        exact h ⟨rest, ids, hsender⟩
      rw [if_neg hne]
  · rfl

theorem publishedBy_broadcastMessage (i j : Fin n) (message : SensorDetectedObject α)
    (rest : List (SensorDetectedObject α)) (ids : List Int) :
    (s.broadcastMessage i message rest ids).publishedBy j =
      s.publishedBy j ++ if i = j then [message] else [] := by
  unfold publishedBy broadcastMessage
  rw [List.filterMap_append]
  congr 1
  by_cases h : i = j
  · simp [h]
  · simp [h]

theorem Delivered.push (h : s.Delivered) (i : Fin n)
    (newDetections : List (SensorDetectedObject α)) (hcalm : s.At i → newDetections = []) :
    (s.handleDataMessage i newDetections).Delivered where
  accounted := by
    intro j
    show Function.update s.pushed i _ j = s.publishedBy j ++ unsent _ j
    by_cases hj : j = i
    · subst hj
      rw [Function.update_self, h.accounted, List.append_assoc]
      congr 1
      by_cases hat : s.At j
      · rw [hcalm hat, List.append_nil]
        obtain ⟨rest, ids, hsender⟩ := hat
        simp [unsent, handleDataMessage, hsender]
      · have hat' : ¬ (s.handleDataMessage j newDetections).At j := hat
        rw [unsent_of_not_at hat, unsent_of_not_at hat']
        exact (Function.update_self j _ s.msgQueue).symm
    · rw [Function.update_of_ne hj, h.accounted]
      congr 1
      simp [unsent, handleDataMessage, Function.update_of_ne hj]
  due := by
    intro j
    show s.due j <+: Function.update s.pushed i _ j
    by_cases hj : j = i
    · subst hj
      rw [Function.update_self]
      exact (h.due j).trans (List.prefix_append _ _)
    · rw [Function.update_of_ne hj]
      exact h.due j
  passed := h.passed

theorem Delivered.start (h : s.Delivered) (hsender : s.sender = .waiting) :
    Delivered { s with sender := .before 0, due := s.pushed } where
  accounted := by
    intro i
    show s.pushed i = s.publishedBy i ++ s.msgQueue i
    rw [h.accounted i]
    simp [unsent, hsender]
  due := fun i => List.prefix_refl _
  passed := fun i hi => absurd hi (Nat.not_lt_zero _)

theorem Delivered.copy (h : s.Delivered) (i : Fin n) (hsender : s.sender = .before i) :
    (s.getMsgQueue i).Delivered where
  accounted := by
    intro j
    show s.pushed j = s.publishedBy j ++ if i = j then s.msgQueue i else s.msgQueue j
    rw [h.accounted j]
    congr 1
    split
    · next hij => simp [unsent, hsender, hij]
    · simp [unsent, hsender]
  due := h.due
  passed := by
    intro j hj
    apply h.passed
    show Passed s j
    unfold Passed
    rw [hsender]
    exact hj

theorem Delivered.broadcast (h : s.Delivered) (i : Fin n) (message : SensorDetectedObject α)
    (rest : List (SensorDetectedObject α)) (ids : List Int)
    (hsender : s.sender = .broadcasting i (message :: rest) ids) :
    (s.broadcastMessage i message rest ids).Delivered where
  accounted := by
    intro j
    show s.pushed j = publishedBy _ j ++ if i = j then rest else s.msgQueue j
    rw [publishedBy_broadcastMessage, h.accounted j, List.append_assoc]
    congr 1
    simp only [unsent, hsender]
    split
    · rfl
    · rfl
  due := h.due
  passed := by
    intro j hj
    rw [publishedBy_broadcastMessage]
    refine (h.passed j ?_).trans (List.prefix_append _ _)
    unfold Passed
    rw [hsender]
    exact hj

theorem Delivered.clear (h : s.Delivered) (i : Fin n) (ids : List Int)
    (hsender : s.sender = .broadcasting i [] ids) : (s.clearMsgQueue i ids).Delivered where
  accounted := by
    intro j
    show s.pushed j = s.publishedBy j ++ Function.update s.msgQueue i [] j
    rw [h.accounted j]
    congr 1
    simp only [unsent, hsender]
    by_cases hj : i = j
    · subst hj
      rw [if_pos rfl, Function.update_self]
    · rw [if_neg hj, Function.update_of_ne (Ne.symm hj)]
  due := h.due
  passed := by
    intro j hj
    show s.due j <+: s.publishedBy j
    rcases Nat.lt_succ_iff_lt_or_eq.mp (show j.val < i.val + 1 from hj) with hlt | heq
    · apply h.passed
      unfold Passed
      rw [hsender]
      exact hlt
    · -- the copy has been worked off, so that all of this session has been broadcast
      have hall := h.accounted j
      simp only [unsent, hsender, if_pos (Fin.ext heq.symm), List.append_nil] at hall
      rw [← hall]
      exact h.due j

theorem Delivered.finish (h : s.Delivered) {k : Nat} (status : Option PedestrianStatus)
    (hsender : s.sender = .before k) (hk : n ≤ k) :
    Delivered { s with sender := .waiting, status } where
  accounted := by
    intro i
    show s.pushed i = s.publishedBy i ++ s.msgQueue i
    rw [h.accounted i]
    simp [unsent, hsender]
  due := h.due
  passed := by
    intro i _
    apply h.passed
    unfold Passed
    rw [hsender]
    exact Nat.lt_of_lt_of_le i.isLt hk

theorem Delivered.preserved (h : s.Delivered) (hcalm : s.Undisturbed e)
    (hstep : s.step e = some t) : t.Delivered := by
  cases moves_of_step hstep with
  | push i newDetections => exact h.push i newDetections hcalm
  | idle => exact h
  | start hsender => exact h.start hsender
  | copy i hsender => exact h.copy i hsender
  | broadcast i message rest ids hsender => exact h.broadcast i message rest ids hsender
  | clear i ids hsender => exact h.clear i ids hsender
  | finish k status hsender hk => exact h.finish status hsender hk

/-! ## The total -/

/-- What is left of the copy that is being broadcast. It has been counted already. -/
def pending (s : Plugin n α) : List (SensorDetectedObject α) :=
  match s.sender with
  | .broadcasting _ rest _ => rest
  | _ => []

def Counted (s : Plugin n α) : Prop :=
  s.totalPedCount.toNat = s.published.length + s.pending.length

/-- The total does not overflow. -/
def Fits (s : Plugin n α) : Event n α → Prop
  | .getMsgQueue => ∀ i : Fin n, s.sender = .before i →
      s.totalPedCount.toNat + (s.msgQueue i).length < UInt32.size
  | _ => True

theorem Counted.copy (h : s.Counted) (i : Fin n) (hsender : s.sender = .before i)
    (hfits : s.totalPedCount.toNat + (s.msgQueue i).length < UInt32.size) :
    (s.getMsgQueue i).Counted := by
  have hpublished : s.totalPedCount.toNat = s.published.length := by
    simpa [Counted, pending, hsender] using h
  have hlength : (UInt32.ofNat (s.msgQueue i).length).toNat = (s.msgQueue i).length :=
    UInt32.toNat_ofNat_of_lt' (by omega)
  show (s.totalPedCount + UInt32.ofNat (s.msgQueue i).length).toNat =
    s.published.length + (s.msgQueue i).length
  rw [UInt32.toNat_add, hlength, Nat.mod_eq_of_lt hfits, hpublished]

theorem Counted.preserved (h : s.Counted) (hfits : s.Fits e) (hstep : s.step e = some t) :
    t.Counted := by
  cases moves_of_step hstep with
  | push i newDetections => exact h
  | idle => exact h
  | start hsender => simpa [Counted, pending, hsender] using h
  | copy i hsender => exact h.copy i hsender (hfits i hsender)
  | broadcast i message rest ids hsender =>
      simp only [Counted, pending, hsender, List.length_cons] at h
      simp only [Counted, pending, broadcastMessage, List.length_append, List.length_cons,
        List.length_nil]
      omega
  | clear i ids hsender => simpa [Counted, pending, clearMsgQueue, hsender] using h
  | finish k status hsender _ => simpa [Counted, pending, hsender] using h

/-! ## Every round comes to its end -/

end Plugin

/-- A step of `sendDetections`. -/
def Event.isSender {n : Nat} {α : Type} : Event n α → Bool
  | .handleDataMessage _ _ => false
  | _ => true

namespace Plugin

variable {n : Nat} {α : Type} {s t : Plugin n α} {e : Event n α}

/-- The steps of the sender alone lead to the end of its round. -/
def Settles (s : Plugin n α) : Prop :=
  ∃ es t, (∀ e ∈ es, Event.isSender e = true) ∧ Run (Steps step) s es t ∧
    t.sender = .waiting ∧ t.pushed = s.pushed ∧ t.due = s.due

theorem Settles.cons (hstep : s.step e = some t) (hsender : e.isSender = true)
    (hpushed : t.pushed = s.pushed) (hdue : t.due = s.due) (h : t.Settles) : s.Settles := by
  obtain ⟨es, u, hes, hrun, hwaiting, hpushed', hdue'⟩ := h
  refine ⟨e :: es, u, ?_, .cons hstep hrun, hwaiting, hpushed'.trans hpushed, hdue'.trans hdue⟩
  exact List.forall_mem_cons.mpr ⟨hsender, hes⟩

/-- The rest of the copy is broadcast, the queue cleared. -/
theorem settles_of_broadcasting (i : Fin n)
    (hnext : ∀ s : Plugin n α, s.sender = .before (i + 1) → s.Settles)
    {rest : List (SensorDetectedObject α)} {ids : List Int}
    (hsender : s.sender = .broadcasting i rest ids) : s.Settles := by
  induction rest generalizing s ids with
  | nil =>
      have hstep : s.step .clearMsgQueue = some (s.clearMsgQueue i ids) := by
        simp [step, hsender]
      exact Settles.cons hstep rfl rfl rfl (hnext _ rfl)
  | cons message rest ih =>
      have hstep : s.step .broadcastMessage = some (s.broadcastMessage i message rest ids) := by
        simp [step, hsender]
      exact Settles.cons hstep rfl rfl rfl (ih rfl)

theorem settles_of_before {k : Nat} (hsender : s.sender = .before k) : s.Settles := by
  -- on the sessions that are still to come
  induction hleft : n - k generalizing s k with
  | zero =>
      have hstep : ∃ status, s.step .setStatus = some { s with sender := .waiting, status } := by
        simp [step, hsender, show ¬ k < n by omega]
      obtain ⟨status, hstep⟩ := hstep
      refine Settles.cons hstep rfl rfl rfl ?_
      exact ⟨[], _, fun _ he => absurd he List.not_mem_nil, .nil, rfl, rfl, rfl⟩
  | succ left ih =>
      have hlt : k < n := by omega
      have hstep : s.step .getMsgQueue = some (s.getMsgQueue ⟨k, hlt⟩) := by
        simp [step, hsender, hlt]
      refine Settles.cons hstep rfl rfl rfl (settles_of_broadcasting ⟨k, hlt⟩ ?_ rfl)
      intro t ht
      exact ih ht (show n - (k + 1) = left by omega)

theorem settles (s : Plugin n α) : s.Settles := by
  cases hsender : s.sender with
  | waiting => exact ⟨[], s, fun _ he => absurd he List.not_mem_nil, .nil, hsender, rfl, rfl⟩
  | before k => exact settles_of_before hsender
  | broadcasting i rest ids =>
      exact settles_of_broadcasting i (fun t ht => settles_of_before ht) hsender

/-- A sender that is left alone does not lose anything. -/
theorem Delivered.run_sender (h : s.Delivered) {es : List (Event n α)}
    (hes : ∀ e ∈ es, Event.isSender e = true) (run : Run (Steps step) s es t) :
    t.Delivered := by
  induction run with
  | nil => exact h
  | @cons s t u e es hstep _ ih =>
      obtain ⟨he, hrest⟩ := List.forall_mem_cons.mp hes
      have hcalm : s.Undisturbed e := by
        cases e with
        | handleDataMessage i newDetections => cases he
        | _ => trivial
      exact ih (h.preserved hcalm hstep) hrest

/-- The sender can get to a state in which all that has been pushed has been broadcast. -/
def AllPublishable (s : Plugin n α) : Prop :=
  ∃ es t, (∀ e ∈ es, Event.isSender e = true) ∧ Run (Steps step) s es t ∧
    ∀ i, t.publishedBy i = s.pushed i

theorem Delivered.allPublishable (h : s.Delivered) : s.AllPublishable := by
  by_cases hn : n = 0
  · subst hn
    exact ⟨[], s, fun _ he => absurd he List.not_mem_nil, .nil, fun i => i.elim0⟩
  -- to the end of this round, and then one more
  obtain ⟨es, t, hes, hrun, hwaiting, hpushed, -⟩ := s.settles
  let u : Plugin n α := { t with sender := .before 0, due := t.pushed }
  have hstart : t.step .startRound = some u := by simp [step, hwaiting, hn, u]
  obtain ⟨es', w, hes', hrun', hwaiting', hpushed', hdue'⟩ := u.settles
  have hsenders : ∀ e ∈ es ++ .startRound :: es', Event.isSender e = true := by
    intro e he
    rcases List.mem_append.mp he with he | he
    · exact hes e he
    · rcases List.mem_cons.mp he with rfl | he
      · rfl
      · exact hes' e he
  have hall := hrun.append (.cons hstart hrun')
  refine ⟨_, w, hsenders, hall, ?_⟩
  intro i
  have hw := h.run_sender hsenders hall
  have hdue : w.due i <+: w.publishedBy i := hw.passed i (by unfold Passed; rw [hwaiting']; trivial)
  have hordered : w.publishedBy i <+: w.pushed i := ⟨_, (hw.accounted i).symm⟩
  rw [hdue'] at hdue
  rw [hpushed'] at hordered
  rw [← hpushed]
  exact (hordered.eq_of_length_le hdue.length_le)

/-! ## The law -/

theorem Delivered.publishedOnce (h : s.Delivered) (hcounted : s.Counted) : s.PublishedOnce where
  ordered := fun i => ⟨_, (h.accounted i).symm⟩
  waiting := by
    intro i hi
    rw [h.accounted i, unsent_of_not_at hi]
  due := by
    intro hsender i
    apply h.passed
    unfold Passed
    rw [hsender]
    trivial
  total := by
    intro hsender
    simpa [Counted, pending, hsender] using hcounted

/-- **Detections are published exactly once**: while no detections reach a session between the copy
and the clearing of its queue, and fewer than `2 ^ 32` are counted. -/
theorem publishedOnce_of_undisturbed {es : List (Event n α)}
    (run : Run (Guarded (fun s e => s.Undisturbed e ∧ s.Fits e) (Steps step)) {} es s) :
    s.PublishedOnce ∧ s.AllPublishable := by
  have hinv : s.Delivered ∧ s.Counted := by
    refine run.invariant (I := fun s => s.Delivered ∧ s.Counted) ?_ ?_
    · rintro s e t ⟨hdelivered, hcounted⟩ ⟨⟨hcalm, hfits⟩, hstep⟩
      exact ⟨hdelivered.preserved hcalm hstep, hcounted.preserved hfits hstep⟩
    · refine ⟨⟨fun i => rfl, fun i => List.prefix_refl _, fun i _ => List.prefix_refl _⟩, rfl⟩
  exact ⟨hinv.1.publishedOnce hinv.2, hinv.1.allPublishable⟩

/-- Two sessions; one has a detection, the round ends and one more arrives. -/
theorem publishedOnce_of_undisturbed_round :
    ∃ (s : Plugin 2 Unit) (es : List (Event 2 Unit)),
      Run (Guarded (fun s e => s.Undisturbed e ∧ s.Fits e) (Steps step)) {} es s ∧
        s.sender = .waiting ∧ s.totalPedCount = 1 ∧ s.PublishedOnce ∧ s.AllPublishable := by
  have run : Run (Guarded (fun s e => s.Undisturbed e ∧ s.Fits e) (Steps step))
      ({} : Plugin 2 Unit)
      [.handleDataMessage 0 [⟨7, false, ()⟩], .startRound, .getMsgQueue, .broadcastMessage,
        .clearMsgQueue, .getMsgQueue, .clearMsgQueue, .setStatus,
        .handleDataMessage 0 [⟨8, false, ()⟩]] _ :=
    .cons ⟨⟨(fun ⟨_, _, hat⟩ => nomatch hat), trivial⟩, rfl⟩ <|
    .cons ⟨⟨trivial, trivial⟩, rfl⟩ <|
    .cons ⟨⟨trivial, fun | 0, _ => by decide +kernel | 1, _ => by decide +kernel⟩, rfl⟩ <|
    .cons ⟨⟨trivial, trivial⟩, rfl⟩ <|
    .cons ⟨⟨trivial, trivial⟩, rfl⟩ <|
    .cons ⟨⟨trivial, fun | 0, _ => by decide +kernel | 1, _ => by decide +kernel⟩, rfl⟩ <|
    .cons ⟨⟨trivial, trivial⟩, rfl⟩ <|
    .cons ⟨⟨trivial, trivial⟩, rfl⟩ <|
    .cons ⟨⟨(fun ⟨_, _, hat⟩ => nomatch hat), trivial⟩, rfl⟩ .nil
  exact ⟨_, _, run, rfl, rfl, publishedOnce_of_undisturbed run⟩

/-- A detection that arrives after the copy and before the clearing is lost. -/
theorem detection_lost :
    ¬ ∀ (n : Nat) (α : Type) (es : List (Event n α)) (s : Plugin n α),
      Run (Steps step) {} es s → s.PublishedOnce ∧ s.AllPublishable := by
  intro h
  have hlaw := (h 1 Unit
    [.startRound, .getMsgQueue, .handleDataMessage 0 [⟨7, false, ()⟩], .clearMsgQueue,
      .setStatus] _ (.cons rfl (.cons rfl (.cons rfl (.cons rfl (.cons rfl .nil)))))).1
  have hpushed := hlaw.waiting 0 (by rintro ⟨_, _, hat⟩; cases hat)
  exact absurd hpushed (by decide +kernel)

end Plugin

end V2XHub.Flir
