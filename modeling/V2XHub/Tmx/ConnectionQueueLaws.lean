import V2XHub.Tmx.MessageQueueLaws

/-!
# No message is lost between the threads

The receiver serves two queues, and each step of it or of a processor thread concerns one of them.
At the end of the connection the order of the actions matters: a processor is woken after it was
interrupted, and its queue is cleared after it has left.

**Main result** `sound_of_run`: in every interleaving, messages are processed in order and destroyed
once, nothing is dropped early and no wake-up is lost.
-/

namespace V2XHub.Tmx

open V2XHub.Lib QueueEntry

/-! ## The connection -/

/-- What the receiver is doing for a queue. -/
def ReceivePhase.feed (speed : Speed) : ReceivePhase → Feed
  | .received k msg => if k = speed then .received msg else .idle
  | .pushed k => if k = speed then .pushed else .idle
  | _ => .idle

namespace ConnectionQueues

variable {s s' : ConnectionQueues}

structure Inv (s : ConnectionQueues) : Prop where
  tracks : ∀ speed, ∃ gone, (s.queues speed).Tracks (s.receiver.feed speed) gone
  fresh : ∀ speed, ∀ msg ∈ arrivals (s.queues speed).history, msg < s.nextMessage
  closing : ∀ todo, s.receiver = .closing todo →
    todo <:+ closeActions ∧ ∀ speed, (s.queues speed).Closing todo speed

theorem inv_init : ({} : ConnectionQueues).Inv where
  tracks := fun _ => ⟨[], MessageQueue.tracks_init⟩
  fresh := nofun
  closing := nofun

/-- What is to be shown of a step that changes one queue. -/
theorem forall_setQueue {P : Speed → MessageQueue → Prop} {speed : Speed} {q : MessageQueue}
    (hnew : P speed q) (hold : ∀ k, k ≠ speed → P k (s.queues k)) (k : Speed) :
    P k ((s.setQueue speed q).queues k) := by
  show P k (if k = speed then q else s.queues k)
  split
  · rename_i heq
    rw [heq]
    exact hnew
  · exact hold k ‹_›

/-- A queue changes and the receiver goes on, in a run that goes on. -/
theorem Inv.setQueue (h : s.Inv) {speed : Speed} {q : MessageQueue} {receiver : ReceivePhase}
    {nextMessage : Nat} (htracks : ∃ gone, q.Tracks (receiver.feed speed) gone)
    (hfeed : ∀ k, k ≠ speed → receiver.feed k = s.receiver.feed k)
    (hfresh : ∀ msg ∈ arrivals q.history, msg < nextMessage)
    (hle : s.nextMessage ≤ nextMessage)
    (hclosing : ∀ todo, receiver = .closing todo →
      todo <:+ closeActions ∧ q.Closing todo speed ∧
        ∀ k, k ≠ speed → (s.queues k).Closing todo k) :
    { s.setQueue speed q with receiver := receiver, nextMessage := nextMessage }.Inv where
  tracks := by
    apply forall_setQueue (P := fun k q => ∃ gone, q.Tracks (receiver.feed k) gone) htracks
    intro k hk
    rw [hfeed k hk]
    exact h.tracks k
  fresh := by
    apply forall_setQueue (P := fun _ q => ∀ msg ∈ arrivals q.history, msg < nextMessage) hfresh
    intro k _ msg hmsg
    exact Nat.lt_of_lt_of_le (h.fresh k msg hmsg) hle
  closing := by
    intro todo htodo
    obtain ⟨hsuffix, hnew, hold⟩ := hclosing todo htodo
    exact ⟨hsuffix, forall_setQueue (P := fun k q => q.Closing todo k) hnew hold⟩

theorem Inv.receive (h : s.Inv) (hreceiving : s.receiver = .receiving) (kind : MessageKind) :
    { s.setQueue kind.speed
        { s.queues kind.speed with
          history := .arrived s.nextMessage :: (s.queues kind.speed).history } with
      receiver := .received kind.speed s.nextMessage
      nextMessage := s.nextMessage + 1 }.Inv := by
  obtain ⟨gone, htracks⟩ := h.tracks kind.speed
  rw [hreceiving] at htracks
  apply h.setQueue
  · refine ⟨gone, ?_⟩
    rw [ReceivePhase.feed, if_pos rfl]
    apply htracks.arrive
    intro hmem
    exact Nat.lt_irrefl _ (h.fresh _ _ (mem_arrivals.mpr hmem))
  · intro k hk
    rw [hreceiving, ReceivePhase.feed, if_neg (Ne.symm hk)]
    rfl
  · intro msg hmsg
    rcases List.mem_cons.mp hmsg with rfl | hmsg
    · exact Nat.lt_succ_self _
    · exact Nat.lt_succ_of_lt (h.fresh _ msg hmsg)
  · exact Nat.le_succ _
  · nofun

theorem Inv.push (h : s.Inv) {speed : Speed} {msg : Nat}
    (hreceived : s.receiver = .received speed msg) :
    { s.setQueue speed ((s.queues speed).push msg) with receiver := .pushed speed }.Inv := by
  obtain ⟨gone, htracks⟩ := h.tracks speed
  rw [hreceived, ReceivePhase.feed, if_pos rfl] at htracks
  apply h.setQueue
  · rw [ReceivePhase.feed, if_pos rfl]
    exact htracks.push
  · intro k hk
    rw [hreceived, ReceivePhase.feed, ReceivePhase.feed, if_neg (Ne.symm hk),
      if_neg (Ne.symm hk)]
  · rw [MessageQueue.arrivals_push]
    exact h.fresh speed
  · exact Nat.le_refl _
  · nofun

theorem Inv.set (h : s.Inv) {speed : Speed} (hpushed : s.receiver = .pushed speed) :
    { s.setQueue speed { s.queues speed with flag := true } with receiver := .receiving }.Inv := by
  obtain ⟨gone, htracks⟩ := h.tracks speed
  rw [hpushed, ReceivePhase.feed, if_pos rfl] at htracks
  apply h.setQueue
  · exact ⟨gone, htracks.set rfl⟩
  · intro k hk
    rw [hpushed, ReceivePhase.feed, ReceivePhase.feed, if_neg (Ne.symm hk)]
    all_goals nofun
  · exact h.fresh speed
  · exact Nat.le_refl _
  · nofun

theorem Inv.close (h : s.Inv) (hreceiving : s.receiver = .receiving) :
    { s with
      receiver := .closing closeActions
      queues := fun k => { s.queues k with history := .closed :: (s.queues k).history } :
        ConnectionQueues }.Inv where
  tracks := by
    intro speed
    obtain ⟨gone, htracks⟩ := h.tracks speed
    rw [hreceiving] at htracks
    exact ⟨gone, htracks.close⟩
  fresh := h.fresh
  closing := by
    rintro todo ⟨⟩
    refine ⟨List.suffix_refl _, fun speed => ?_⟩
    -- all of the actions are left
    cases speed with
    | fast => exact ⟨List.mem_cons_self, fun hnot => absurd (by decide) hnot,
        fun hnot => absurd (by decide) hnot, fun hnot => absurd (by decide) hnot,
        fun hnot => absurd (by decide) hnot⟩
    | slow => exact ⟨List.mem_cons_self, fun hnot => absurd (by decide) hnot,
        fun hnot => absurd (by decide) hnot, fun hnot => absurd (by decide) hnot,
        fun hnot => absurd (by decide) hnot⟩

/-- An action at the end, from what it does to its queue. -/
theorem Inv.closing_tail (h : s.Inv) {a : CloseAction} {todo : List CloseAction} {q : MessageQueue}
    (hreceiver : s.receiver = .closing (a :: todo)) (htracks : ∃ gone, q.Tracks .idle gone)
    (harrivals : arrivals q.history = arrivals (s.queues a.speed).history)
    (hclosing : q.Closing todo a.speed) :
    { s.setQueue a.speed q with receiver := .closing todo }.Inv := by
  obtain ⟨hsuffix, hqueues⟩ := h.closing _ hreceiver
  apply h.setQueue
  · exact htracks
  · intro k _
    rw [hreceiver]
    rfl
  · rw [harrivals]
    exact h.fresh a.speed
  · exact Nat.le_refl _
  · rintro _ ⟨⟩
    refine ⟨(List.suffix_cons a todo).trans hsuffix, hclosing, ?_⟩
    exact fun k hk => (hqueues k).other hk

theorem setQueue_self (s : ConnectionQueues) (speed : Speed) :
    s.setQueue speed (s.queues speed) = s := by
  unfold ConnectionQueues.setQueue
  congr 1
  funext k
  split
  · rename_i heq
    rw [heq]
  · rfl

theorem Inv.closeAction (h : s.Inv) {a : CloseAction} {todo : List CloseAction}
    (hreceiver : s.receiver = .closing (a :: todo)) (hact : s.closeAction a = some s') :
    { s' with receiver := .closing todo }.Inv := by
  obtain ⟨hsuffix, hqueues⟩ := h.closing _ hreceiver
  have hqueue := hqueues a.speed
  obtain ⟨gone, htracks⟩ := h.tracks a.speed
  rw [hreceiver] at htracks
  change (s.queues a.speed).Tracks .idle gone at htracks
  obtain ⟨-, hset, hclear⟩ := closeActions_order hsuffix a.speed
  have hnot := not_mem_of_cons_suffix hsuffix
  -- no action is taken twice, so what the others have done to the queue is still so
  cases a with
  | interrupt speed =>
      cases hact
      refine h.closing_tail hreceiver ⟨gone, htracks.interrupt⟩ rfl ⟨hqueue.closed, ?_, ?_, ?_, ?_⟩
      · exact fun _ => rfl
      · exact fun hn => hqueue.woken (not_mem_cons hn nofun)
      · exact fun hn => hqueue.exited (not_mem_cons hn nofun)
      · exact fun hn => hqueue.cleared (not_mem_cons hn nofun)
  | set speed =>
      cases hact
      refine h.closing_tail hreceiver ⟨gone, htracks.set rfl⟩ rfl ⟨hqueue.closed, ?_, ?_, ?_, ?_⟩
      · exact fun hn => hqueue.interrupted (not_mem_cons hn nofun)
      · exact fun _ _ => rfl
      · exact fun hn => hqueue.exited (not_mem_cons hn nofun)
      · exact fun hn => hqueue.cleared (not_mem_cons hn nofun)
  | join speed =>
      rw [ConnectionQueues.closeAction] at hact
      split at hact
      · cases hact
        have htail : (s.queues speed).Closing todo speed := by
          refine ⟨hqueue.closed, ?_, ?_, ?_, ?_⟩
          · exact fun hn => hqueue.interrupted (not_mem_cons hn nofun)
          · exact fun hn => hqueue.woken (not_mem_cons hn nofun)
          · exact fun _ => ‹_›
          · exact fun hn => hqueue.cleared (not_mem_cons hn nofun)
        have hinv := h.closing_tail hreceiver ⟨gone, htracks⟩ rfl htail
        change { s.setQueue speed (s.queues speed) with receiver := .closing todo }.Inv at hinv
        rwa [setQueue_self] at hinv
      · cases hact
  | clear speed =>
      cases hact
      -- the thread is joined before its queue is cleared
      have hjoined : .join speed ∉ CloseAction.clear speed :: todo := by
        have hmem := (closeActions_order ((List.suffix_cons _ _).trans hsuffix) speed).2.2 hnot
        exact not_mem_cons hmem nofun
      have hexited := hqueue.exited hjoined
      refine h.closing_tail hreceiver ⟨_, htracks.clear hexited hqueue.closed⟩
        (MessageQueue.arrivals_destroyAll _ _) ⟨?_, ?_, ?_, ?_, ?_⟩
      · exact MessageQueue.mem_destroyAll.mpr (.inl hqueue.closed)
      · exact fun hn => hqueue.interrupted (not_mem_cons hn nofun)
      · exact fun hn => hqueue.woken (not_mem_cons hn nofun)
      · exact fun hn => hqueue.exited (not_mem_cons hn nofun)
      · exact fun _ => rfl

theorem Inv.processor (h : s.Inv) {speed : Speed} {q : MessageQueue}
    (hstep : (s.queues speed).processorStep = some q) : (s.setQueue speed q).Inv := by
  obtain ⟨gone, htracks⟩ := h.tracks speed
  apply h.setQueue
  · exact htracks.processor hstep
  · exact fun _ _ => rfl
  · rw [MessageQueue.arrivals_processorStep hstep]
    exact h.fresh speed
  · exact Nat.le_refl _
  · intro todo htodo
    obtain ⟨hsuffix, hqueues⟩ := h.closing todo htodo
    obtain ⟨hinterrupted, -, hexited⟩ := closeActions_order hsuffix speed
    refine ⟨hsuffix, ?_, fun k _ => hqueues k⟩
    exact (hqueues speed).processor hinterrupted hexited hstep

/-- **One step** of any of the threads. -/
theorem Inv.step {e : Event} (h : s.Inv) (hstep : s.step e = some s') : s'.Inv := by
  cases e with
  | receive kind =>
      cases kind with
      | none =>
          rw [ConnectionQueues.step] at hstep
          split at hstep <;> cases hstep
          exact h
      | some kind =>
          rw [ConnectionQueues.step] at hstep
          split at hstep <;> cases hstep
          exact h.receive ‹_› kind
  | push =>
      rw [ConnectionQueues.step] at hstep
      split at hstep <;> cases hstep
      exact h.push ‹_›
  | set =>
      rw [ConnectionQueues.step] at hstep
      split at hstep <;> cases hstep
      exact h.set ‹_›
  | close =>
      rw [ConnectionQueues.step] at hstep
      split at hstep <;> cases hstep
      exact h.close ‹_›
  | closeAction =>
      rw [ConnectionQueues.step] at hstep
      split at hstep
      · obtain ⟨s'', hact, rfl⟩ := Option.map_eq_some_iff.mp hstep
        exact h.closeAction ‹_› hact
      · cases hstep
  | processor speed =>
      obtain ⟨q, hq, rfl⟩ := Option.map_eq_some_iff.mp hstep
      exact h.processor hq

theorem inv_of_run {es : List Event} (hs : s.Inv) (h : Run (Steps step) s es s') : s'.Inv :=
  h.invariant (fun _ _ _ hinv hstep => hinv.step hstep) hs

/-! ## Every connection can be ended -/

end ConnectionQueues

namespace MessageQueue

variable {q q' : MessageQueue}

/-- The processor thread on its own. -/
def Exits (q : MessageQueue) : Prop :=
  ∃ es q', Run (Steps fun (q : MessageQueue) (_ : Unit) => q.processorStep) q es q' ∧
    q'.phase = .exited

theorem Exits.step (q' : MessageQueue) (h : q'.Exits) (hstep : q.processorStep = some q') :
    q.Exits := by
  obtain ⟨es, t, hrun, ht⟩ := h
  exact ⟨() :: es, t, .cons hstep hrun, ht⟩

theorem exits_of_testing (hint : q.interrupted = true) (h : q.phase = .testing) : q.Exits :=
  ⟨[()], { q with phase := .exited },
    .cons (by rw [Steps, processorStep, h, if_pos hint]) .nil, rfl⟩

theorem exits_of_processing {msg : Nat} (hint : q.interrupted = true)
    (h : q.phase = .processing msg) : q.Exits := by
  apply Exits.step { q with phase := .destroying msg, history := .processed msg :: q.history }
  · apply Exits.step
      { q with
        phase := .testing, history := .destroyed msg :: .processed msg :: q.history }
    · exact exits_of_testing hint rfl
    · rfl
  · rw [processorStep, h]

theorem exits_of_taking (hint : q.interrupted = true) (h : q.phase = .taking) : q.Exits := by
  cases hqueue : q.queue with
  | nil =>
      apply Exits.step { q with phase := .testing }
      · exact exits_of_testing hint rfl
      · rw [processorStep, h]
        simp [hqueue]
  | cons msg rest =>
      apply Exits.step
        { q with
          queue := rest, messageWaiting := !rest.isEmpty, phase := .processing msg,
          history := .popped msg :: q.history }
      · exact exits_of_processing hint rfl
      · rw [processorStep, h]
        simp [hqueue]

/-- An interrupted processor leaves, unless it sleeps and its event is not set. -/
theorem exits (hint : q.interrupted = true) (hwoken : q.phase = .waiting → q.flag = true) :
    q.Exits := by
  cases hphase : q.phase with
  | testing => exact exits_of_testing hint hphase
  | waiting =>
      apply Exits.step { q with flag := false, phase := .taking }
      · exact exits_of_taking hint rfl
      · rw [processorStep, hphase]
        exact if_pos (hwoken hphase)
  | taking => exact exits_of_taking hint hphase
  | processing msg => exact exits_of_processing hint hphase
  | destroying msg =>
      apply Exits.step
        { q with phase := .testing, history := .destroyed msg :: q.history }
      · exact exits_of_testing hint rfl
      · rw [processorStep, hphase]
  | exited => exact ⟨[], q, .nil, hphase⟩

end MessageQueue

namespace ConnectionQueues

variable {s s' : ConnectionQueues}

theorem setQueue_setQueue (s : ConnectionQueues) (speed : Speed) (q q' : MessageQueue) :
    (s.setQueue speed q).setQueue speed q' = s.setQueue speed q' := by
  unfold ConnectionQueues.setQueue
  congr 1
  funext k
  dsimp only
  split
  · rfl
  · rfl

/-- What a processor does on its own it can do in the connection. -/
theorem run_processor (s : ConnectionQueues) (speed : Speed) {es : List Unit} {q q' : MessageQueue}
    (h : Run (Steps fun (q : MessageQueue) (_ : Unit) => q.processorStep) q es q') :
    ∃ es', Run (Steps step) (s.setQueue speed q) es' (s.setQueue speed q') := by
  induction h with
  | nil => exact ⟨[], .nil⟩
  | @cons q t u _ _ hstep _ ih =>
      obtain ⟨es', hrun⟩ := ih
      refine ⟨.processor speed :: es', .cons ?_ hrun⟩
      show ((s.setQueue speed q).queues speed).processorStep.map _ = _
      have hqueue : (s.setQueue speed q).queues speed = q := if_pos rfl
      have hstep : q.processorStep = some t := hstep
      rw [hqueue, hstep, Option.map_some, setQueue_setQueue]

/-- The next action can be done, after the processor has left where it has to. -/
theorem exists_closeAction (h : s.Inv) {a : CloseAction} {todo : List CloseAction}
    (hreceiver : s.receiver = .closing (a :: todo)) :
    ∃ es t, Run (Steps step) s es t ∧ t.receiver = .closing todo := by
  obtain ⟨hsuffix, hqueues⟩ := h.closing _ hreceiver
  have hact : ∀ t s' : ConnectionQueues, t.receiver = .closing (a :: todo) →
      t.closeAction a = some s' →
      Steps step t .closeAction { s' with receiver := .closing todo } := by
    intro t s' ht hact
    rw [Steps, ConnectionQueues.step, ht]
    simp [hact]
  cases a with
  | interrupt speed => exact ⟨[_], _, .cons (hact s _ hreceiver rfl) .nil, rfl⟩
  | set speed => exact ⟨[_], _, .cons (hact s _ hreceiver rfl) .nil, rfl⟩
  | join speed =>
      have hnot := not_mem_of_cons_suffix hsuffix
      obtain ⟨hinterrupt, hset, -⟩ :=
        closeActions_order ((List.suffix_cons _ _).trans hsuffix) speed
      have hwoken : .set speed ∉ CloseAction.join speed :: todo := not_mem_cons (hset hnot) nofun
      have hint : .interrupt speed ∉ CloseAction.join speed :: todo :=
        not_mem_cons (hinterrupt (hset hnot)) nofun
      obtain ⟨_, q, hrun, hexited⟩ := MessageQueue.exits ((hqueues speed).interrupted hint)
        ((hqueues speed).woken hwoken)
      obtain ⟨es, hrun⟩ := run_processor s speed hrun
      rw [setQueue_self] at hrun
      have hjoin : (s.setQueue speed q).closeAction (.join speed) =
          some (s.setQueue speed q) := by
        have hqueue : (s.setQueue speed q).queues speed = q := if_pos rfl
        rw [ConnectionQueues.closeAction, hqueue, if_pos hexited]
      exact ⟨_, _, hrun.append (.cons (hact _ _ hreceiver hjoin) .nil), rfl⟩
  | clear speed => exact ⟨[_], _, .cons (hact s _ hreceiver rfl) .nil, rfl⟩

/-- The connection can be ended from here. -/
def Closes (s : ConnectionQueues) : Prop :=
  ∃ es t, Run (Steps step) s es t ∧ t.receiver = .closing []

theorem Closes.step {e : Event} (h : s'.Closes) (hstep : s.step e = some s') : s.Closes := by
  obtain ⟨es, t, hrun, ht⟩ := h
  exact ⟨e :: es, t, .cons hstep hrun, ht⟩

theorem closes_of_closing {todo : List CloseAction} (h : s.Inv)
    (hreceiver : s.receiver = .closing todo) : s.Closes := by
  induction todo generalizing s with
  | nil => exact ⟨[], s, .nil, hreceiver⟩
  | cons a todo ih =>
      obtain ⟨es, t, hrun, ht⟩ := exists_closeAction h hreceiver
      obtain ⟨es', u, hrun', hu⟩ := ih (inv_of_run h hrun) ht
      exact ⟨es ++ es', u, hrun.append hrun', hu⟩

theorem closes_of_receiving (h : s.Inv) (hreceiver : s.receiver = .receiving) : s.Closes := by
  apply Closes.step (e := .close) _ (if_pos hreceiver)
  exact closes_of_closing (h.close hreceiver) rfl

theorem closes_of_pushed (h : s.Inv) {speed : Speed} (hreceiver : s.receiver = .pushed speed) :
    s.Closes := by
  apply Closes.step (e := .set) (closes_of_receiving (h.set hreceiver) rfl)
  rw [ConnectionQueues.step, hreceiver]

/-- The receiver comes back to `recv`, where it can find the connection closed, and the close comes
to its end. -/
theorem Inv.closes (h : s.Inv) : s.Closes := by
  cases hreceiver : s.receiver with
  | receiving => exact closes_of_receiving h hreceiver
  | received speed msg =>
      apply Closes.step (e := .push) (closes_of_pushed (h.push hreceiver) rfl)
      rw [ConnectionQueues.step, hreceiver]
  | pushed speed => exact closes_of_pushed h hreceiver
  | closing todo => exact closes_of_closing h hreceiver

/-! ## The result -/

/-- Messages are processed in the order of their arrival, each at most once; the histories are
allowed; a processor that sleeps with its event unset has nothing to do, unless the receiver is
about to set it; and when the connection has ended, every message was destroyed once. -/
structure Sound (s : ConnectionQueues) : Prop where
  inOrder : ∀ speed,
    (processings (s.queues speed).history).Sublist (arrivals (s.queues speed).history)
  once : ∀ speed, (arrivals (s.queues speed).history).Nodup
  lawful : ∀ speed, Lawful Allowed (s.queues speed).history
  awake : ∀ speed, (s.queues speed).phase = .waiting → (s.queues speed).flag = false →
    (s.queues speed).queue ≠ [] → s.receiver = .pushed speed
  destroyed : s.receiver = .closing [] → ∀ speed msg, .arrived msg ∈ (s.queues speed).history →
    (s.queues speed).history.count (.destroyed msg) = 1

theorem feed_eq_pushed {receiver : ReceivePhase} {speed : Speed}
    (h : receiver.feed speed = .pushed) : receiver = .pushed speed := by
  cases receiver with
  | receiving => cases h
  | received k msg =>
      rw [ReceivePhase.feed] at h
      split at h <;> cases h
  | pushed k =>
      rw [ReceivePhase.feed] at h
      split at h
      · rename_i heq
        rw [heq]
      · cases h
  | closing todo => cases h

theorem Inv.sound (h : s.Inv) : s.Sound where
  inOrder := by
    intro speed
    obtain ⟨gone, htracks⟩ := h.tracks speed
    rw [htracks.arrivals]
    exact ((List.sublist_append_right _ _).trans htracks.inOrder).trans
      (List.sublist_append_right _ _)
  once := by
    intro speed
    obtain ⟨gone, htracks⟩ := h.tracks speed
    exact htracks.nodup
  lawful := by
    intro speed
    obtain ⟨gone, htracks⟩ := h.tracks speed
    exact htracks.lawful
  awake := by
    intro speed hphase hflag hne
    obtain ⟨gone, htracks⟩ := h.tracks speed
    have hsleeps : (s.queues speed).sleeps = true := by rw [MessageQueue.sleeps, hphase]
    rcases htracks.awake hne hsleeps with hset | hpushed
    · rw [hflag] at hset
      cases hset
    · exact feed_eq_pushed hpushed
  destroyed := by
    intro hreceiver speed msg hmsg
    obtain ⟨gone, htracks⟩ := h.tracks speed
    have hclosing := (h.closing [] hreceiver).2 speed
    -- nothing is pending, queued or held
    have harrived := mem_arrivals.mpr hmsg
    rw [htracks.arrivals, hreceiver, hclosing.cleared List.not_mem_nil] at harrived
    have hgone : msg ∈ gone := harrived
    have hmem : .destroyed msg ∈ (s.queues speed).history := by
      refine (htracks.accounted msg hgone).resolve_right ?_
      rw [hclosing.exited List.not_mem_nil]
      exact List.not_mem_nil
    have hle := htracks.lawful.count_le_one (e := .destroyed msg) fun _ hallowed => hallowed.1
    have hpos := List.count_pos_iff.mpr hmem
    omega

/-- **The queues of a connection**, in every interleaving of the receiver and the processors. And
wherever a run has come, the connection can still be ended. -/
theorem sound_of_run {es : List Event} (h : Run (Steps step) {} es s) : s.Sound ∧ s.Closes :=
  have hinv := inv_of_run inv_init h
  ⟨hinv.sound, hinv.closes⟩

/-- A status message is processed, and an event log message is still queued when the connection
ends. -/
theorem sound_of_run_twoMessages :
    ∃ s, Run (Steps step) {}
        [.receive (some .status), .push, .processor .slow, .set, .processor .slow,
          .processor .slow, .receive (some .eventLog), .push, .processor .slow, .set,
          .processor .slow, .close, .closeAction, .closeAction, .processor .slow, .closeAction,
          .closeAction, .processor .fast, .closeAction, .closeAction, .closeAction,
          .closeAction] s ∧
      s.receiver = .closing [] ∧
      (s.queues .slow).history =
        [.destroyed 1, .closed, .destroyed 0, .processed 0, .arrived 1, .popped 0, .arrived 0] ∧
      s.Sound ∧ s.Closes := by
  have hrun : ∃ s, Run (Steps step) {}
        [.receive (some .status), .push, .processor .slow, .set, .processor .slow,
          .processor .slow, .receive (some .eventLog), .push, .processor .slow, .set,
          .processor .slow, .close, .closeAction, .closeAction, .processor .slow, .closeAction,
          .closeAction, .processor .fast, .closeAction, .closeAction, .closeAction,
          .closeAction] s ∧
      s.receiver = .closing [] ∧
      (s.queues .slow).history =
        [.destroyed 1, .closed, .destroyed 0, .processed 0, .arrived 1, .popped 0, .arrived 0] :=
    ⟨_, .of_foldlM rfl, rfl, rfl⟩
  obtain ⟨s, h, hreceiver, hhistory⟩ := hrun
  exact ⟨s, h, hreceiver, hhistory, sound_of_run h⟩

end ConnectionQueues

end V2XHub.Tmx
