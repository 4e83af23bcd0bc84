import Mathlib.Data.List.Infix
import Mathlib.Data.List.Nodup
import V2XHub.Tmx.ConnectionQueues

/-!
# What becomes of the messages of one queue

The messages that have arrived for a queue are, from the newest on, the one the receiver still
holds, those in the queue, and those that have left it. `Tracks` follows the last: each was
destroyed, or is held by the processor thread. That the processor does not oversleep is a matter of
three variables: as long as the queue is not empty, the processor is on its way to it, or knows of
a message, or will find the event set.
-/

namespace V2XHub.Tmx

open V2XHub.Lib

/-! ## What can be seen in a history -/

namespace QueueEntry

/-- The messages of the entries for which there is one, newest first. -/
def arrivals : List QueueEntry → List Nat
  | [] => []
  | .arrived msg :: earlier => msg :: arrivals earlier
  | _ :: earlier => arrivals earlier

def processings : List QueueEntry → List Nat
  | [] => []
  | .processed msg :: earlier => msg :: processings earlier
  | _ :: earlier => processings earlier

@[simp] theorem mem_arrivals {history : List QueueEntry} {msg : Nat} :
    msg ∈ arrivals history ↔ .arrived msg ∈ history := by
  induction history with
  | nil => simp [arrivals]
  | cons e history ih => cases e <;> simp [arrivals, ih]

/-- Which entries may follow on a history: a message arrives once; it is not processed after it was
destroyed; it is destroyed once, and if it was not processed, then because the connection was closed
or because 50 more messages have arrived and it was not taken. -/
def Allowed (earlier : List QueueEntry) : QueueEntry → Prop
  | .arrived msg => .arrived msg ∉ earlier
  | .processed msg => .destroyed msg ∉ earlier
  | .destroyed msg =>
      .destroyed msg ∉ earlier ∧
        (.processed msg ∈ earlier ∨ .closed ∈ earlier ∨
          .popped msg ∉ earlier ∧
            ∃ later before, arrivals earlier = later ++ msg :: before ∧ 50 ≤ later.length)
  | _ => True

end QueueEntry

open QueueEntry

namespace ProcessorPhase

/-- The message that is not destroyed yet. -/
def held : ProcessorPhase → List Nat
  | .processing msg => [msg]
  | .destroying msg => [msg]
  | _ => []

/-- The message that is not processed yet. -/
def running : ProcessorPhase → List Nat
  | .processing msg => [msg]
  | _ => []

theorem running_of_held {phase : ProcessorPhase} (h : phase.held = []) : phase.running = [] := by
  cases phase with
  | processing msg => cases h
  | _ => rfl

end ProcessorPhase

/-- What the receiver is doing for a queue. -/
inductive Feed where
  | idle
  | received (msg : Nat)
  | pushed
  deriving DecidableEq

def Feed.pending : Feed → List Nat
  | .received msg => [msg]
  | _ => []

namespace MessageQueue

/-- The processor comes to `WaitOne` before it looks at the queue again. -/
def sleeps (q : MessageQueue) : Bool :=
  match q.phase with
  | .waiting => true
  | .taking | .exited => false
  | _ => !q.messageWaiting

/-- A queue whose messages `gone` have left it. -/
structure Tracks (feed : Feed) (gone : List Nat) (q : MessageQueue) : Prop where
  arrivals : arrivals q.history = feed.pending ++ q.queue.reverse ++ gone
  nodup : (QueueEntry.arrivals q.history).Nodup
  inOrder : (q.phase.running ++ processings q.history).Sublist gone
  popped : ∀ msg, .popped msg ∈ q.history → msg ∈ gone
  destroyed : ∀ msg, .destroyed msg ∈ q.history → msg ∈ gone
  accounted : ∀ msg ∈ gone, .destroyed msg ∈ q.history ∨ msg ∈ q.phase.held
  held : ∀ msg ∈ q.phase.held, msg ∈ gone ∧ .destroyed msg ∉ q.history
  processed : ∀ msg, q.phase = .destroying msg → .processed msg ∈ q.history
  length_le : q.queue.length ≤ 50
  lawful : Lawful Allowed q.history
  awake : q.queue ≠ [] → q.sleeps = true → q.flag = true ∨ feed = .pushed

variable {q q' : MessageQueue} {feed : Feed} {gone : List Nat} {msg : Nat}

theorem tracks_init : ({} : MessageQueue).Tracks .idle [] where
  arrivals := rfl
  nodup := .nil
  inOrder := .slnil
  popped := nofun
  destroyed := nofun
  accounted := nofun
  held := nofun
  processed := nofun
  length_le := Nat.zero_le 50
  lawful := trivial
  awake := fun hne => absurd rfl hne

/-- An entry by which no message leaves the queue is written, and the processor goes on with the
message it holds. -/
theorem Tracks.record {e : QueueEntry} {phase : ProcessorPhase} {feed' : Feed}
    (h : q.Tracks feed gone) (hstays : ∀ m, e ≠ .popped m ∧ e ≠ .destroyed m)
    (hheld : phase.held = q.phase.held)
    (harrivals : QueueEntry.arrivals (e :: q.history) = feed'.pending ++ q.queue.reverse ++ gone)
    (hnodup : (QueueEntry.arrivals (e :: q.history)).Nodup)
    (hinOrder : (phase.running ++ processings (e :: q.history)).Sublist gone)
    (hprocessed : ∀ m, phase = .destroying m → .processed m ∈ e :: q.history)
    (hallowed : Allowed q.history e)
    (hawake : q.queue ≠ [] → { q with phase := phase }.sleeps = true →
      q.flag = true ∨ feed' = .pushed) :
    Tracks feed' gone { q with phase := phase, history := e :: q.history } where
  arrivals := harrivals
  nodup := hnodup
  inOrder := hinOrder
  popped := by
    intro m hm
    exact h.popped m ((List.mem_cons.mp hm).resolve_left (hstays m).1.symm)
  destroyed := by
    intro m hm
    exact h.destroyed m ((List.mem_cons.mp hm).resolve_left (hstays m).2.symm)
  accounted := by
    intro m hm
    show _ ∨ m ∈ phase.held
    rw [hheld]
    exact (h.accounted m hm).imp_left (List.mem_cons_of_mem _)
  held := by
    intro m hm
    change m ∈ phase.held at hm
    rw [hheld] at hm
    obtain ⟨hgone, hnot⟩ := h.held m hm
    exact ⟨hgone, fun hd => hnot ((List.mem_cons.mp hd).resolve_left (hstays m).2.symm)⟩
  processed := hprocessed
  length_le := h.length_le
  lawful := h.lawful.cons hallowed
  awake := hawake

/-! ## The receiver -/

theorem Tracks.arrive (h : q.Tracks .idle gone) (hnew : .arrived msg ∉ q.history) :
    Tracks (.received msg) gone { q with history := .arrived msg :: q.history } := by
  refine h.record (fun _ => ⟨nofun, nofun⟩) rfl ?_ ?_ ?_ ?_ ?_ ?_
  · show msg :: QueueEntry.arrivals q.history = _
    rw [h.arrivals]
    rfl
  · exact List.nodup_cons.mpr ⟨fun hmem => hnew (mem_arrivals.mp hmem), h.nodup⟩
  · exact h.inOrder
  · intro m hm
    exact List.mem_cons_of_mem _ (h.processed m hm)
  · exact hnew
  · intro hne hsleeps
    exact .inl ((h.awake hne hsleeps).resolve_right nofun)

/-- There is room for the message. -/
theorem Tracks.append (h : q.Tracks (.received msg) gone) (hroom : q.queue.length < 50) :
    Tracks .pushed gone { q with queue := q.queue ++ [msg] } where
  arrivals := by
    show QueueEntry.arrivals q.history = [] ++ (q.queue ++ [msg]).reverse ++ gone
    rw [h.arrivals, List.reverse_append]
    rfl
  nodup := h.nodup
  inOrder := h.inOrder
  popped := h.popped
  destroyed := h.destroyed
  accounted := h.accounted
  held := h.held
  processed := h.processed
  length_le := by
    show (q.queue ++ [msg]).length ≤ 50
    rw [List.length_append, List.length_singleton]
    exact hroom
  lawful := h.lawful
  awake := fun _ _ => .inr rfl

/-- The messages in the queue have not left it. -/
theorem Tracks.not_gone (h : q.Tracks feed gone) {m : Nat} (hm : m ∈ q.queue) : m ∉ gone := by
  have hnodup := h.nodup
  rw [h.arrivals] at hnodup
  have hdisjoint := (List.nodup_append'.mp hnodup).2.2
  exact hdisjoint (List.mem_append_right _ (List.mem_reverse.mpr hm))

/-- The oldest message is overwritten: it is followed by the other 49 and the new one. -/
theorem Tracks.overwrite {front : Nat} {rest : List Nat} (h : q.Tracks (.received msg) gone)
    (hqueue : q.queue = front :: rest) (hfull : q.queue.length = 50) :
    Tracks .pushed (front :: gone)
      { q with queue := rest ++ [msg], history := .destroyed front :: q.history } := by
  have hfront : front ∉ gone := h.not_gone (hqueue ▸ List.mem_cons_self)
  have harrivals : QueueEntry.arrivals q.history = (msg :: rest.reverse) ++ front :: gone := by
    rw [h.arrivals, hqueue, List.reverse_cons]
    simp [Feed.pending]
  have hlength : rest.length = 49 := by
    rw [hqueue, List.length_cons] at hfull
    omega
  exact
    { arrivals := by
        show QueueEntry.arrivals q.history = [] ++ (rest ++ [msg]).reverse ++ front :: gone
        rw [harrivals, List.reverse_append]
        rfl
      nodup := h.nodup
      inOrder := h.inOrder.cons front
      popped := by
        intro m hm
        exact List.mem_cons_of_mem _ (h.popped m (by simpa using hm))
      destroyed := by
        intro m hm
        rcases List.mem_cons.mp hm with heq | hm
        · cases heq
          exact List.mem_cons_self
        · exact List.mem_cons_of_mem _ (h.destroyed m hm)
      accounted := by
        intro m hm
        rcases List.mem_cons.mp hm with rfl | hm
        · exact .inl List.mem_cons_self
        · exact (h.accounted m hm).imp_left (List.mem_cons_of_mem _)
      held := by
        intro m hm
        obtain ⟨hgone, hnot⟩ := h.held m hm
        refine ⟨List.mem_cons_of_mem _ hgone, ?_⟩
        rintro (_ | ⟨_, hmem⟩)
        · exact hfront hgone
        · exact hnot hmem
      processed := by
        intro m hm
        exact List.mem_cons_of_mem _ (h.processed m hm)
      length_le := by
        show (rest ++ [msg]).length ≤ 50
        rw [List.length_append, List.length_singleton]
        omega
      lawful := by
        apply h.lawful.cons
        -- the 49 others and the new one stand behind the destroyed message
        refine ⟨fun hd => hfront (h.destroyed front hd), .inr (.inr ⟨?_, ?_⟩)⟩
        · exact fun hp => hfront (h.popped front hp)
        · refine ⟨msg :: rest.reverse, gone, harrivals, ?_⟩
          rw [List.length_cons, List.length_reverse]
          omega
      awake := fun _ _ => .inr rfl }

theorem Tracks.push (h : q.Tracks (.received msg) gone) :
    ∃ gone', (q.push msg).Tracks .pushed gone' := by
  unfold MessageQueue.push
  split
  · rename_i hempty
    have happend := h.append (by rw [hempty]; decide)
    rw [hempty] at happend
    exact ⟨gone, happend⟩
  · rename_i front rest hqueue
    split
    · exact ⟨front :: gone, h.overwrite hqueue ‹_›⟩
    · rename_i hnot
      exact ⟨gone, h.append (Nat.lt_of_le_of_ne h.length_le hnot)⟩

theorem Tracks.set (h : q.Tracks feed gone) (hpending : feed.pending = []) :
    Tracks .idle gone { q with flag := true } :=
  { h with
    arrivals := by
      rw [h.arrivals, hpending]
      rfl
    awake := fun _ _ => .inl rfl }

theorem Tracks.interrupt (h : q.Tracks feed gone) :
    Tracks feed gone { q with interrupted := true } :=
  { h with awake := h.awake }

theorem Tracks.close (h : q.Tracks feed gone) :
    Tracks feed gone { q with history := .closed :: q.history } := by
  refine h.record (fun _ => ⟨nofun, nofun⟩) rfl h.arrivals h.nodup h.inOrder ?_ ?_ ?_
  · intro m hm
    exact List.mem_cons_of_mem _ (h.processed m hm)
  · trivial
  · exact h.awake

theorem mem_destroyAll {l : List Nat} {history : List QueueEntry} {e : QueueEntry} :
    e ∈ destroyAll l history ↔ e ∈ history ∨ ∃ m ∈ l, e = .destroyed m := by
  induction l generalizing history with
  | nil => simp [destroyAll]
  | cons m l ih =>
      rw [destroyAll, ih]
      simp only [List.mem_cons, exists_eq_or_imp]
      tauto

theorem arrivals_destroyAll (l : List Nat) (history : List QueueEntry) :
    QueueEntry.arrivals (destroyAll l history) = QueueEntry.arrivals history := by
  induction l generalizing history with
  | nil => rfl
  | cons m l ih => exact ih (.destroyed m :: history)

theorem processings_destroyAll (l : List Nat) (history : List QueueEntry) :
    processings (destroyAll l history) = processings history := by
  induction l generalizing history with
  | nil => rfl
  | cons m l ih => exact ih (.destroyed m :: history)

/-- After the end of the connection everything may be destroyed that was not destroyed before. -/
theorem lawful_destroyAll {l : List Nat} {history : List QueueEntry} (h : Lawful Allowed history)
    (hclosed : .closed ∈ history) (hnodup : l.Nodup)
    (hnot : ∀ m ∈ l, .destroyed m ∉ history) : Lawful Allowed (destroyAll l history) := by
  induction l generalizing history with
  | nil => exact h
  | cons m l ih =>
      obtain ⟨hm, hnodup⟩ := List.nodup_cons.mp hnodup
      apply ih
      · exact h.cons ⟨hnot m List.mem_cons_self, .inr (.inl hclosed)⟩
      · exact List.mem_cons_of_mem _ hclosed
      · exact hnodup
      · rintro k hk (_ | ⟨_, hmem⟩)
        · exact hm hk
        · exact hnot k (List.mem_cons_of_mem _ hk) hmem

/-- The queue of a processor that has left is destroyed with the connection. -/
theorem Tracks.clear (h : q.Tracks .idle gone) (hexited : q.phase = .exited)
    (hclosed : .closed ∈ q.history) : q.clear.Tracks .idle (q.queue.reverse ++ gone) := by
  have hheld : q.phase.held = [] := by rw [hexited]; rfl
  have hnodup : (q.queue.reverse ++ gone).Nodup := by
    have := h.nodup
    rwa [h.arrivals] at this
  exact
    { arrivals := by
        show QueueEntry.arrivals (destroyAll q.queue q.history) = _
        rw [arrivals_destroyAll, h.arrivals]
        rfl
      nodup := by
        show (QueueEntry.arrivals (destroyAll q.queue q.history)).Nodup
        rw [arrivals_destroyAll]
        exact h.nodup
      inOrder := by
        show (q.phase.running ++ processings (destroyAll q.queue q.history)).Sublist _
        rw [processings_destroyAll]
        exact h.inOrder.trans (List.sublist_append_right _ _)
      popped := by
        intro m hm
        rcases mem_destroyAll.mp hm with hm | ⟨_, _, heq⟩
        · exact List.mem_append_right _ (h.popped m hm)
        · cases heq
      destroyed := by
        intro m hm
        rcases mem_destroyAll.mp hm with hm | ⟨_, hmem, heq⟩
        · exact List.mem_append_right _ (h.destroyed m hm)
        · cases heq
          exact List.mem_append_left _ (List.mem_reverse.mpr hmem)
      accounted := by
        intro m hm
        -- a message is in the queue that is cleared, or it was accounted for before
        refine .inl (mem_destroyAll.mpr ?_)
        rcases List.mem_append.mp hm with hm | hm
        · exact .inr ⟨m, List.mem_reverse.mp hm, rfl⟩
        · refine .inl ((h.accounted m hm).resolve_right ?_)
          rw [hheld]
          exact List.not_mem_nil
      held := by
        intro m hm
        change m ∈ q.phase.held at hm
        rw [hheld] at hm
        cases hm
      processed := by
        intro m hm
        exact mem_destroyAll.mpr (.inl (h.processed m hm))
      length_le := Nat.zero_le 50
      lawful := by
        refine lawful_destroyAll h.lawful hclosed ?_ ?_
        · exact List.nodup_reverse.mp (List.nodup_append'.mp hnodup).1
        · exact fun m hm hd => h.not_gone hm (h.destroyed m hd)
      awake := fun hne => absurd rfl hne }

/-! ## The processor -/

/-- What a step of a processor thread can be. -/
theorem processorStep_cases (h : q.processorStep = some q') :
    (q.phase = .testing ∧ q.interrupted = true ∧ q' = { q with phase := .exited }) ∨
    (q.phase = .testing ∧ q.interrupted = false ∧ q.messageWaiting = true ∧
      q' = { q with phase := .taking }) ∨
    (q.phase = .testing ∧ q.interrupted = false ∧ q.messageWaiting = false ∧
      q' = { q with phase := .waiting }) ∨
    (q.phase = .waiting ∧ q.flag = true ∧ q' = { q with flag := false, phase := .taking }) ∨
    (q.phase = .taking ∧ q.queue = [] ∧ q' = { q with phase := .testing }) ∨
    (∃ msg rest, q.phase = .taking ∧ q.queue = msg :: rest ∧
      q' = { q with
        queue := rest
        messageWaiting := !rest.isEmpty
        phase := .processing msg
        history := .popped msg :: q.history }) ∨
    (∃ msg, q.phase = .processing msg ∧
      q' = { q with phase := .destroying msg, history := .processed msg :: q.history }) ∨
    (∃ msg, q.phase = .destroying msg ∧
      q' = { q with phase := .testing, history := .destroyed msg :: q.history }) := by
  unfold processorStep at h
  split at h
  · split at h
    · cases h
      exact .inl ⟨‹_›, ‹_›, rfl⟩
    · split at h
      · cases h
        exact .inr (.inl ⟨‹_›, by simp_all, ‹_›, rfl⟩)
      · cases h
        exact .inr (.inr (.inl ⟨‹_›, by simp_all, by simp_all, rfl⟩))
  · split at h
    · cases h
      exact .inr (.inr (.inr (.inl ⟨‹_›, ‹_›, rfl⟩)))
    · cases h
  · split at h
    · cases h
      exact .inr (.inr (.inr (.inr (.inl ⟨‹_›, ‹_›, rfl⟩))))
    · cases h
      exact .inr (.inr (.inr (.inr (.inr (.inl ⟨_, _, ‹_›, ‹_›, rfl⟩)))))
  · cases h
    exact .inr (.inr (.inr (.inr (.inr (.inr (.inl ⟨_, ‹_›, rfl⟩))))))
  · cases h
    exact .inr (.inr (.inr (.inr (.inr (.inr (.inr ⟨_, ‹_›, rfl⟩))))))
  · cases h

/-- A processor that holds no message goes on without one. -/
theorem Tracks.goOn {phase : ProcessorPhase} {flag : Bool} (h : q.Tracks feed gone)
    (hfrom : q.phase.held = []) (hto : phase.held = [])
    (hawake : q.queue ≠ [] → { q with flag := flag, phase := phase }.sleeps = true →
      flag = true ∨ feed = .pushed) :
    Tracks feed gone { q with flag := flag, phase := phase } :=
  { h with
    inOrder := by
      show (phase.running ++ processings q.history).Sublist gone
      rw [ProcessorPhase.running_of_held hto]
      exact (List.sublist_append_right _ _).trans h.inOrder
    accounted := by
      intro m hm
      refine .inl ((h.accounted m hm).resolve_right ?_)
      rw [hfrom]
      exact List.not_mem_nil
    held := by
      intro m hm
      change m ∈ phase.held at hm
      rw [hto] at hm
      cases hm
    processed := by
      intro m hm
      change phase = .destroying m at hm
      rw [hm] at hto
      cases hto
    awake := hawake }

/-- The processor takes the oldest message. -/
theorem Tracks.take {rest : List Nat} (h : q.Tracks feed gone) (hphase : q.phase = .taking)
    (hqueue : q.queue = msg :: rest) :
    Tracks feed (msg :: gone)
      { q with
        queue := rest
        messageWaiting := !rest.isEmpty
        phase := .processing msg
        history := .popped msg :: q.history } := by
  have hmsg : msg ∉ gone := h.not_gone (hqueue ▸ List.mem_cons_self)
  exact
    { arrivals := by
        show QueueEntry.arrivals q.history = feed.pending ++ rest.reverse ++ msg :: gone
        rw [h.arrivals, hqueue]
        simp
      nodup := h.nodup
      inOrder := by
        show (msg :: processings q.history).Sublist (msg :: gone)
        have hinOrder := h.inOrder
        rw [hphase] at hinOrder
        exact hinOrder.cons_cons msg
      popped := by
        intro m hm
        rcases List.mem_cons.mp hm with heq | hm
        · cases heq
          exact List.mem_cons_self
        · exact List.mem_cons_of_mem _ (h.popped m hm)
      destroyed := by
        intro m hm
        exact List.mem_cons_of_mem _ (h.destroyed m (by simpa using hm))
      accounted := by
        intro m hm
        rcases List.mem_cons.mp hm with rfl | hm
        · exact .inr List.mem_cons_self
        · refine .inl (List.mem_cons_of_mem _ ((h.accounted m hm).resolve_right ?_))
          rw [hphase]
          exact List.not_mem_nil
      held := by
        intro m hm
        cases List.mem_singleton.mp hm
        refine ⟨List.mem_cons_self, ?_⟩
        rintro (_ | ⟨_, hmem⟩)
        exact hmsg (h.destroyed msg hmem)
      processed := nofun
      length_le := by
        have hlength := h.length_le
        rw [hqueue, List.length_cons] at hlength
        show rest.length ≤ 50
        omega
      lawful := h.lawful.cons trivial
      awake := by
        -- what is left in the queue is what `messageWaiting` tells
        intro hne hsleeps
        cases rest with
        | nil => exact absurd rfl hne
        | cons _ _ => cases hsleeps }

theorem Tracks.process (h : q.Tracks feed gone) (hphase : q.phase = .processing msg) :
    Tracks feed gone
      { q with phase := .destroying msg, history := .processed msg :: q.history } := by
  have hheld := h.held
  have hinOrder := h.inOrder
  have hawake := h.awake
  unfold sleeps at hawake
  rw [hphase] at hheld hinOrder hawake
  refine h.record (fun _ => ⟨nofun, nofun⟩) (by rw [hphase]; rfl) h.arrivals h.nodup hinOrder
    ?_ ?_ ?_
  · rintro m ⟨⟩
    exact List.mem_cons_self
  · exact (hheld msg List.mem_cons_self).2
  · exact hawake

theorem Tracks.destroy (h : q.Tracks feed gone) (hphase : q.phase = .destroying msg) :
    Tracks feed gone
      { q with phase := .testing, history := .destroyed msg :: q.history } := by
  have hheld := h.held
  have haccounted := h.accounted
  have hinOrder := h.inOrder
  have hawake := h.awake
  unfold sleeps at hawake
  rw [hphase] at hheld haccounted hinOrder hawake
  obtain ⟨hgone, hnot⟩ := hheld msg List.mem_cons_self
  exact
    { arrivals := h.arrivals
      nodup := h.nodup
      inOrder := hinOrder
      popped := by
        intro m hm
        exact h.popped m (by simpa using hm)
      destroyed := by
        intro m hm
        rcases List.mem_cons.mp hm with heq | hm
        · cases heq
          exact hgone
        · exact h.destroyed m hm
      accounted := by
        intro m hm
        rcases haccounted m hm with hd | hm
        · exact .inl (List.mem_cons_of_mem _ hd)
        · cases List.mem_singleton.mp hm
          exact .inl List.mem_cons_self
      held := nofun
      processed := nofun
      length_le := h.length_le
      lawful := h.lawful.cons ⟨hnot, .inl (h.processed msg hphase)⟩
      awake := hawake }

theorem Tracks.processor (h : q.Tracks feed gone) (hstep : q.processorStep = some q') :
    ∃ gone', q'.Tracks feed gone' := by
  have hawake := h.awake
  unfold sleeps at hawake
  obtain ⟨hphase, -, rfl⟩ | ⟨hphase, -, -, rfl⟩ | ⟨hphase, -, hnone, rfl⟩ | ⟨hphase, -, rfl⟩ |
    ⟨hphase, hempty, rfl⟩ | ⟨msg, rest, hphase, hqueue, rfl⟩ | ⟨msg, hphase, rfl⟩ |
    ⟨msg, hphase, rfl⟩ := processorStep_cases hstep
  · exact ⟨gone, h.goOn (by rw [hphase]; rfl) rfl nofun⟩
  · exact ⟨gone, h.goOn (by rw [hphase]; rfl) rfl nofun⟩
  · -- it goes to sleep without a message in the queue, or with the event set
    rw [hphase, hnone] at hawake
    exact ⟨gone, h.goOn (by rw [hphase]; rfl) rfl fun hne _ => hawake hne rfl⟩
  · exact ⟨gone, h.goOn (by rw [hphase]; rfl) rfl nofun⟩
  · exact ⟨gone, h.goOn (by rw [hphase]; rfl) rfl fun hne => absurd hempty hne⟩
  · exact ⟨msg :: gone, h.take hphase hqueue⟩
  · exact ⟨gone, h.process hphase⟩
  · exact ⟨gone, h.destroy hphase⟩

/-! ## Only the receiver brings messages -/

theorem arrivals_push (q : MessageQueue) (msg : Nat) :
    QueueEntry.arrivals (q.push msg).history = QueueEntry.arrivals q.history := by
  unfold MessageQueue.push
  split
  · rfl
  · split
    · rfl
    · rfl

theorem arrivals_processorStep (h : q.processorStep = some q') :
    QueueEntry.arrivals q'.history = QueueEntry.arrivals q.history := by
  obtain ⟨_, _, rfl⟩ | ⟨_, _, _, rfl⟩ | ⟨_, _, _, rfl⟩ | ⟨_, _, rfl⟩ | ⟨_, _, rfl⟩ |
    ⟨_, _, _, _, rfl⟩ | ⟨_, _, rfl⟩ | ⟨_, _, rfl⟩ := processorStep_cases h
  all_goals rfl

/-! ## The end of the connection -/

/-- A queue while these actions are left. -/
structure Closing (todo : List CloseAction) (speed : Speed) (q : MessageQueue) : Prop where
  closed : .closed ∈ q.history
  interrupted : .interrupt speed ∉ todo → q.interrupted = true
  woken : .set speed ∉ todo → q.phase = .waiting → q.flag = true
  exited : .join speed ∉ todo → q.phase = .exited
  cleared : .clear speed ∉ todo → q.queue = []

/-- An interrupted processor does not go to sleep again, and one that has left does nothing. -/
theorem Closing.processor {todo : List CloseAction} {speed : Speed}
    (h : q.Closing todo speed) (hinterrupted : .set speed ∉ todo → .interrupt speed ∉ todo)
    (hexited : .clear speed ∉ todo → .join speed ∉ todo) (hstep : q.processorStep = some q') :
    q'.Closing todo speed := by
  have hnot : .join speed ∉ todo → q'.phase = .exited := by
    intro hjoin
    rw [processorStep, h.exited hjoin] at hstep
    cases hstep
  have hcleared : .clear speed ∉ todo → q'.queue = [] := by
    intro hclear
    rw [processorStep, h.exited (hexited hclear)] at hstep
    cases hstep
  obtain ⟨hphase, hint, rfl⟩ | ⟨hphase, hint, -, rfl⟩ | ⟨hphase, hint, -, rfl⟩ |
    ⟨hphase, -, rfl⟩ | ⟨hphase, -, rfl⟩ | ⟨msg, rest, hphase, -, rfl⟩ | ⟨msg, hphase, rfl⟩ |
    ⟨msg, hphase, rfl⟩ := processorStep_cases hstep
  · exact ⟨h.closed, h.interrupted, nofun, hnot, hcleared⟩
  · exact ⟨h.closed, h.interrupted, nofun, hnot, hcleared⟩
  · refine ⟨h.closed, h.interrupted, ?_, hnot, hcleared⟩
    intro hset _
    have hyes := h.interrupted (hinterrupted hset)
    rw [hint] at hyes
    cases hyes
  · exact ⟨h.closed, h.interrupted, nofun, hnot, hcleared⟩
  · exact ⟨h.closed, h.interrupted, nofun, hnot, hcleared⟩
  · exact ⟨List.mem_cons_of_mem _ h.closed, h.interrupted, nofun, hnot, hcleared⟩
  · exact ⟨List.mem_cons_of_mem _ h.closed, h.interrupted, nofun, hnot, hcleared⟩
  · exact ⟨List.mem_cons_of_mem _ h.closed, h.interrupted, nofun, hnot, hcleared⟩

end MessageQueue

/-- An action that is not left and not the one just done was not left before. -/
theorem not_mem_cons {a b : CloseAction} {todo : List CloseAction} (hb : b ∉ todo) (hne : b ≠ a) :
    b ∉ a :: todo := by
  rw [List.mem_cons, not_or]
  exact ⟨hne, hb⟩

def CloseAction.speed : CloseAction → Speed
  | .interrupt speed | .set speed | .join speed | .clear speed => speed

/-- For the other queue nothing was done. -/
theorem MessageQueue.Closing.other {q : MessageQueue} {a : CloseAction} {todo : List CloseAction}
    {speed : Speed} (h : q.Closing (a :: todo) speed) (hne : speed ≠ a.speed) :
    q.Closing todo speed where
  closed := h.closed
  interrupted := fun hnot => h.interrupted (not_mem_cons hnot fun heq => hne (heq ▸ rfl))
  woken := fun hnot => h.woken (not_mem_cons hnot fun heq => hne (heq ▸ rfl))
  exited := fun hnot => h.exited (not_mem_cons hnot fun heq => hne (heq ▸ rfl))
  cleared := fun hnot => h.cleared (not_mem_cons hnot fun heq => hne (heq ▸ rfl))

/-- The order of the actions: what is done first is done by the time the next is. -/
theorem closeActions_order {todo : List CloseAction} (h : todo <:+ closeActions) (speed : Speed) :
    (.set speed ∉ todo → .interrupt speed ∉ todo) ∧
    (.join speed ∉ todo → .set speed ∉ todo) ∧
    (.clear speed ∉ todo → .join speed ∉ todo) := by
  rw [← List.mem_tails] at h
  revert todo
  cases speed <;> decide

/-- No action is done twice. -/
theorem not_mem_of_cons_suffix {a : CloseAction} {todo : List CloseAction}
    (h : (a :: todo) <:+ closeActions) : a ∉ todo := by
  have hnodup : closeActions.Nodup := by decide
  exact (List.nodup_cons.mp (h.sublist.nodup hnodup)).1

end V2XHub.Tmx
