import Mathlib.Data.List.Basic
import V2XHub.Lib.RefCount
import V2XHub.Lib.Run

/-!
# The message manager

Incoming messages are handed to worker threads, each with a queue of its own. `ThreadGroup::assign`
keeps the messages of one source, a nonzero group and id, on one thread: it counts the messages of
the source that are under way and remembers the thread while there are any. When a worker is done
with a message it pushes a clean-up note to its outgoing queue, and the output thread, which empties
these queues, lowers the count (`unassign`).

A message that is dropped, and a note that is refused by a full queue, leaves the count raised for
ever. The order of the messages of a source does not suffer from it.
-/

namespace V2XHub.Tmx

open V2XHub.Lib

/-- The group and the id of a source. Zero for both is no source. -/
abbrev Source := UInt8 × UInt8

structure RawIncomingMessage (α : Type) where
  groupId : UInt8
  uniqId : UInt8
  message : α
  /-- how many messages had been assigned before it -/
  serial : Nat
  deriving DecidableEq, Repr

/-- With a message to broadcast, or the note that one of that source has been worked off. -/
structure RawOutgoingMessage (α : Type) where
  groupId : UInt8 := 0
  uniqId : UInt8 := 0
  msg : Option α := none
  deriving DecidableEq, Repr

def RawIncomingMessage.source {α : Type} (item : RawIncomingMessage α) : Source :=
  (item.groupId, item.uniqId)

def RawOutgoingMessage.source {α : Type} (out : RawOutgoingMessage α) : Source :=
  (out.groupId, out.uniqId)

inductive ThreadGroupAssignmentStrategy
  | roundRobin
  | random
  | shortestQueue
  deriving DecidableEq, Repr

structure SourceInfo (n : Nat) where
  count : Int := 0
  threadId : Option (Fin n) := none
  deriving DecidableEq, Repr

/-- A message that a worker has taken off its queue. -/
structure Taken (n : Nat) (α : Type) where
  thread : Fin n
  item : RawIncomingMessage α
  /-- handed to the handler, not dropped -/
  handled : Bool
  deriving DecidableEq, Repr

/-- `Capacity` of `LockFreeThread`, of both queues. -/
def queueCapacity : Nat := 20480

/-- The worker threads with their queues and the assignments. `taken` and `leaked` record what has
happened: the messages that workers took, and for each source the messages whose count nothing will
lower. -/
structure MessageManager (n : Nat) (α : Type) where
  inQ : Fin n → List (RawIncomingMessage α) := fun _ => []
  outQ : Fin n → List (RawOutgoingMessage α) := fun _ => []
  assignments : Source → SourceInfo n := fun _ => {}
  strategy : ThreadGroupAssignmentStrategy := .roundRobin
  next : { tId : Nat // 0 < n → tId < n } := ⟨0, id⟩
  broadcast : List α := []
  assigned : Nat := 0
  taken : List (Taken n α) := []
  leaked : Source → Nat := fun _ => 0

namespace MessageManager

variable {n : Nat} {α : Type}

/-- One more message of the source that nothing cleans up after. -/
def leak (s : MessageManager n α) (src : Source) : MessageManager n α :=
  { s with leaked := Function.update s.leaked src (s.leaked src + 1) }

/-- `LockFreeThread::push`. -/
def push (s : MessageManager n α) (tId : Fin n) (item : RawIncomingMessage α) :
    MessageManager n α :=
  if (s.inQ tId).length < queueCapacity then
    { s with inQ := Function.update s.inQ tId (s.inQ tId ++ [item]) }
  else
    s.leak item.source

/-- `LockFreeThread::push_out`. -/
def pushOut (s : MessageManager n α) (tId : Fin n) (out : RawOutgoingMessage α) :
    MessageManager n α :=
  if (s.outQ tId).length < queueCapacity then
    { s with outQ := Function.update s.outQ tId (s.outQ tId ++ [out]) }
  else
    s.leak out.source

/-- The thread the strategy chooses; `random` is what the generator returns. -/
def chooseThread (s : MessageManager n α) (h : 0 < n) (random : Nat) : Fin n :=
  match s.strategy with
  | .roundRobin => ⟨s.next, s.next.property h⟩
  | .random => ⟨random % n, Nat.mod_lt random h⟩
  | .shortestQueue =>
      (List.finRange n).foldl
        (fun tId i => if (s.inQ i).length < (s.inQ tId).length then i else tId) ⟨0, h⟩

/-- `next` after a choice. -/
def nextAfter (s : MessageManager n α) : { tId : Nat // 0 < n → tId < n } :=
  match s.strategy with
  | .roundRobin =>
      if h : s.next + 1 ≥ n then ⟨0, id⟩ else ⟨s.next + 1, fun _ => Nat.not_le.mp h⟩
  | _ => s.next

/-- The thread for a message: the one remembered for its source, else one that the strategy
chooses. -/
def threadFor (s : MessageManager n α) (h : 0 < n) (src : Source) (random : Nat) : Fin n :=
  if src = (0, 0) then s.chooseThread h random
  else (s.assignments src).threadId.getD (s.chooseThread h random)

def assign (s : MessageManager n α) (groupId uniqId : UInt8) (message : α) (random : Nat) :
    MessageManager n α :=
  if h : 0 < n then
    let src := (groupId, uniqId)
    let info := s.assignments src
    let tId := s.threadFor h src random
    let chosen := info.threadId = none ∨ src = (0, 0)
    let s' : MessageManager n α :=
      { s with
        assignments := Function.update s.assignments src
          { count := info.count + 1, threadId := some tId }
        next := if chosen then s.nextAfter else s.next
        assigned := s.assigned + 1 }
    s'.push tId { groupId, uniqId, message, serial := s.assigned }
  else
    s

def unassign (s : MessageManager n α) (src : Source) : MessageManager n α :=
  let info := s.assignments src
  { s with
    assignments := Function.update s.assignments src
      { count := info.count - 1, threadId := holderAfter info.count info.threadId } }

/-- The queue is longer than the overflow capacity. The message that is worked on still counts. -/
def overflows (s : MessageManager n α) (tId : Fin n) (overflow : UInt16) : Bool :=
  overflow > 0 ∧ (s.inQ tId).length > overflow.toNat

/-- The message is off the queue, `rest` is left. -/
def take (s : MessageManager n α) (tId : Fin n) (item : RawIncomingMessage α)
    (rest : List (RawIncomingMessage α)) (handled : Bool) : MessageManager n α :=
  { s with
    inQ := Function.update s.inQ tId rest
    taken := s.taken ++ [{ thread := tId, item, handled }] }

/-- `doWork` of the oldest message. What the handler sends out are steps of their own. -/
def doWork (s : MessageManager n α) (tId : Fin n) (overflow : UInt16) :
    Option (MessageManager n α) :=
  match s.inQ tId with
  | [] => none
  | item :: rest =>
      if s.overflows tId overflow then
        -- the early return: no note is pushed
        some ((s.take tId item rest false).leak item.source)
      else
        some ((s.take tId item rest true).pushOut tId
          { groupId := item.groupId, uniqId := item.uniqId })

/-- The output thread pops from one of the queues, and cleans up. -/
def output (s : MessageManager n α) (tId : Fin n) : Option (MessageManager n α) :=
  match s.outQ tId with
  | [] => none
  | out :: rest =>
      let s : MessageManager n α :=
        { s with
          outQ := Function.update s.outQ tId rest
          broadcast := s.broadcast ++ out.msg.toList }
      some (s.unassign out.source)

/-- The atomic steps. The overflow capacity and the strategy may change at any time. -/
inductive Event (n : Nat) (α : Type)
  | assign (groupId uniqId : UInt8) (message : α) (random : Nat)
  | doWork (tId : Fin n) (overflow : UInt16)
  | outgoingMessage (tId : Fin n) (msg : α)
  | output (tId : Fin n)
  | setStrategy (strategy : ThreadGroupAssignmentStrategy)

def step (s : MessageManager n α) : Event n α → Option (MessageManager n α)
  | .assign groupId uniqId message random => some (s.assign groupId uniqId message random)
  | .doWork tId overflow => s.doWork tId overflow
  | .outgoingMessage tId msg => some (s.pushOut tId { msg := some msg })
  | .output tId => s.output tId
  | .setStrategy strategy => some { s with strategy }

/-! ## The count stands for the messages under way -/

section Ledger

variable {s t : MessageManager n α} {src : Source} {tId : Fin n} {item : RawIncomingMessage α}
  {out : RawOutgoingMessage α} {own : Bool}

/-- The messages of a source that are with a thread: queued, or worked off with the note still to be
read. -/
def uses (s : MessageManager n α) (src : Source) (tId : Fin n) : Nat :=
  (s.inQ tId).countP (fun item => item.source = src) +
    (s.outQ tId).countP (fun out => out.source = src)

def Ledger (s : MessageManager n α) (src : Source) : Prop :=
  Accounted (s.assignments src).count (s.assignments src).threadId (s.uses src) (s.leaked src)

theorem Ledger.congr (h : s.Ledger src) (hinfo : t.assignments src = s.assignments src)
    (huses : t.uses src = s.uses src) (hleaked : t.leaked src = s.leaked src) :
    t.Ledger src := by
  unfold Ledger
  rw [hinfo, huses, hleaked]
  exact h

/-- Queues that differ at one thread only. -/
theorem uses_eq_update (s t : MessageManager n α) (src : Source) (tId : Fin n)
    (hin : ∀ i, i ≠ tId → t.inQ i = s.inQ i)
    (hout : ∀ i, i ≠ tId → t.outQ i = s.outQ i) :
    t.uses src = Function.update (s.uses src) tId (t.uses src tId) := by
  funext i
  by_cases hi : i = tId
  · rw [hi, Function.update_self]
  · rw [Function.update_of_ne hi]
    unfold uses
    rw [hin i hi, hout i hi]

/-- Something is added to a queue of a thread, or gets lost. `own`: it is of the source. -/
structure Adds (s : MessageManager n α) (src : Source) (tId : Fin n) (own : Bool)
    (t : MessageManager n α) : Prop where
  assignments : t.assignments = s.assignments
  kept_or_lost :
    t.uses src = Function.update (s.uses src) tId (s.uses src tId + own.toNat) ∧
      t.leaked src = s.leaked src ∨
    t.uses src = s.uses src ∧ t.leaked src = s.leaked src + own.toNat

theorem leak_adds (s : MessageManager n α) (src src' : Source) (tId : Fin n) :
    s.Adds src tId (src' = src) (s.leak src') where
  assignments := rfl
  kept_or_lost := by
    refine .inr ⟨rfl, ?_⟩
    unfold leak
    by_cases h : src' = src
    · subst h
      simp
    · simp [Function.update_of_ne (Ne.symm h), h]

theorem push_adds (s : MessageManager n α) (src : Source) (tId : Fin n)
    (item : RawIncomingMessage α) : s.Adds src tId (item.source = src) (s.push tId item) := by
  unfold push
  split
  · refine ⟨rfl, .inl ⟨?_, rfl⟩⟩
    rw [uses_eq_update s _ src tId]
    · congr 1
      by_cases h : item.source = src
      · simp [uses, h]
        omega
      · simp [uses, h]
    · intro i hi
      exact Function.update_of_ne hi ..
    · intro i _
      rfl
  · exact leak_adds s src item.source tId

theorem pushOut_adds (s : MessageManager n α) (src : Source) (tId : Fin n)
    (out : RawOutgoingMessage α) : s.Adds src tId (out.source = src) (s.pushOut tId out) := by
  unfold pushOut
  split
  · refine ⟨rfl, .inl ⟨?_, rfl⟩⟩
    rw [uses_eq_update s _ src tId]
    · congr 1
      by_cases h : out.source = src
      · simp [uses, h]
        omega
      · simp [uses, h]
    · intro i _
      rfl
    · intro i hi
      exact Function.update_of_ne hi ..
  · exact leak_adds s src out.source tId

theorem Adds.ledger_of_other (h : s.Adds src tId own t) (hown : own = false) (hs : s.Ledger src) :
    t.Ledger src := by
  subst hown
  rcases h.kept_or_lost with ⟨huses, hleaked⟩ | ⟨huses, hleaked⟩
  · refine hs.congr (by rw [h.assignments]) ?_ hleaked
    rw [huses]
    exact Function.update_eq_self ..
  · exact hs.congr (by rw [h.assignments]) huses hleaked

/-- The count has been raised for what is added, so that it must be with the thread, or lost. -/
theorem Adds.ledger_of_own (h : s.Adds src tId own t) (hown : own = true)
    (hs : Accounted (s.assignments src).count (s.assignments src).threadId
      (Function.update (s.uses src) tId (s.uses src tId + 1)) (s.leaked src)) :
    t.Ledger src := by
  subst hown
  unfold Ledger
  rw [h.assignments]
  rcases h.kept_or_lost with ⟨huses, hleaked⟩ | ⟨huses, hleaked⟩
  · rw [huses, hleaked]
    exact hs
  · rw [huses, hleaked]
    have hlost := hs.lose (Function.update_self tId (s.uses src tId + 1) (s.uses src))
    rw [Function.update_idem, Function.update_eq_self] at hlost
    exact hlost

theorem threadFor_eq (h : 0 < n) (hsrc : src ≠ (0, 0)) (random : Nat) :
    (s.assignments src).threadId = none ∨
      (s.assignments src).threadId = some (s.threadFor h src random) := by
  unfold threadFor
  rw [if_neg hsrc]
  cases (s.assignments src).threadId with
  | none => exact .inl rfl
  | some tId => exact .inr rfl

theorem Ledger.assign (h : s.Ledger src) (hsrc : src ≠ (0, 0)) (groupId uniqId : UInt8)
    (message : α) (random : Nat) : (s.assign groupId uniqId message random).Ledger src := by
  unfold MessageManager.assign
  split
  · next hn =>
      by_cases hown : (groupId, uniqId) = src
      · subst hown
        refine (push_adds ..).ledger_of_own (decide_eq_true rfl) ?_
        simp only [Function.update_self]
        exact Accounted.acquire h (threadFor_eq hn hsrc random)
      · refine (push_adds _ src ..).ledger_of_other (decide_eq_false hown) ?_
        exact h.congr (Function.update_of_ne (Ne.symm hown) ..) rfl rfl
  · exact h

/-- Taking a message off the queue leaves one use less with the thread. -/
theorem uses_take (src : Source) {rest : List (RawIncomingMessage α)}
    (hq : s.inQ tId = item :: rest) (handled : Bool) :
    s.uses src = Function.update ((s.take tId item rest handled).uses src) tId
      ((s.take tId item rest handled).uses src tId + (decide (item.source = src)).toNat) := by
  rw [uses_eq_update (s.take tId item rest handled) s src tId]
  · congr 1
    by_cases h : item.source = src
    · simp [uses, take, hq, h]
      omega
    · simp [uses, take, hq, h]
  · intro i hi
    exact (Function.update_of_ne hi ..).symm
  · intro i _
    rfl

/-- A message that is taken off and then leaves a note, or is lost. -/
theorem Ledger.take_adds (h : s.Ledger src) {rest : List (RawIncomingMessage α)}
    (hq : s.inQ tId = item :: rest) {handled : Bool}
    (hadds : (s.take tId item rest handled).Adds src tId (item.source = src) t) :
    t.Ledger src := by
  have huses := uses_take src hq handled
  unfold Ledger at h
  rw [huses] at h
  by_cases hown : item.source = src
  · rw [decide_eq_true hown] at h hadds
    exact hadds.ledger_of_own rfl h
  · rw [decide_eq_false hown, Bool.toNat_false, Nat.add_zero, Function.update_eq_self] at h
    exact hadds.ledger_of_other (decide_eq_false hown) h

/-- What `doWork` does. -/
theorem doWork_cases {overflow : UInt16} (hstep : s.doWork tId overflow = some t) :
    ∃ item rest, s.inQ tId = item :: rest ∧
      (s.overflows tId overflow = true ∧ t = (s.take tId item rest false).leak item.source ∨
        s.overflows tId overflow = false ∧
          t = (s.take tId item rest true).pushOut tId
            { groupId := item.groupId, uniqId := item.uniqId }) := by
  unfold doWork at hstep
  split at hstep
  · cases hstep
  · next item rest hq =>
      refine ⟨item, rest, hq, ?_⟩
      split at hstep
      · next hover => exact .inl ⟨hover, (Option.some.inj hstep).symm⟩
      · next hover =>
          exact .inr ⟨Bool.eq_false_iff.mpr hover, (Option.some.inj hstep).symm⟩

theorem Ledger.doWork (h : s.Ledger src) {overflow : UInt16}
    (hstep : s.doWork tId overflow = some t) : t.Ledger src := by
  obtain ⟨item, rest, hq, ⟨_, rfl⟩ | ⟨_, rfl⟩⟩ := doWork_cases hstep
  · exact h.take_adds hq (leak_adds _ src item.source tId)
  · exact h.take_adds hq (pushOut_adds (s.take tId item rest true) src tId
      { groupId := item.groupId, uniqId := item.uniqId })

theorem Ledger.output (h : s.Ledger src) (hstep : s.output tId = some t) : t.Ledger src := by
  unfold MessageManager.output at hstep
  split at hstep
  · cases hstep
  · next out rest hq =>
      cases hstep
      have hqueue : (Function.update s.outQ tId rest) tId = rest := Function.update_self ..
      by_cases hown : out.source = src
      · subst hown
        have hleft : s.uses out.source tId =
            uses { s with outQ := Function.update s.outQ tId rest } out.source tId + 1 := by
          simp [uses, hq]
          omega
        have hreleased := Accounted.release h hleft
        unfold Ledger unassign
        simp only [Function.update_self]
        convert hreleased using 1
        exact uses_eq_update s _ _ tId (fun i _ => rfl) (fun i hi => Function.update_of_ne hi ..)
      · refine h.congr (Function.update_of_ne (Ne.symm hown) ..) ?_ rfl
        funext i
        show uses { s with outQ := Function.update s.outQ tId rest } src i = s.uses src i
        by_cases hi : i = tId
        · subst hi
          simp [uses, hq, hown]
        · simp [uses, Function.update_of_ne hi]

theorem Ledger.step (h : s.Ledger src) (hsrc : src ≠ (0, 0)) {e : Event n α}
    (hstep : s.step e = some t) : t.Ledger src := by
  cases e with
  | assign groupId uniqId message random =>
      cases hstep
      exact h.assign hsrc groupId uniqId message random
  | doWork tId overflow => exact h.doWork hstep
  | outgoingMessage tId msg =>
      cases hstep
      exact (pushOut_adds s src tId _).ledger_of_other (decide_eq_false (Ne.symm hsrc)) h
  | output tId => exact h.output hstep
  | setStrategy strategy =>
      cases hstep
      exact h

end Ledger

/-! ## Messages of a source stay in order -/

section Order

variable {s t : MessageManager n α} {src : Source} {tId : Fin n} {item : RawIncomingMessage α}

/-- Serial numbers go up: in each queue, in what was taken of the source, and from what was taken to
what is queued. -/
structure Ordered (s : MessageManager n α) (src : Source) : Prop where
  sorted : ∀ i, (s.inQ i).Pairwise fun x y => x.serial < y.serial
  queued_lt : ∀ i, ∀ x ∈ s.inQ i, x.serial < s.assigned
  taken_lt : ∀ k ∈ s.taken, k.item.serial < s.assigned
  taken_sorted : (s.taken.filter fun k => k.item.source = src).Pairwise
    fun k k' => k.item.serial < k'.item.serial
  taken_before : ∀ k ∈ s.taken, k.item.source = src → ∀ i, ∀ x ∈ s.inQ i, x.source = src →
    k.item.serial < x.serial

/-- The parts of the state that order is about. -/
theorem Ordered.congr (h : s.Ordered src) (hin : t.inQ = s.inQ) (htaken : t.taken = s.taken)
    (hassigned : t.assigned = s.assigned) : t.Ordered src := by
  obtain ⟨h1, h2, h3, h4, h5⟩ := h
  constructor
  · rwa [hin]
  · rwa [hin, hassigned]
  · rwa [htaken, hassigned]
  · rwa [htaken]
  · rwa [htaken, hin]

theorem Ordered.pushOut (h : s.Ordered src) (tId : Fin n) (out : RawOutgoingMessage α) :
    (s.pushOut tId out).Ordered src := by
  unfold MessageManager.pushOut
  split
  · exact h.congr rfl rfl rfl
  · exact h.congr rfl rfl rfl

/-- The queued messages of a source are with the thread that is remembered for it. -/
theorem Ledger.thread_of_queued (h : s.Ledger src) {x : RawIncomingMessage α}
    (hx : x ∈ s.inQ tId) (hsrc : x.source = src) :
    (s.assignments src).threadId = some tId := by
  apply Accounted.holder_of_uses h
  have hpos : 0 < (s.inQ tId).countP fun item => item.source = src :=
    List.countP_pos_iff.mpr ⟨x, hx, decide_eq_true hsrc⟩
  exact Nat.add_pos_left hpos _

theorem Ledger.together (h : s.Ledger src) {i j : Fin n} {x y : RawIncomingMessage α}
    (hx : x ∈ s.inQ i) (hy : y ∈ s.inQ j) (hxsrc : x.source = src) (hysrc : y.source = src) :
    i = j := by
  have hi := h.thread_of_queued hx hxsrc
  have hj := h.thread_of_queued hy hysrc
  exact Option.some.inj (hi.symm.trans hj)

theorem Ordered.push (h : s.Ordered src) (hnew : item.serial = s.assigned)
    (hin : t.inQ = Function.update s.inQ tId (s.inQ tId ++ [item])) (htaken : t.taken = s.taken)
    (hassigned : t.assigned = s.assigned + 1) : t.Ordered src := by
  -- what is in a queue now was there before, or is the new message
  have hmem : ∀ i, ∀ x ∈ t.inQ i, x ∈ s.inQ i ∨ x = item := by
    intro i x hx
    rw [hin] at hx
    by_cases hi : i = tId
    · subst hi
      rw [Function.update_self] at hx
      rcases List.mem_append.mp hx with hx | hx
      · exact .inl hx
      · exact .inr (List.mem_singleton.mp hx)
    · rw [Function.update_of_ne hi] at hx
      exact .inl hx
  constructor
  · intro i
    rw [hin]
    by_cases hi : i = tId
    · subst hi
      rw [Function.update_self, List.pairwise_append]
      refine ⟨h.sorted i, List.pairwise_singleton _ _, ?_⟩
      intro x hx y hy
      rw [List.mem_singleton.mp hy, hnew]
      exact h.queued_lt i x hx
    · rw [Function.update_of_ne hi]
      exact h.sorted i
  · intro i x hx
    rw [hassigned]
    rcases hmem i x hx with hx | rfl
    · exact Nat.lt_succ_of_lt (h.queued_lt i x hx)
    · rw [hnew]
      exact Nat.lt_succ_self _
  · intro k hk
    rw [htaken] at hk
    rw [hassigned]
    exact Nat.lt_succ_of_lt (h.taken_lt k hk)
  · rw [htaken]
    exact h.taken_sorted
  · intro k hk hksrc i x hx hxsrc
    rw [htaken] at hk
    rcases hmem i x hx with hx | rfl
    · exact h.taken_before k hk hksrc i x hx hxsrc
    · rw [hnew]
      exact h.taken_lt k hk

theorem Ordered.assign (h : s.Ordered src) (groupId uniqId : UInt8) (message : α)
    (random : Nat) : (s.assign groupId uniqId message random).Ordered src := by
  unfold MessageManager.assign
  split
  · simp only [MessageManager.push]
    split
    · exact h.push rfl rfl rfl rfl
    · -- refused: only the number of messages has changed
      obtain ⟨h1, h2, h3, h4, h5⟩ := h
      exact ⟨h1, fun i x hx => Nat.lt_succ_of_lt (h2 i x hx),
        fun k hk => Nat.lt_succ_of_lt (h3 k hk), h4, h5⟩
  · exact h

theorem Ordered.take (h : s.Ordered src) (hledger : s.Ledger src)
    {rest : List (RawIncomingMessage α)} (hq : s.inQ tId = item :: rest) (handled : Bool) :
    (s.take tId item rest handled).Ordered src := by
  have hhead : item ∈ s.inQ tId := by
    rw [hq]
    exact List.mem_cons_self
  have hsorted := h.sorted tId
  rw [hq, List.pairwise_cons] at hsorted
  have hmem : ∀ i, ∀ x ∈ (s.take tId item rest handled).inQ i, x ∈ s.inQ i := by
    intro i x hx
    by_cases hi : i = tId
    · subst hi
      rw [hq]
      exact List.mem_cons_of_mem _ (by simpa [MessageManager.take] using hx)
    · simpa [MessageManager.take, Function.update_of_ne hi] using hx
  constructor
  · intro i
    by_cases hi : i = tId
    · subst hi
      simpa [MessageManager.take] using hsorted.2
    · simpa [MessageManager.take, Function.update_of_ne hi] using h.sorted i
  · intro i x hx
    exact h.queued_lt i x (hmem i x hx)
  · intro k hk
    rcases List.mem_append.mp hk with hk | hk
    · exact h.taken_lt k hk
    · rw [List.mem_singleton.mp hk]
      exact h.queued_lt tId item hhead
  · show ((s.taken ++ [_]).filter _).Pairwise _
    rw [List.filter_append, List.pairwise_append]
    refine ⟨h.taken_sorted, ?_, fun k hk k' hk' => ?_⟩
    · exact List.Pairwise.filter _ (List.pairwise_singleton _ _)
    · obtain ⟨hk, hksrc⟩ := List.mem_filter.mp hk
      obtain ⟨hk', hksrc'⟩ := List.mem_filter.mp hk'
      rw [List.mem_singleton.mp hk'] at hksrc' ⊢
      exact h.taken_before k hk (of_decide_eq_true hksrc) tId item hhead
        (of_decide_eq_true hksrc')
  · intro k hk hksrc i x hx hxsrc
    rcases List.mem_append.mp hk with hk | hk
    · exact h.taken_before k hk hksrc i x (hmem i x hx) hxsrc
    · -- the rest of the source is behind the message, in the same queue
      rw [List.mem_singleton.mp hk] at hksrc ⊢
      obtain rfl : i = tId := hledger.together (hmem i x hx) hhead hxsrc hksrc
      exact hsorted.1 x (by simpa [MessageManager.take] using hx)

theorem Ordered.step (h : s.Ordered src) (hledger : s.Ledger src) {e : Event n α}
    (hstep : s.step e = some t) : t.Ordered src := by
  cases e with
  | assign groupId uniqId message random =>
      cases hstep
      exact h.assign groupId uniqId message random
  | doWork tId overflow =>
      obtain ⟨item, rest, hq, ⟨_, rfl⟩ | ⟨_, rfl⟩⟩ := doWork_cases hstep
      · exact (h.take hledger hq false).congr rfl rfl rfl
      · exact (h.take hledger hq true).pushOut tId _
  | outgoingMessage tId msg =>
      cases hstep
      exact h.pushOut tId _
  | output tId =>
      simp only [MessageManager.step, MessageManager.output] at hstep
      split at hstep
      · cases hstep
      · cases hstep
        exact h.congr rfl rfl rfl
  | setStrategy strategy =>
      cases hstep
      exact h.congr rfl rfl rfl

end Order

/-! ## The laws -/

/-- The messages of a source that were handed to the handler, in that order. -/
def processed (s : MessageManager n α) (src : Source) : List (RawIncomingMessage α) :=
  (s.taken.filter fun k => k.handled && k.item.source = src).map Taken.item

/-- The order of the messages of a source: they are processed as they were assigned, those that wait
do so with one thread, and none is taken while an earlier one waits. -/
structure InOrder (s : MessageManager n α) (src : Source) : Prop where
  processed : (s.processed src).Pairwise fun x y => x.serial < y.serial
  together : ∀ i j, ∀ x ∈ s.inQ i, ∀ y ∈ s.inQ j, x.source = src → y.source = src → i = j
  overtaken : ∀ k ∈ s.taken, k.item.source = src →
    ∀ i, ∀ x ∈ s.inQ i, x.source = src → k.item.serial < x.serial

theorem Ordered.inOrder {s : MessageManager n α} {src : Source} (h : s.Ordered src)
    (hledger : s.Ledger src) : s.InOrder src where
  processed := by
    unfold MessageManager.processed
    rw [List.pairwise_map]
    refine h.taken_sorted.sublist ?_
    apply List.monotone_filter_right _
    intro k hk
    exact (Bool.and_eq_true_iff.mp hk).2
  together := fun _ _ _ hx _ hy hxsrc hysrc => hledger.together hx hy hxsrc hysrc
  overtaken := h.taken_before

theorem ledger_initial (src : Source) : Ledger ({} : MessageManager n α) src :=
  Accounted.initial

theorem ordered_initial (src : Source) : Ordered ({} : MessageManager n α) src where
  sorted := fun _ => List.Pairwise.nil
  queued_lt := fun _ _ hx => absurd hx List.not_mem_nil
  taken_lt := fun _ hk => absurd hk List.not_mem_nil
  taken_sorted := List.Pairwise.nil
  taken_before := fun _ hk => absurd hk List.not_mem_nil

/-- **Per-source order**: in every interleaving, with any strategy and any overflow capacity. -/
theorem source_in_order {s : MessageManager n α} {es : List (Event n α)}
    (run : Run (Steps step) {} es s) (src : Source) (hsrc : src ≠ (0, 0)) : s.InOrder src := by
  have hinv : s.Ledger src ∧ s.Ordered src := by
    refine run.invariant (I := fun s => s.Ledger src ∧ s.Ordered src) ?_
      ⟨ledger_initial src, ordered_initial src⟩
    rintro s e t ⟨hledger, hordered⟩ hstep
    exact ⟨hledger.step hsrc hstep, hordered.step hledger hstep⟩
  exact hinv.2.inOrder hinv.1

/-- Two messages of a source and one of another on two threads, the first dropped for overflow. -/
theorem source_in_order_overflow :
    ∃ (es : List (Event 2 Unit)) (s : MessageManager 2 Unit), Run (Steps step) {} es s ∧
      s.taken.length = 2 ∧ ((1, 7) : Source) ≠ (0, 0) ∧ s.InOrder (1, 7) := by
  have run : Run (Steps step) ({} : MessageManager 2 Unit)
      [.assign 1 7 () 0, .assign 1 8 () 0, .assign 1 7 () 0, .doWork 0 1, .doWork 0 1] _ :=
    .cons rfl (.cons rfl (.cons rfl (.cons rfl (.cons rfl .nil))))
  exact ⟨_, _, run, rfl, by decide, source_in_order run (1, 7) (by decide)⟩

/-! ### Forgetting the thread -/

/-- Nothing of the source is queued, and no note about it is to be read. -/
def Idle (s : MessageManager n α) (src : Source) : Prop :=
  (∀ i, ∀ x ∈ s.inQ i, x.source ≠ src) ∧ ∀ i, ∀ out ∈ s.outQ i, out.source ≠ src

instance (s : MessageManager n α) (src : Source) : Decidable (s.Idle src) :=
  inferInstanceAs (Decidable (_ ∧ _))

/-- The step does not lose a message of the source, nor the note about it: the queue of the thread
has room, and so has its outgoing queue, and it is not above the overflow capacity. -/
def keeps (s : MessageManager n α) (src : Source) : Event n α → Bool
  | .assign groupId uniqId _ random =>
      if h : 0 < n then
        (groupId, uniqId) ≠ src ∨
          (s.inQ (s.threadFor h (groupId, uniqId) random)).length < queueCapacity
      else true
  | .doWork tId overflow =>
      match s.inQ tId with
      | [] => true
      | item :: _ =>
          item.source ≠ src ∨
            (s.overflows tId overflow = false ∧ (s.outQ tId).length < queueCapacity)
  | _ => true

section Leaks

variable {s t : MessageManager n α} {src : Source}

theorem leaked_leak (s : MessageManager n α) (src src' : Source) :
    (s.leak src').leaked src = s.leaked src + (decide (src' = src)).toNat := by
  unfold leak
  by_cases h : src' = src
  · subst h
    simp
  · simp [Function.update_of_ne (Ne.symm h), h]

theorem leaked_pushOut (s : MessageManager n α) (src : Source) (tId : Fin n)
    (out : RawOutgoingMessage α) :
    (s.pushOut tId out).leaked src = s.leaked src +
      (decide (out.source = src ∧ ¬ (s.outQ tId).length < queueCapacity)).toNat := by
  unfold pushOut
  split
  · next hroom => simp [hroom]
  · next hfull =>
      rw [leaked_leak]
      simp [hfull]

theorem leaked_assign (s : MessageManager n α) (src : Source) (groupId uniqId : UInt8)
    (message : α) (random : Nat) :
    (s.assign groupId uniqId message random).leaked src =
      s.leaked src + (!s.keeps src (.assign groupId uniqId message random)).toNat := by
  unfold assign keeps
  split
  · simp only [push]
    split
    · next hroom => simp [hroom]
    · next hfull =>
        rw [leaked_leak]
        by_cases hown : (groupId, uniqId) = src
        · subst hown
          simp [RawIncomingMessage.source, hfull]
        · simp [RawIncomingMessage.source, hown]
  · simp

theorem leaked_doWork {tId : Fin n} {overflow : UInt16} (hstep : s.doWork tId overflow = some t) :
    t.leaked src = s.leaked src + (!s.keeps src (.doWork tId overflow)).toNat := by
  obtain ⟨item, rest, hq, ⟨hover, rfl⟩ | ⟨hover, rfl⟩⟩ := doWork_cases hstep
  · rw [leaked_leak]
    simp [keeps, hq, hover, take]
  · rw [leaked_pushOut]
    by_cases hown : item.source = src
    · have hnote : RawOutgoingMessage.source (α := α)
          { groupId := item.groupId, uniqId := item.uniqId } = src := hown
      by_cases hroom : (s.outQ tId).length < queueCapacity
      · simp [keeps, hq, hover, take, hown, hnote, hroom]
      · simp [keeps, hq, hover, take, hown, hnote, hroom]
    · have hnote : RawOutgoingMessage.source (α := α)
          { groupId := item.groupId, uniqId := item.uniqId } ≠ src := hown
      simp [keeps, hq, take, hown, hnote]

/-- A step leaks a message of the source exactly if it is not one that keeps them. -/
theorem leaked_step (hsrc : src ≠ (0, 0)) {e : Event n α} (hstep : s.step e = some t) :
    t.leaked src = s.leaked src + (!s.keeps src e).toNat := by
  cases e with
  | assign groupId uniqId message random =>
      cases hstep
      exact s.leaked_assign src groupId uniqId message random
  | doWork tId overflow => exact leaked_doWork hstep
  | outgoingMessage tId msg =>
      cases hstep
      rw [leaked_pushOut]
      have hnote : RawOutgoingMessage.source (α := α) { msg := some msg } ≠ src := Ne.symm hsrc
      simp [keeps, hnote]
  | output tId =>
      simp only [step, output] at hstep
      split at hstep
      · cases hstep
      · cases hstep
        rfl
  | setStrategy strategy =>
      cases hstep
      rfl

theorem leaked_le (hsrc : src ≠ (0, 0)) {es : List (Event n α)} (run : Run (Steps step) s es t) :
    s.leaked src ≤ t.leaked src := by
  refine run.invariant (I := fun u => s.leaked src ≤ u.leaked src) ?_ (Nat.le_refl _)
  intro u e u' hu hstep
  rw [leaked_step hsrc hstep]
  exact Nat.le_add_right_of_le hu

/-- Nothing of the source has leaked in a run exactly if all of its steps keep the messages. -/
theorem leaked_eq_iff (hsrc : src ≠ (0, 0)) {es : List (Event n α)}
    (run : Run (Steps step) s es t) :
    t.leaked src = s.leaked src ↔
      Run (Guarded (fun s e => s.keeps src e = true) (Steps step)) s es t := by
  -- on the run; the leaks of the first step and of the rest add up
  induction run with
  | nil => exact ⟨fun _ => .nil, fun _ => rfl⟩
  | @cons s u t e es hstep rest ih =>
      have hfirst := leaked_step hsrc hstep
      have hrest := leaked_le hsrc rest
      constructor
      · intro heq
        have hkeeps : s.keeps src e = true := by
          cases hcase : s.keeps src e with
          | true => rfl
          | false =>
              rw [hcase, Bool.not_false, Bool.toNat_true] at hfirst
              omega
        rw [hkeeps, Bool.not_true, Bool.toNat_false] at hfirst
        exact .cons ⟨hkeeps, hstep⟩ (ih.mp (by omega))
      · rintro (_ | ⟨⟨hkeeps, hstep'⟩, rest'⟩)
        obtain rfl := Option.some.inj (hstep.symm.trans hstep')
        rw [hkeeps, Bool.not_true, Bool.toNat_false] at hfirst
        rw [ih.mpr rest', hfirst]
        rfl

end Leaks

/-- **The thread is forgotten**: with nothing of a source under way, its count is back at zero and
no thread is remembered for it, exactly if no step of the run has lost a message of it. -/
theorem forgotten_iff_kept {s : MessageManager n α} {es : List (Event n α)}
    (run : Run (Steps step) {} es s) (src : Source) (hsrc : src ≠ (0, 0)) (hidle : s.Idle src) :
    ((s.assignments src).count = 0 ∧ (s.assignments src).threadId = none) ↔
      Run (Guarded (fun s e => s.keeps src e = true) (Steps step)) {} es s := by
  have hledger : s.Ledger src := by
    refine run.invariant (I := fun s => s.Ledger src) ?_ (ledger_initial src)
    intro s e t hledger hstep
    exact hledger.step hsrc hstep
  have huses : ∀ i, s.uses src i = 0 := by
    intro i
    have hin : (s.inQ i).countP (fun x => x.source = src) = 0 :=
      List.countP_eq_zero.mpr fun x hx => by simpa using hidle.1 i x hx
    have hout : (s.outQ i).countP (fun out => out.source = src) = 0 :=
      List.countP_eq_zero.mpr fun out hout => by simpa using hidle.2 i out hout
    unfold uses
    rw [hin, hout]
  rw [← leaked_eq_iff hsrc run]
  exact Accounted.free_iff hledger huses

/-- One message, handled and cleaned up after. -/
theorem forgotten_iff_kept_one :
    ∃ (es : List (Event 2 Unit)) (s : MessageManager 2 Unit), Run (Steps step) {} es s ∧
      ((1, 7) : Source) ≠ (0, 0) ∧ s.Idle (1, 7) ∧ s.assigned = 1 ∧
      Run (Guarded (fun s e => s.keeps (1, 7) e = true) (Steps step)) {} es s := by
  have run : Run (Steps step) ({} : MessageManager 2 Unit)
      [.assign 1 7 () 0, .doWork 0 100, .output 0] _ :=
    .cons rfl (.cons rfl (.cons rfl .nil))
  refine ⟨_, _, run, by decide, ?idle, rfl, ?_⟩
  case idle => decide +kernel
  exact (forgotten_iff_kept run (1, 7) (by decide) (by decide +kernel)).mp ⟨rfl, rfl⟩

/-- With an overflow capacity of one, the first of two messages is dropped and never cleaned up
after. -/
theorem dropped_message_keeps_thread :
    ¬ ∀ (n : Nat) (α : Type) (es : List (Event n α)) (s : MessageManager n α) (src : Source),
      Run (Steps step) {} es s → src ≠ (0, 0) → s.Idle src →
        (s.assignments src).count = 0 ∧ (s.assignments src).threadId = none := by
  intro h
  have run : Run (Steps step) ({} : MessageManager 1 Unit)
      [.assign 1 7 () 0, .assign 1 7 () 0, .doWork 0 1, .doWork 0 1, .output 0] _ :=
    .cons rfl (.cons rfl (.cons rfl (.cons rfl (.cons rfl .nil))))
  have hforgotten := h 1 Unit _ _ (1, 7) run (by decide) (by decide +kernel)
  exact absurd hforgotten.1 (by decide +kernel)

end MessageManager

end V2XHub.Tmx
