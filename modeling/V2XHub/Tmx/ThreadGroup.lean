import Mathlib.Data.List.Basic

/-!
# Thread groups

`ThreadGroup::set_size` adds threads to a group until it has the size asked for, and starts a thread
for each one it adds. Which one it starts is counted from zero in every call, so it is the one added
only while the group was empty: a call that enlarges a group starts its first threads once more, a
second consumer on their queues, and leaves the new ones alone.
-/

namespace V2XHub.Tmx

/-- A thread object, with the number of times it was started. Each time a system thread begins to
consume its queue, and none of them stops because of the next. -/
structure LockFreeThread where
  active : Bool := false
  starts : Nat := 0
  deriving DecidableEq, Repr

/-- `emplace_back`. -/
def LockFreeThread.new : LockFreeThread := {}

def LockFreeThread.start (t : LockFreeThread) : LockFreeThread :=
  { active := true, starts := t.starts + 1 }

namespace ThreadGroup

/-- The loop of `set_size`, from the index `i` on. -/
def grow (size i : Nat) (threads : List LockFreeThread) : List LockFreeThread :=
  if threads.length < size then
    grow size (i + 1) ((threads ++ [LockFreeThread.new]).modify i LockFreeThread.start)
  else threads
termination_by size - threads.length
decreasing_by
  rw [List.length_modify, List.length_append]
  simp only [List.length_cons, List.length_nil]
  omega

def setSize (threads : List LockFreeThread) (size : Nat) : List LockFreeThread :=
  grow size 0 threads

/-- Calls of `set_size` in a row. -/
def setSizes (threads : List LockFreeThread) (sizes : List Nat) : List LockFreeThread :=
  sizes.foldl setSize threads

/-- How often the thread at an index was started. -/
def startsAt (threads : List LockFreeThread) (j : Nat) : Nat :=
  (threads[j]?.map LockFreeThread.starts).getD 0

/-- Every thread object has been started exactly once. -/
def StartedOnce (threads : List LockFreeThread) : Prop := ∀ t ∈ threads, t.starts = 1

variable {threads : List LockFreeThread} {size : Nat}

/-- A group does not shrink, and one that is large enough stays as it is. -/
theorem grow_of_le (i : Nat) (h : size ≤ threads.length) : grow size i threads = threads := by
  rw [grow, if_neg (by omega)]

theorem length_grow (size i : Nat) (threads : List LockFreeThread) :
    (grow size i threads).length = max threads.length size := by
  fun_induction grow size i threads with
  | case1 i threads hlt ih =>
      rw [ih, List.length_modify, List.length_append]
      simp only [List.length_cons, List.length_nil]
      omega
  | case2 i threads hge => omega

theorem startsAt_append_new (threads : List LockFreeThread) (j : Nat) :
    startsAt (threads ++ [.new]) j = startsAt threads j := by
  unfold startsAt
  rw [List.getElem?_append]
  split_ifs with hlt
  · rfl
  · rw [List.getElem?_eq_none (Nat.le_of_not_lt hlt), List.getElem?_singleton]
    split_ifs <;> rfl

theorem startsAt_modify {i : Nat} (h : i < threads.length) (j : Nat) :
    startsAt (threads.modify i LockFreeThread.start) j =
      startsAt threads j + if j = i then 1 else 0 := by
  unfold startsAt
  rw [List.getElem?_modify]
  by_cases hji : j = i
  · subst hji
    simp [List.getElem?_eq_getElem h, LockFreeThread.start]
  · simp [hji, Ne.symm hji]

/-- **What a call starts**: as many threads as it adds, counted from the index it starts with. -/
theorem startsAt_grow {i : Nat} (h : i ≤ threads.length) (j : Nat) :
    startsAt (grow size i threads) j =
      startsAt threads j + if i ≤ j ∧ j < i + (size - threads.length) then 1 else 0 := by
  fun_induction grow size i threads with
  | case1 i threads hlt ih =>
      have hlength : ((threads ++ [LockFreeThread.new]).modify i LockFreeThread.start).length =
          threads.length + 1 := by simp
      rw [ih (by omega), startsAt_modify (by simp; omega), startsAt_append_new, hlength]
      split_ifs <;> omega
  | case2 i threads hge =>
      rw [if_neg (by omega)]
      rfl

theorem length_setSize (threads : List LockFreeThread) (size : Nat) :
    (setSize threads size).length = max threads.length size := length_grow size 0 threads

theorem startsAt_setSize (threads : List LockFreeThread) (size j : Nat) :
    startsAt (setSize threads size) j =
      startsAt threads j + if j < size - threads.length then 1 else 0 := by
  unfold setSize
  rw [startsAt_grow (Nat.zero_le _)]
  simp

theorem startedOnce_iff :
    StartedOnce threads ↔ ∀ j, j < threads.length → startsAt threads j = 1 := by
  unfold StartedOnce
  rw [List.forall_mem_iff_getElem]
  refine forall₂_congr fun j hj => ?_
  unfold startsAt
  rw [List.getElem?_eq_getElem hj]
  rfl

/-! ## Calls in a row -/

/-- A thread that was started twice stays so. -/
theorem startsAt_le_setSizes (threads : List LockFreeThread) (sizes : List Nat) (j : Nat) :
    startsAt threads j ≤ startsAt (setSizes threads sizes) j := by
  induction sizes generalizing threads with
  | nil => exact Nat.le_refl _
  | cons size sizes ih =>
      refine Nat.le_trans ?_ (ih (setSize threads size))
      rw [startsAt_setSize]
      exact Nat.le_add_right _ _

theorem length_le_setSizes (threads : List LockFreeThread) (sizes : List Nat) :
    threads.length ≤ (setSizes threads sizes).length := by
  induction sizes generalizing threads with
  | nil => exact Nat.le_refl _
  | cons size sizes ih =>
      refine Nat.le_trans ?_ (ih (setSize threads size))
      rw [length_setSize]
      exact Nat.le_max_left _ _

/-- The first call starts what it adds. -/
theorem startedOnce_setSize_nil (size : Nat) : StartedOnce (setSize [] size) := by
  rw [startedOnce_iff]
  intro j hj
  rw [length_setSize] at hj
  rw [startsAt_setSize, if_pos (by simpa using hj)]
  rfl

/-- A group that has threads, each started once, stays so exactly as long as no call enlarges it. -/
theorem startedOnce_setSizes_iff (hthreads : 0 < threads.length) (h : StartedOnce threads)
    (sizes : List Nat) :
    StartedOnce (setSizes threads sizes) ↔ ∀ size ∈ sizes, size ≤ threads.length := by
  induction sizes with
  | nil => exact iff_of_true h (List.forall_mem_nil _)
  | cons size sizes ih =>
      rw [List.forall_mem_cons]
      show StartedOnce (setSizes (setSize threads size) sizes) ↔ _
      by_cases hle : size ≤ threads.length
      · have hsame : setSize threads size = threads := grow_of_le 0 hle
        rw [hsame, ih]
        exact ⟨fun hsizes => ⟨hle, hsizes⟩, fun hsizes => hsizes.2⟩
      · -- the first thread is started a second time
        refine iff_of_false ?_ (fun hsizes => hle hsizes.1)
        intro honce
        have hlength : 0 < (setSizes (setSize threads size) sizes).length := by
          refine Nat.lt_of_lt_of_le ?_ (length_le_setSizes _ sizes)
          rw [length_setSize]
          omega
        have hfirst : startsAt threads 0 = 1 := startedOnce_iff.mp h 0 hthreads
        have htwice : startsAt (setSize threads size) 0 = 2 := by
          rw [startsAt_setSize, hfirst, if_pos (by omega)]
        have hle2 := startsAt_le_setSizes (setSize threads size) sizes 0
        have hone := startedOnce_iff.mp honce 0 hlength
        omega

/-- The size of the first call that adds threads. -/
def firstSize (sizes : List Nat) : Nat := (sizes.find? (0 < ·)).getD 0

/-- **Worker pools**: after any calls of `set_size` every thread object has been started exactly
once, if and only if no call asks for more threads than the first that asks for any. -/
theorem startedOnce_iff_firstSize (sizes : List Nat) :
    StartedOnce (setSizes [] sizes) ↔ ∀ size ∈ sizes, size ≤ firstSize sizes := by
  induction sizes with
  | nil => exact iff_of_true (List.forall_mem_nil _) (List.forall_mem_nil _)
  | cons size sizes ih =>
      rw [List.forall_mem_cons]
      show StartedOnce (setSizes (setSize [] size) sizes) ↔ _
      cases size with
      | zero =>
          have hempty : setSize [] 0 = [] := grow_of_le 0 (Nat.le_refl 0)
          rw [hempty, ih]
          exact ⟨fun h => ⟨Nat.zero_le _, h⟩, fun h => h.2⟩
      | succ size =>
          have hfirst : firstSize ((size + 1) :: sizes) = size + 1 := by simp [firstSize]
          have hlength : (setSize [] (size + 1)).length = size + 1 := by
            rw [length_setSize]
            exact Nat.max_eq_right (Nat.zero_le _)
          rw [startedOnce_setSizes_iff (by omega) (startedOnce_setSize_nil _), hfirst, hlength]
          exact ⟨fun h => ⟨Nat.le_refl _, h⟩, fun h => h.2⟩

/-- Two threads and then a third: the first one has two consumers, the third one has none. -/
theorem startedOnce_two_three :
    (setSizes [] [2, 3]).map LockFreeThread.starts = [2, 1, 0] ∧
      ¬ StartedOnce (setSizes [] [2, 3]) := by
  have hstarts : (setSizes [] [2, 3]).map LockFreeThread.starts = [2, 1, 0] := by
    simp [setSizes, setSize, grow, LockFreeThread.new, LockFreeThread.start]
  refine ⟨hstarts, fun honce => ?_⟩
  have hall : ∀ n ∈ (setSizes [] [2, 3]).map LockFreeThread.starts, n = 1 :=
    List.forall_mem_map.mpr honce
  rw [hstarts] at hall
  simp at hall

/-! ## The message manager -/

/-- `_numThreads` and the worker threads of a `TmxMessageManager`. -/
structure Workers where
  numThreads : Nat := 0
  workerThreads : List LockFreeThread := []
  deriving DecidableEq, Repr

/-- What sets the number of workers: the configuration that is read on registration, and its
changes. -/
inductive NumberEvent
  | registered (n : Nat)
  | configChanged (n : Nat)
  deriving DecidableEq, Repr

def Workers.start (s : Workers) : Workers :=
  if s.numThreads > s.workerThreads.length then
    { s with workerThreads := setSize s.workerThreads s.numThreads }
  else s

def Workers.step (s : Workers) : NumberEvent → Workers
  | .registered n => { s with numThreads := n }.start
  | .configChanged n =>
      if n > s.numThreads ∧ n < 512 then { s with numThreads := n }.start else s

theorem Workers.workerThreads_start (s : Workers) :
    s.start.workerThreads = setSize s.workerThreads s.numThreads := by
  unfold Workers.start
  split_ifs with hgt
  · rfl
  · exact (grow_of_le 0 (Nat.le_of_not_gt hgt)).symm

/-- The changes that are taken enlarge the group, the others would leave it alone. -/
theorem Workers.workerThreads_changes {s : Workers} (h : s.workerThreads.length = s.numThreads)
    (changes : List Nat) :
    ((changes.map .configChanged).foldl Workers.step s).workerThreads =
      setSizes s.workerThreads (changes.filter (· < 512)) := by
  induction changes generalizing s with
  | nil => rfl
  | cons m changes ih =>
      show ((changes.map .configChanged).foldl Workers.step
        (s.step (.configChanged m))).workerThreads = _
      by_cases hm : m < 512
      · rw [List.filter_cons_of_pos (by simpa using hm)]
        show _ = setSizes (setSize s.workerThreads m) (changes.filter (· < 512))
        by_cases hgt : m > s.numThreads
        · have hstep : s.step (.configChanged m) = { s with numThreads := m }.start :=
            if_pos ⟨hgt, hm⟩
          have hnum : ({ s with numThreads := m } : Workers).start.numThreads = m := by
            unfold Workers.start
            split_ifs <;> rfl
          have hlength : (setSize s.workerThreads m).length = m := by
            rw [length_setSize]
            exact Nat.max_eq_right (by omega)
          rw [hstep, ih, Workers.workerThreads_start]
          rw [Workers.workerThreads_start, hnum]
          exact hlength
        · have hstep : s.step (.configChanged m) = s := if_neg fun hand => hgt hand.1
          have hsame : setSize s.workerThreads m = s.workerThreads := grow_of_le 0 (by omega)
          rw [hstep, ih h, hsame]
      · have hstep : s.step (.configChanged m) = s := if_neg fun hand => hm hand.2
        rw [List.filter_cons_of_neg (by simpa using hm), hstep, ih h]

/-- **The workers of a registered manager** have a queue and a consumer each, if and only if no
change of their number is an increase that is taken. -/
theorem workers_startedOnce_iff {n : Nat} (hn : 0 < n) (changes : List Nat) :
    StartedOnce ((changes.map .configChanged).foldl Workers.step
        (Workers.step {} (.registered n))).workerThreads ↔
      ∀ m ∈ changes, m < 512 → m ≤ n := by
  have hthreads : (Workers.step {} (.registered n)).workerThreads = setSize [] n :=
    Workers.workerThreads_start _
  have hlength : (setSize [] n).length = n := by
    rw [length_setSize]
    exact Nat.max_eq_right (Nat.zero_le _)
  have hnum : (Workers.step {} (.registered n)).numThreads = n := by
    show (Workers.start { numThreads := n }).numThreads = n
    unfold Workers.start
    split_ifs <;> rfl
  rw [Workers.workerThreads_changes (by rw [hthreads, hlength, hnum]), hthreads,
    startedOnce_setSizes_iff (by omega) (startedOnce_setSize_nil n), hlength]
  simp

/-- Two workers, and three by a change of the configuration. -/
theorem workers_startedOnce_iff_two_three :
    ¬ StartedOnce (([3].map .configChanged).foldl Workers.step
      (Workers.step {} (.registered 2))).workerThreads := by
  intro honce
  have hle := (workers_startedOnce_iff (by decide) [3]).mp honce
  exact absurd (hle 3 (List.mem_singleton_self 3) (by decide)) (by decide)

end ThreadGroup

end V2XHub.Tmx
