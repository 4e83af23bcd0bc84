import Mathlib.Data.List.Count
import V2XHub.Flir.Detections
import V2XHub.Lib.History

/-!
# The unique pedestrian count

`sendDetections` counts a detection as a new pedestrian if its id is not among the remembered ones.
The set of remembered ids is one for all sessions. It is replaced by the ids of every batch that is
not empty, and it does not change while a batch is broadcast.

So an id is compared with the last batch of any camera, and one that is new is counted as often as
it stands in its batch.
-/

namespace V2XHub.Flir

open V2XHub.Lib

/-- A batch that has been broadcast: its camera, its ids in the order of the queue, and the ids that
the unique count was raised for, once for each time it was. -/
structure Batch (n : Nat) where
  camera : Fin n
  ids : List Int
  raised : List Int
  deriving DecidableEq, Repr

namespace Batch

variable {n : Nat}

def idsOf : Option (Batch n) → List Int
  | none => []
  | some b => b.ids

/-- The ids of the last batch of a camera. -/
def previous (camera : Fin n) (earlier : List (Batch n)) : List Int :=
  idsOf (latest Batch.camera camera earlier)

/-- What is to hold of a batch: the count is raised exactly once for each of its ids that was not in
the batch before of the same camera, and for nothing else. -/
def CountedOnce (earlier : List (Batch n)) (b : Batch n) : Prop :=
  ∀ id, b.raised.count id = if id ∈ b.ids ∧ id ∉ previous b.camera earlier then 1 else 0

/-- For every id of the batch the last batch of any camera says the same as the last batch of this
camera, and an id that is new does not occur twice. -/
def Unambiguous (earlier : List (Batch n)) (b : Batch n) : Prop :=
  ∀ id ∈ b.ids,
    (id ∈ idsOf earlier.getLast? ↔ id ∈ previous b.camera earlier) ∧
      (id ∉ previous b.camera earlier → b.ids.count id = 1)

/-- What the code does count. -/
def CountedAgainstLast (earlier : List (Batch n)) (b : Batch n) : Prop :=
  b.raised = b.ids.filter fun id => id ∉ idsOf earlier.getLast?

theorem CountedAgainstLast.count {earlier : List (Batch n)} {b : Batch n}
    (h : CountedAgainstLast earlier b) (id : Int) :
    b.raised.count id = if id ∈ idsOf earlier.getLast? then 0 else b.ids.count id := by
  rw [show b.raised = _ from h]
  split
  · next hmem =>
      apply List.count_eq_zero.mpr
      intro hfiltered
      simp [hmem] at hfiltered
  · next hmem =>
      apply List.count_filter
      simp [hmem]

theorem CountedAgainstLast.once_iff {earlier : List (Batch n)} {b : Batch n}
    (h : CountedAgainstLast earlier b) : CountedOnce earlier b ↔ Unambiguous earlier b := by
  constructor
  · intro hone id hid
    have hcount := hone id
    have hpos : 0 < b.ids.count id := List.count_pos_iff.mpr hid
    rw [h.count] at hcount
    by_cases hprevious : id ∈ previous b.camera earlier
    · have hold : ¬ (id ∈ b.ids ∧ id ∉ previous b.camera earlier) := fun hnew => hnew.2 hprevious
      rw [if_neg hold] at hcount
      grind
    · have hnew : id ∈ b.ids ∧ id ∉ previous b.camera earlier := ⟨hid, hprevious⟩
      rw [if_pos hnew] at hcount
      grind
  · intro hclear id
    rw [h.count]
    by_cases hid : id ∈ b.ids
    · obtain ⟨hsame, hsingle⟩ := hclear id hid
      grind
    · rw [List.count_eq_zero.mpr hid, ite_self, if_neg fun hnew => hid hnew.1]

end Batch

/-- The plugin, with what an onlooker has seen of its unique count: the ids of the batch that is
being broadcast, those of them the count was raised for, and the batches before. -/
structure Observed (n : Nat) (α : Type) where
  plugin : Plugin n α := {}
  ids : List Int := []
  raised : List Int := []
  batches : List (Batch n) := []

namespace Observed

variable {n : Nat} {α : Type}

/-- What the onlooker notes of a step. The count was raised if it is another after a broadcast, and
a batch is over when its queue is cleared. Batches without detections are not noted. -/
def watch (o : Observed n α) (e : Event n α) (plugin : Plugin n α) : Observed n α :=
  match e, o.plugin.sender, plugin.sender with
  | .getMsgQueue, _, .broadcasting _ currentMsgQueue _ =>
      { o with plugin, ids := currentMsgQueue.map (·.objectId), raised := [] }
  | .broadcastMessage, .broadcasting _ (message :: _) _, _ =>
      { o with
        plugin
        raised :=
          if plugin.uniquePedCount = o.plugin.uniquePedCount then o.raised
          else o.raised ++ [message.objectId] }
  | .clearMsgQueue, .broadcasting i _ _, _ =>
      { o with
        plugin
        batches := if o.ids = [] then o.batches else o.batches ++ [⟨i, o.ids, o.raised⟩] }
  | _, _, _ => { o with plugin }

def step (o : Observed n α) (e : Event n α) : Option (Observed n α) :=
  (o.plugin.step e).map (o.watch e)

theorem watch_plugin (o : Observed n α) (e : Event n α) (plugin : Plugin n α) :
    (o.watch e plugin).plugin = plugin := by
  unfold watch
  split <;> rfl

/-- The onlooker sees every run of the plugin. -/
theorem exists_observed {o : Observed n α} {s : Plugin n α} {es : List (Event n α)}
    (run : Run (Steps Plugin.step) o.plugin es s) :
    ∃ o' : Observed n α, Run (Steps step) o es o' ∧ o'.plugin = s := by
  generalize hs : o.plugin = s₀ at run
  induction run generalizing o with
  | nil => exact ⟨o, .nil, hs⟩
  | @cons s t u e es hstep _ ih =>
      obtain ⟨o', hrun, hplugin⟩ := ih (watch_plugin o e t)
      refine ⟨o', .cons ?_ hrun, hplugin⟩
      show (o.plugin.step e).map (o.watch e) = some (o.watch e t)
      rw [hs, show s.step e = some t from hstep, Option.map_some]

/-! ## What is remembered is the last batch of any camera -/

/-- What has been broadcast of the copy, and what was counted of it. -/
def Midway (o : Observed n α) : Prop :=
  ∀ i rest ids, o.plugin.sender = .broadcasting i rest ids →
    o.ids = ids.reverse ++ rest.map (·.objectId) ∧
      o.raised = ids.reverse.filter fun id => id ∉ o.plugin.uniquePedestrianIds

structure Remembers (o : Observed n α) : Prop where
  last : ∀ id, id ∈ o.plugin.uniquePedestrianIds ↔ id ∈ Batch.idsOf o.batches.getLast?
  midway : o.Midway
  each : Each Batch.CountedAgainstLast o.batches

variable {o : Observed n α}

theorem uniquePedCount_broadcastMessage_eq_iff (s : Plugin n α) (i : Fin n)
    (message : SensorDetectedObject α) (rest : List (SensorDetectedObject α)) (ids : List Int) :
    (s.broadcastMessage i message rest ids).uniquePedCount = s.uniquePedCount ↔
      message.objectId ∈ s.uniquePedestrianIds := by
  show (if message.objectId ∈ s.uniquePedestrianIds then s.uniquePedCount
    else s.uniquePedCount + 1) = s.uniquePedCount ↔ _
  split
  · next h => exact iff_of_true rfl h
  · next h =>
      -- also where the count wraps to zero it is another one
      refine iff_of_false ?_ h
      intro heq
      have htoNat := congrArg UInt32.toNat heq
      rw [UInt32.toNat_add, show (1 : UInt32).toNat = 1 from rfl] at htoNat
      have := s.uniquePedCount.toNat_lt
      omega

theorem Remembers.copy (h : o.Remembers) (i : Fin n) :
    (o.watch .getMsgQueue (o.plugin.getMsgQueue i)).Remembers where
  last := h.last
  midway := by
    intro j rest ids hsender
    cases hsender
    exact ⟨rfl, rfl⟩
  each := h.each

theorem Remembers.broadcast (h : o.Remembers) {i : Fin n} {message : SensorDetectedObject α}
    {rest : List (SensorDetectedObject α)} {ids : List Int}
    (hsender : o.plugin.sender = .broadcasting i (message :: rest) ids) :
    (o.watch .broadcastMessage (o.plugin.broadcastMessage i message rest ids)).Remembers := by
  obtain ⟨hids, hraised⟩ := h.midway i _ _ hsender
  have hwatch : o.watch .broadcastMessage (o.plugin.broadcastMessage i message rest ids) =
      { o with
        plugin := o.plugin.broadcastMessage i message rest ids
        raised := if message.objectId ∈ o.plugin.uniquePedestrianIds then o.raised
          else o.raised ++ [message.objectId] } := by
    simp only [watch, hsender, uniquePedCount_broadcastMessage_eq_iff]
  rw [hwatch]
  refine ⟨h.last, ?_, h.each⟩
  intro j rest' ids' hsender'
  cases hsender'
  refine ⟨?_, ?_⟩
  · show o.ids = _
    rw [hids, List.reverse_cons, List.append_assoc]
    rfl
  · show (if message.objectId ∈ o.plugin.uniquePedestrianIds then o.raised
      else o.raised ++ [message.objectId]) =
        (message.objectId :: ids).reverse.filter fun id => id ∉ o.plugin.uniquePedestrianIds
    rw [List.reverse_cons, List.filter_append, ← hraised]
    split
    · next hmem => simp [hmem]
    · next hmem => simp [hmem]

theorem Remembers.clear (h : o.Remembers) {i : Fin n} {ids : List Int}
    (hsender : o.plugin.sender = .broadcasting i [] ids) :
    (o.watch .clearMsgQueue (o.plugin.clearMsgQueue i ids)).Remembers := by
  obtain ⟨hids, hraised⟩ := h.midway i _ _ hsender
  rw [List.map_nil, List.append_nil] at hids
  have hwatch : o.watch .clearMsgQueue (o.plugin.clearMsgQueue i ids) =
      { o with
        plugin := o.plugin.clearMsgQueue i ids
        batches := if o.ids = [] then o.batches else o.batches ++ [⟨i, o.ids, o.raised⟩] } := by
    simp only [watch, hsender]
  rw [hwatch]
  have hmidway : Midway { o with
      plugin := o.plugin.clearMsgQueue i ids
      batches := if o.ids = [] then o.batches else o.batches ++ [⟨i, o.ids, o.raised⟩] } := by
    intro j rest ids' hsender'
    cases hsender'
  cases ids with
  | nil =>
      -- nothing came, so that the ids stay
      rw [List.reverse_nil] at hids
      rw [if_pos hids] at hmidway ⊢
      exact ⟨h.last, hmidway, h.each⟩
  | cons id ids =>
      have hne : o.ids ≠ [] := by simp [hids]
      rw [if_neg hne] at hmidway ⊢
      refine ⟨?_, hmidway, each_concat.mpr ⟨h.each, ?_⟩⟩
      · intro id'
        show id' ∈ id :: ids ↔ id' ∈ Batch.idsOf (o.batches ++ [_]).getLast?
        rw [List.getLast?_concat, ← List.mem_reverse, ← hids]
        rfl
      · show o.raised = o.ids.filter _
        rw [hraised, ← hids]
        apply List.filter_congr
        intro id' _
        simp only [h.last id']

theorem Remembers.preserved (h : o.Remembers) {o' : Observed n α} {e : Event n α}
    (hstep : o.step e = some o') : o'.Remembers := by
  obtain ⟨plugin, hplugin, rfl⟩ := Option.map_eq_some_iff.mp hstep
  cases Plugin.moves_of_step hplugin with
  | push i newDetections => exact ⟨h.last, h.midway, h.each⟩
  | idle => exact ⟨h.last, h.midway, h.each⟩
  | start => exact ⟨h.last, (fun _ _ _ hsender => nomatch hsender), h.each⟩
  | copy i => exact h.copy i
  | broadcast i message rest ids hsender => exact h.broadcast hsender
  | clear i ids hsender => exact h.clear hsender
  | finish => exact ⟨h.last, (fun _ _ _ hsender => nomatch hsender), h.each⟩

theorem remembers_init : ({} : Observed n α).Remembers where
  last := fun _ => Iff.rfl
  midway := fun _ _ _ hsender => nomatch hsender
  each := each_nil _

/-- **A pedestrian is counted once** for a batch of its camera exactly if the batch before it from
any camera tells which of its ids are new, and these do not occur twice. -/
theorem countedOnce_iff {o : Observed n α} {es : List (Event n α)}
    (run : Run (Steps step) {} es o) :
    Each (fun earlier b => Batch.CountedOnce earlier b ↔ Batch.Unambiguous earlier b)
      o.batches := by
  have hinv : o.Remembers :=
    run.invariant (fun _ _ _ h hstep => h.preserved hstep) remembers_init
  intro earlier b later hbatches
  exact (hinv.each earlier b later hbatches).once_iff

/-- A round of two sessions with detections of the two ids. -/
def round (first second : Int) : List (Event 2 Unit) :=
  [.handleDataMessage 0 [⟨first, false, ()⟩], .handleDataMessage 1 [⟨second, false, ()⟩],
    .startRound, .getMsgQueue, .broadcastMessage, .clearMsgQueue, .getMsgQueue, .broadcastMessage,
    .clearMsgQueue, .setStatus]

/-- One round in which the cameras see one pedestrian each: both are counted once. -/
theorem countedOnce_iff_round :
    ∃ o : Observed 2 Unit, Run (Steps step) {} (round 1 2) o ∧
      o.batches = [⟨0, [1], [1]⟩, ⟨1, [2], [2]⟩] ∧ Each Batch.CountedOnce o.batches := by
  obtain ⟨o, ho, hbatches⟩ : ∃ o : Observed 2 Unit,
      (round 1 2).foldlM step {} = some o ∧ o.batches = [⟨0, [1], [1]⟩, ⟨1, [2], [2]⟩] :=
    ⟨_, rfl, rfl⟩
  have run := Run.of_foldlM ho
  have hunambiguous : Each Batch.Unambiguous o.batches := by
    rw [hbatches]
    show Each Batch.Unambiguous (([] ++ [⟨0, [1], [1]⟩]) ++ [⟨1, [2], [2]⟩])
    refine each_concat.mpr ⟨each_concat.mpr ⟨each_nil _, ?_⟩, ?_⟩
    · intro id hid
      cases List.mem_singleton.mp hid
      decide
    · intro id hid
      cases List.mem_singleton.mp hid
      decide
  refine ⟨o, run, hbatches, fun earlier b later hsplit => ?_⟩
  exact (countedOnce_iff run earlier b later hsplit).mpr (hunambiguous earlier b later hsplit)

/-- Two cameras that see one pedestrian each, round by round: each of them is counted anew in every
round. -/
theorem pedestrian_counted_again :
    ¬ ∀ (n : Nat) (α : Type) (es : List (Event n α)) (o : Observed n α),
      Run (Steps step) {} es o → Each Batch.CountedOnce o.batches := by
  intro h
  obtain ⟨o, ho, hbatches⟩ : ∃ o : Observed 2 Unit,
      (round 1 2 ++ round 1 2).foldlM step {} = some o ∧
        o.batches = [⟨0, [1], [1]⟩, ⟨1, [2], [2]⟩, ⟨0, [1], [1]⟩, ⟨1, [2], [2]⟩] :=
    ⟨_, rfl, rfl⟩
  have heach := h 2 Unit _ o (Run.of_foldlM ho)
  have hlast := heach [⟨0, [1], [1]⟩, ⟨1, [2], [2]⟩] ⟨0, [1], [1]⟩ [⟨1, [2], [2]⟩] hbatches 1
  exact absurd hlast (by decide)

end Observed

end V2XHub.Flir
