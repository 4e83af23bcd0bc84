import V2XHub.Tmx.PluginMonitor

/-!
# Which processes are terminated

`Tracked` says what the tables know of a process: its last message is the one that waits to be taken
over, or else the one in the running table. This is lost where a message of an earlier process waits
when a plugin is started again, or comes after that. And a decision can be wrong on a table that is
right: a message may have come since it was brought up to date, the interval may have been set to
zero since the start, and a sum may be more than 64 bits.
-/

namespace V2XHub.Tmx.PluginMonitor

open V2XHub.Lib

variable {s s' : PluginMonitor}

/-! ## The condition on the steps -/

/-- The decision about a running plugin that is enabled: no message waits that would change it, the
interval is still set if it was, and the sums are 64 bits. -/
structure SoundDecision (s : PluginMonitor) (r : RunningPlugin) (current : InstalledPluginEntry)
    (maxStartupTime now : Nat) : Prop where
  settled : s.messages r.entry.pluginId ≠ none → overdue r current maxStartupTime now = false
  interval : r.entry.maxMessageInterval ≠ 0 → current.maxMessageInterval ≠ 0
  startup : r.startTime + maxStartupTime < 18446744073709551616
  silence : current.maxMessageInterval + r.lastReceivedTime < 18446744073709551616

/-- A message does not come from an earlier process of a plugin that runs again, or at time 0; a
plugin is started with an id of its own for which no message waits. -/
def Proper (s : PluginMonitor) : Event → Prop
  | .message pid rxTime =>
      rxTime ≠ 0 ∧ ∀ process, s.processes pid = some process →
        ∀ r ∈ s.runningPlugins, r.entry.pluginId = process.pluginId → r.pid = pid
  | .check enabled maxStartupTime dead now =>
      ∀ r ∈ s.runningPlugins, r.pid ∉ dead → r.killStatus = .alive →
        ∀ current, findEnabled enabled r = some current →
          s.SoundDecision r current (startupTime maxStartupTime) now
  | .start (some _) =>
      ∀ entry rest, s.phase = .starting (entry :: rest) →
        entry.pluginId ≠ 0 ∧ s.messages entry.pluginId = none ∧
          ∀ r ∈ s.runningPlugins, r.entry.pluginId ≠ entry.pluginId
  | _ => True

/-! ## The invariant -/

/-- What the tables have of the last message of a plugin. -/
def lastKnown (messages : Nat → Option MessageData) (r : RunningPlugin) : Option Nat :=
  match messages r.entry.pluginId with
  | some data => some data.lastReceivedTime
  | none => if r.lastReceivedTime = 0 then none else some r.lastReceivedTime

/-- A running plugin and its process. -/
structure Tracks (messages : Nat → Option MessageData) (processes : Nat → Option PluginProcess)
    (r : RunningPlugin) : Prop where
  pluginId : r.entry.pluginId ≠ 0
  waiting : ∀ data, messages r.entry.pluginId = some data → data.lastReceivedTime ≠ 0
  process : processes r.pid = some ⟨r.entry.pluginId, r.startTime, lastKnown messages r⟩

structure Tracked (s : PluginMonitor) : Prop where
  tracks : ∀ r ∈ s.runningPlugins, Tracks s.messages s.processes r
  distinct : s.runningPlugins.Pairwise fun r r' => r.entry.pluginId ≠ r'.entry.pluginId
  justified : ∀ t ∈ s.terminations, t.Justified

theorem tracked_init : ({} : PluginMonitor).Tracked where
  tracks := by
    intro r hr
    cases hr
  distinct := .nil
  justified := by
    intro t ht
    cases ht

/-! ## Messages -/

theorem onMessageReceived_self (messages : Nat → Option MessageData) {sourceId : Nat}
    (hid : sourceId ≠ 0) (rxTime : Nat) :
    ∃ first, onMessageReceived messages sourceId rxTime sourceId = some ⟨first, rxTime⟩ := by
  rw [onMessageReceived, if_neg hid, if_pos rfl]
  split
  · exact ⟨rxTime, rfl⟩
  · exact ⟨_, rfl⟩

theorem onMessageReceived_of_ne {messages : Nat → Option MessageData} {sourceId k : Nat}
    (hk : k ≠ sourceId) (rxTime : Nat) :
    onMessageReceived messages sourceId rxTime k = messages k := by
  rw [onMessageReceived]
  split
  · rfl
  · exact if_neg hk

theorem Tracked.message (h : s.Tracked) {pid rxTime : Nat} (hm : s.Proper (.message pid rxTime))
    (hst : s.step (.message pid rxTime) = some s') : s'.Tracked := by
  obtain ⟨htime, hown⟩ := hm
  rw [step] at hst
  split at hst
  · cases hst
  · rename_i process hprocess
    cases hst
    refine ⟨?_, h.distinct, h.justified⟩
    intro r hr
    have htracks := h.tracks r hr
    by_cases hpid : r.pid = pid
    · -- the process of this plugin
      have heq := htracks.process
      rw [hpid, hprocess] at heq
      cases heq
      obtain ⟨first, hself⟩ := onMessageReceived_self s.messages htracks.pluginId rxTime
      refine ⟨htracks.pluginId, ?_, ?_⟩
      · intro data hdata
        cases hself.symm.trans hdata
        exact htime
      · dsimp only
        rw [if_pos hpid, lastKnown, hself]
    · have hne : r.entry.pluginId ≠ process.pluginId :=
        fun heq => hpid (hown process hprocess r hr heq)
      refine ⟨htracks.pluginId, ?_, ?_⟩
      · intro data hdata
        dsimp only at hdata
        rw [onMessageReceived_of_ne hne] at hdata
        exact htracks.waiting data hdata
      · dsimp only
        rw [if_neg hpid, lastKnown, onMessageReceived_of_ne hne]
        exact htracks.process

/-- A running plugin after its message was taken over. -/
def taken (messages : Nat → Option MessageData) (r : RunningPlugin) : RunningPlugin :=
  match messages r.entry.pluginId with
  | none => r
  | some data => { r with lastReceivedTime := data.lastReceivedTime }

theorem taken_entry (messages : Nat → Option MessageData) (r : RunningPlugin) :
    (taken messages r).entry = r.entry := by
  rw [taken]
  split <;> rfl

/-- With distinct ids, every running plugin is the first of its id. -/
theorem mergeMessages_eq (messages : Nat → Option MessageData) (seen : List Nat)
    {running : List RunningPlugin} (hseen : ∀ r ∈ running, r.entry.pluginId ∉ seen)
    (hdistinct : running.Pairwise fun r r' => r.entry.pluginId ≠ r'.entry.pluginId) :
    mergeMessages messages seen running = running.map (taken messages) := by
  induction running generalizing seen with
  | nil => rfl
  | cons r rest ih =>
      obtain ⟨hr, hrest⟩ := List.pairwise_cons.mp hdistinct
      rw [mergeMessages, List.map_cons, ih _ _ hrest]
      · congr 1
        rw [taken]
        cases messages r.entry.pluginId with
        | none => rfl
        | some data => exact if_neg (hseen r List.mem_cons_self)
      · intro r' hr'
        rw [List.mem_cons, not_or]
        exact ⟨(hr r' hr').symm, hseen r' (List.mem_cons_of_mem r hr')⟩

theorem Tracks.taken {messages : Nat → Option MessageData}
    {processes : Nat → Option PluginProcess} {r : RunningPlugin}
    (h : Tracks messages processes r) :
    Tracks (fun _ => none) processes (taken messages r) := by
  refine ⟨?_, ?_, ?_⟩
  · rw [taken_entry]
    exact h.pluginId
  · intro data hdata
    cases hdata
  · have hprocess := h.process
    rw [lastKnown] at hprocess
    rw [PluginMonitor.taken, lastKnown]
    split
    · rename_i hnone
      rw [hnone] at hprocess
      exact hprocess
    · rename_i data hdata
      rw [hdata] at hprocess
      dsimp only
      rw [if_neg (h.waiting data hdata)]
      exact hprocess

theorem Tracked.merge (h : s.Tracked) (hst : s.step .merge = some s') : s'.Tracked := by
  obtain ⟨_, hs⟩ := Option.ite_none_right_eq_some.mp hst
  cases hs
  have hmerge := mergeMessages_eq s.messages [] (fun _ _ => List.not_mem_nil) h.distinct
  refine ⟨?_, ?_, h.justified⟩
  · intro r hr
    dsimp only at hr
    rw [hmerge] at hr
    obtain ⟨r₀, hr₀, rfl⟩ := List.mem_map.mp hr
    exact (h.tracks r₀ hr₀).taken
  · dsimp only
    rw [hmerge, List.pairwise_map]
    apply h.distinct.imp
    intro r r' hne
    rw [taken_entry, taken_entry]
    exact hne

/-! ## The check -/

theorem wrap_of_lt {n : Nat} (h : n < 18446744073709551616) : wrap n = n := Nat.mod_eq_of_lt h

/-- A decision that is sound is made about the real last message. -/
theorem SoundDecision.justified {r : RunningPlugin} {current : InstalledPluginEntry}
    {maxStartupTime now : Nat} (h : s.SoundDecision r current maxStartupTime now)
    (hoverdue : overdue r current maxStartupTime now = true) :
    Termination.Justified
      ⟨⟨r.entry.pluginId, r.startTime, lastKnown s.messages r⟩, now, maxStartupTime,
        current.maxMessageInterval⟩ := by
  have hnone : s.messages r.entry.pluginId = none := by
    apply Classical.byContradiction
    intro hwaits
    rw [h.settled hwaits] at hoverdue
    cases hoverdue
  rw [overdue] at hoverdue
  rw [Termination.Justified, lastKnown, hnone]
  dsimp only
  split at hoverdue
  · rename_i hzero
    have hle := of_decide_eq_true hoverdue
    rw [wrap_of_lt h.startup] at hle
    rw [if_pos hzero]
    exact .inl ⟨rfl, hle⟩
  · rename_i hnonzero
    obtain ⟨hinterval, hle⟩ := of_decide_eq_true hoverdue
    rw [wrap_of_lt h.silence, Nat.add_comm] at hle
    rw [if_neg hnonzero]
    exact .inr ⟨_, rfl, h.interval hinterval, hle⟩

theorem termination_eq_some {processes : Nat → Option PluginProcess}
    {enabled : List InstalledPluginEntry} {maxStartupTime now : Nat} {r : RunningPlugin}
    {t : Termination} (h : termination processes enabled maxStartupTime now r = some t) :
    ∃ current process, r.killStatus = .alive ∧ findEnabled enabled r = some current ∧
      processes r.pid = some process ∧ overdue r current maxStartupTime now = true ∧
      t = ⟨process, now, maxStartupTime, current.maxMessageInterval⟩ := by
  rw [termination] at h
  split at h
  · rename_i current process halive hcurrent hprocess
    split at h
    · rename_i hoverdue
      cases h
      exact ⟨current, process, halive, hcurrent, hprocess, hoverdue, rfl⟩
    · cases h
  · cases h

theorem Tracked.check (h : s.Tracked) {enabled : List InstalledPluginEntry}
    {maxStartupTime now : Nat} {dead : List Nat}
    (hm : s.Proper (.check enabled maxStartupTime dead now)) :
    (s.check enabled maxStartupTime dead now).Tracked := by
  refine ⟨?_, ?_, ?_⟩
  · intro r hr
    obtain ⟨r₀, hr₀, rfl⟩ := List.mem_map.mp hr
    have htracks := h.tracks r₀ (List.mem_filter.mp hr₀).1
    exact ⟨htracks.pluginId, htracks.waiting, htracks.process⟩
  · show List.Pairwise _ (List.map _ _)
    rw [List.pairwise_map]
    exact h.distinct.filter _
  · intro t ht
    rcases List.mem_append.mp ht with ht | ht
    · exact h.justified t ht
    · obtain ⟨r, hr, hterm⟩ := List.mem_filterMap.mp ht
      obtain ⟨hr, hdead⟩ := List.mem_filter.mp hr
      obtain ⟨current, process, halive, hcurrent, hprocess, hoverdue, rfl⟩ :=
        termination_eq_some hterm
      have htracks := h.tracks r hr
      cases hprocess.symm.trans htracks.process
      have hsound := hm r hr (of_decide_eq_true hdead) halive current hcurrent
      exact hsound.justified hoverdue

/-! ## Starting -/

theorem mem_insertRunning {r r' : RunningPlugin} {running : List RunningPlugin} :
    r' ∈ insertRunning r running ↔ r' = r ∨ r' ∈ running := by
  induction running with
  | nil => rw [insertRunning, List.mem_singleton, List.mem_nil_iff, or_false]
  | cons r₀ rest ih =>
      rw [insertRunning]
      split
      · rw [List.mem_cons]
      · rw [List.mem_cons, ih, List.mem_cons]
        exact or_left_comm

theorem pairwise_insertRunning {r : RunningPlugin} {running : List RunningPlugin}
    (hnew : ∀ r' ∈ running, r'.entry.pluginId ≠ r.entry.pluginId)
    (hdistinct : running.Pairwise fun r r' => r.entry.pluginId ≠ r'.entry.pluginId) :
    (insertRunning r running).Pairwise fun r r' => r.entry.pluginId ≠ r'.entry.pluginId := by
  induction running with
  | nil => exact List.pairwise_singleton _ _
  | cons r₀ rest ih =>
      obtain ⟨hhead, hrest⟩ := List.pairwise_cons.mp hdistinct
      obtain ⟨hnew₀, hnewRest⟩ := List.forall_mem_cons.mp hnew
      rw [insertRunning]
      split
      · rw [List.pairwise_cons]
        exact ⟨fun r' hr' => (hnew r' hr').symm, hdistinct⟩
      · rw [List.pairwise_cons]
        refine ⟨?_, ih hnewRest hrest⟩
        intro r' hr'
        rcases mem_insertRunning.mp hr' with rfl | hr'
        · exact hnew₀
        · exact hhead r' hr'

theorem startPlugin_tracked (h : s.Tracked) {entry : InstalledPluginEntry}
    {started : Option (Nat × Nat)}
    (hfresh : ∀ p, started = some p → s.processes p.1 = none)
    (hm : started ≠ none → entry.pluginId ≠ 0 ∧ s.messages entry.pluginId = none ∧
      ∀ r ∈ s.runningPlugins, r.entry.pluginId ≠ entry.pluginId) :
    (s.startPlugin entry started).Tracked := by
  unfold startPlugin
  split
  · exact h
  · split
    · exact h
    · rename_i pid startTime
      obtain ⟨hid, hwaiting, hnew⟩ := hm (by intro hnone; cases hnone)
      have hpid : s.processes pid = none := hfresh (pid, startTime) rfl
      refine ⟨?_, pairwise_insertRunning hnew h.distinct, h.justified⟩
      intro r hr
      rcases mem_insertRunning.mp hr with rfl | hr
      · refine ⟨hid, ?_, ?_⟩
        · intro data hdata
          cases hwaiting.symm.trans hdata
        · dsimp only
          rw [if_pos rfl, lastKnown, hwaiting]
          rfl
      · have htracks := h.tracks r hr
        refine ⟨htracks.pluginId, htracks.waiting, ?_⟩
        dsimp only
        rw [if_neg]
        · exact htracks.process
        · intro heq
          rw [← heq, htracks.process] at hpid
          cases hpid

theorem Tracked.start (h : s.Tracked) {started : Option (Nat × Nat)}
    (hm : s.Proper (.start started)) (hst : s.step (.start started) = some s') : s'.Tracked := by
  rw [step] at hst
  split at hst
  · rename_i entry rest hphase
    split at hst
    · cases hst
    · rename_i hunused
      cases hst
      have hstarted : (s.startPlugin entry started).Tracked := by
        apply startPlugin_tracked h
        · intro p hp
          rw [hp, Option.any_some] at hunused
          exact Option.not_isSome_iff_eq_none.mp hunused
        · intro hne
          obtain ⟨p, rfl⟩ := Option.ne_none_iff_exists'.mp hne
          exact hm entry rest hphase
      exact ⟨hstarted.tracks, hstarted.distinct, hstarted.justified⟩
  · cases hst

/-! ## Runs -/

theorem Tracked.step {e : Event} (h : s.Tracked) (hm : s.Proper e) (hst : s.step e = some s') :
    s'.Tracked := by
  cases e with
  | message pid rxTime => exact h.message hm hst
  | merge => exact h.merge hst
  | queryFails =>
      obtain ⟨_, hs⟩ := Option.ite_none_right_eq_some.mp hst
      cases hs
      exact ⟨h.tracks, h.distinct, h.justified⟩
  | check enabled maxStartupTime dead now =>
      obtain ⟨_, hs⟩ := Option.ite_none_right_eq_some.mp hst
      cases hs
      exact h.check hm
  | start started => exact h.start hm hst
  | endRound =>
      obtain ⟨_, hs⟩ := Option.ite_none_right_eq_some.mp hst
      cases hs
      exact ⟨h.tracks, h.distinct, h.justified⟩

/-- **Supervision.** In every run of proper steps, the process of an enabled plugin is sent a
SIGTERM only if it has not started in time or was silent for too long. -/
theorem justified_of_run {es : List Event} {s : PluginMonitor}
    (h : Run (Guarded Proper (Steps step)) {} es s) : ∀ t ∈ s.terminations, t.Justified := by
  have htracked : s.Tracked := by
    apply Run.invariant _ h tracked_init
    intro s e s' hs ⟨hm, hst⟩
    exact hs.step hm hst
  exact htracked.justified

/-- A plugin with an interval of a minute, and with none. -/
def samplePlugin (maxMessageInterval : Nat) : InstalledPluginEntry := ⟨1, 7, maxMessageInterval⟩

/-- It is started at time 1000 and sends a message a second later. -/
def startAndMessage : List Event :=
  [.merge, .check [samplePlugin 60000] 15000 [] 1000, .start (some (42, 1000)), .endRound,
    .message 42 2000, .merge]

theorem justified_of_run_silent :
    ∃ es s, Run (Guarded Proper (Steps step)) {} es s ∧
      s.terminations = [⟨⟨7, 1000, some 2000⟩, 62000, 15000, 60000⟩] ∧
      ∀ t ∈ s.terminations, t.Justified := by
  have hrun : Run (Guarded Proper (Steps step)) {}
      (startAndMessage ++ [.check [samplePlugin 60000] 15000 [] 62000])
      ((startAndMessage ++ [Event.check [samplePlugin 60000] 15000 [] 62000]).foldl
        (fun s e => (s.step e).getD s) {}) := by
    refine .cons ⟨trivial, rfl⟩ (.cons ⟨?_, rfl⟩ (.cons ⟨?_, rfl⟩ (.cons ⟨trivial, rfl⟩
      (.cons ⟨⟨by decide, ?_⟩, rfl⟩ (.cons ⟨trivial, rfl⟩ (.cons ⟨?_, rfl⟩ .nil))))))
    · intro r hr
      cases hr
    · intro entry rest hphase
      cases hphase
      refine ⟨by decide, rfl, ?_⟩
      intro r hr
      cases hr
    · intro process _ r hr _
      cases List.mem_singleton.mp hr
      rfl
    · intro r hr _ _ current hcurrent
      cases List.mem_singleton.mp hr
      cases hcurrent
      exact ⟨fun hwaits => absurd rfl hwaits, fun _ => by decide, by decide, by decide⟩
  exact ⟨_, _, hrun, by decide, justified_of_run hrun⟩

/-- The interval is set to zero, which is to say that there is none, and the plugin is killed. -/
theorem intervalZero_not_justified :
    ¬ ∀ es s, Run (Steps step) {} es s → ∀ t ∈ s.terminations, t.Justified := by
  intro hall
  have hjustified := hall (startAndMessage ++ [.check [samplePlugin 0] 15000 [] 3000]) _
    (.cons rfl (.cons rfl (.cons rfl (.cons rfl (.cons rfl (.cons rfl (.cons rfl .nil)))))))
    ⟨⟨7, 1000, some 2000⟩, 3000, 15000, 0⟩ (by decide)
  rcases hjustified with ⟨hnone, _⟩ | ⟨_, _, hzero, _⟩
  · cases hnone
  · exact hzero rfl

end V2XHub.Tmx.PluginMonitor
