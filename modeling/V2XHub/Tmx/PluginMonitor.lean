import V2XHub.Lib.Run

/-!
# The plugin monitor

The monitor starts the enabled plugins as processes and terminates those that are disabled, do not
start or fall silent. Message times are collected under the plugin's id by the threads that receive
them, and taken into the table of running plugins at the start of each round. The keys of this table
are the database entries as they were when the process was started.

A round is a few steps, and messages come between them. The processes are in the model with what has
really come from them.
-/

namespace V2XHub.Tmx

open V2XHub.Lib

/-! ## Plugins and processes -/

/-- `InstalledPluginEntry`, which is compared by `id`. -/
structure InstalledPluginEntry where
  id : Nat
  pluginId : Nat
  maxMessageInterval : Nat
  deriving DecidableEq

inductive PluginKillState where
  | alive
  | sigTermSent
  | sigIntSent
  | sigKillSent
  deriving DecidableEq

/-- An entry of `mRunningPlugins`: the key and its `PluginMonitoringData`. -/
structure RunningPlugin where
  entry : InstalledPluginEntry
  pid : Nat
  startTime : Nat
  /-- `0` as long as no message was received -/
  lastReceivedTime : Nat := 0
  killStatus : PluginKillState := .alive
  deriving DecidableEq

structure MessageData where
  firstReceivedTime : Nat
  lastReceivedTime : Nat
  deriving DecidableEq

/-- A process that the monitor has started, and the time of its last message. -/
structure PluginProcess where
  pluginId : Nat
  startTime : Nat
  lastMessage : Option Nat := none
  deriving DecidableEq

/-- A SIGTERM to the process of an enabled plugin, with the configuration of that time. -/
structure Termination where
  process : PluginProcess
  now : Nat
  maxStartupTime : Nat
  maxMessageInterval : Nat
  deriving DecidableEq

/-- The process has not started in time, or was silent for too long after a message. -/
def Termination.Justified (t : Termination) : Prop :=
  (t.process.lastMessage = none ∧ t.process.startTime + t.maxStartupTime ≤ t.now) ∨
    ∃ last, t.process.lastMessage = some last ∧ t.maxMessageInterval ≠ 0 ∧
      last + t.maxMessageInterval ≤ t.now

/-! ## The monitor -/

/-- Where the round is: before the messages are taken over, before the check, or with these enabled
plugins still to look at. -/
inductive Phase where
  | sleeping
  | merged
  | starting (enabled : List InstalledPluginEntry)
  deriving DecidableEq

structure PluginMonitor where
  messages : Nat → Option MessageData := fun _ => none
  runningPlugins : List RunningPlugin := []
  phase : Phase := .sleeping
  processes : Nat → Option PluginProcess := fun _ => none
  terminations : List Termination := []

namespace PluginMonitor

/-- Times are 64 bits. -/
def wrap (n : Nat) : Nat := n % 18446744073709551616

/-- `onMessageReceived`. -/
def onMessageReceived (messages : Nat → Option MessageData) (sourceId rxTime : Nat) :
    Nat → Option MessageData :=
  if sourceId = 0 then messages
  else fun k =>
    if k = sourceId then
      match messages sourceId with
      | none => some ⟨rxTime, rxTime⟩
      | some data => some { data with lastReceivedTime := rxTime }
    else messages k

/-- The messages are taken over, each by the first running plugin of its id. -/
def mergeMessages (messages : Nat → Option MessageData) :
    List Nat → List RunningPlugin → List RunningPlugin
  | _, [] => []
  | seen, r :: rest =>
      let r' := match messages r.entry.pluginId with
        | none => r
        | some data =>
            if r.entry.pluginId ∈ seen then r
            else { r with lastReceivedTime := data.lastReceivedTime }
      r' :: mergeMessages messages (r.entry.pluginId :: seen) rest

/-- Whether an enabled plugin is to be killed. -/
def overdue (r : RunningPlugin) (current : InstalledPluginEntry) (maxStartupTime now : Nat) :
    Bool :=
  if r.lastReceivedTime = 0 then wrap (r.startTime + maxStartupTime) ≤ now
  else
    r.entry.maxMessageInterval ≠ 0 ∧
      wrap (current.maxMessageInterval + r.lastReceivedTime) ≤ now

/-- The entry of the database for a running plugin, if it is enabled. -/
def findEnabled (enabled : List InstalledPluginEntry) (r : RunningPlugin) :
    Option InstalledPluginEntry :=
  enabled.find? fun current => current.id = r.entry.id

/-- The next signal for a running plugin. -/
def nextKillStatus (enabled : List InstalledPluginEntry) (maxStartupTime now : Nat)
    (r : RunningPlugin) : PluginKillState :=
  match r.killStatus with
  | .sigTermSent => .sigIntSent
  | .sigIntSent => .sigKillSent
  | .sigKillSent => .sigKillSent
  | .alive =>
      match findEnabled enabled r with
      | none => .sigTermSent
      | some current => if overdue r current maxStartupTime now then .sigTermSent else .alive

/-- The SIGTERM that an enabled plugin is sent. -/
def termination (processes : Nat → Option PluginProcess) (enabled : List InstalledPluginEntry)
    (maxStartupTime now : Nat) (r : RunningPlugin) : Option Termination :=
  match r.killStatus, findEnabled enabled r, processes r.pid with
  | .alive, some current, some process =>
      if overdue r current maxStartupTime now then
        some ⟨process, now, maxStartupTime, current.maxMessageInterval⟩
      else none
  | _, _, _ => none

/-- `0`, also where the value is no number, stands for the default. -/
def startupTime (maxStartupTime : Nat) : Nat := if maxStartupTime = 0 then 15000 else maxStartupTime

/-- The check of the running plugins, without those found dead. -/
def check (s : PluginMonitor) (enabled : List InstalledPluginEntry) (maxStartupTime : Nat)
    (dead : List Nat) (now : Nat) : PluginMonitor :=
  let maxStartupTime := startupTime maxStartupTime
  let running := s.runningPlugins.filter fun r => r.pid ∉ dead
  { s with
    runningPlugins := running.map fun r =>
      { r with killStatus := nextKillStatus enabled maxStartupTime now r }
    terminations := s.terminations ++
      running.filterMap (termination s.processes enabled maxStartupTime now)
    phase := .starting enabled }

/-- The table is ordered by the ids. -/
def insertRunning (r : RunningPlugin) : List RunningPlugin → List RunningPlugin
  | [] => [r]
  | r' :: rest => if r.entry.id < r'.entry.id then r :: r' :: rest else r' :: insertRunning r rest

/-- A plugin is started, unless it runs or its executable cannot be run. -/
def startPlugin (s : PluginMonitor) (entry : InstalledPluginEntry) (started : Option (Nat × Nat)) :
    PluginMonitor :=
  if s.runningPlugins.any (·.entry.id = entry.id) then s
  else
    match started with
    | none => s
    | some (pid, startTime) =>
        { s with
          runningPlugins := insertRunning ⟨entry, pid, startTime, 0, .alive⟩ s.runningPlugins
          processes := fun k =>
            if k = pid then some ⟨entry.pluginId, startTime, none⟩ else s.processes k }

inductive Event where
  /-- a message of a process is received -/
  | message (pid rxTime : Nat)
  | merge
  /-- the enabled plugins cannot be read -/
  | queryFails
  | check (enabled : List InstalledPluginEntry) (maxStartupTime : Nat) (dead : List Nat) (now : Nat)
  /-- the next of the enabled plugins, with the process and its start time if it is started -/
  | start (started : Option (Nat × Nat))
  | endRound

/-- A message comes from a process that was started, and a process is a new one. -/
def step (s : PluginMonitor) : Event → Option PluginMonitor
  | .message pid rxTime =>
      match s.processes pid with
      | none => none
      | some process =>
          some { s with
            messages := onMessageReceived s.messages process.pluginId rxTime
            processes := fun k =>
              if k = pid then some { process with lastMessage := some rxTime }
              else s.processes k }
  | .merge =>
      if s.phase = .sleeping then
        some { s with
          messages := fun _ => none
          runningPlugins := mergeMessages s.messages [] s.runningPlugins
          phase := .merged }
      else none
  | .queryFails => if s.phase = .merged then some { s with phase := .sleeping } else none
  | .check enabled maxStartupTime dead now =>
      if s.phase = .merged then some (s.check enabled maxStartupTime dead now) else none
  | .start started =>
      match s.phase with
      | .starting (entry :: rest) =>
          if started.any fun p => (s.processes p.1).isSome then none
          else some { s.startPlugin entry started with phase := .starting rest }
      | _ => none
  | .endRound => if s.phase = .starting [] then some { s with phase := .sleeping } else none

end PluginMonitor

end V2XHub.Tmx
