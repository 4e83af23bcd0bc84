import Mathlib.Data.String.Basic
import V2XHub.Lib.OrderedMap
import V2XHub.Tmx.ApiMessages
import V2XHub.Tmx.MessageProfiler

/-!
# The core's side of a plugin connection

The processor threads of a connection hand each message to the handler for its type. A handler that
fails an assertion, follows a null pointer or lets an exception out ends the core with all its
plugins, so what a handler does not return from is part of the model. Whether a call to the database
throws comes with each message.

Messages that are no system messages go to the router, which calls the core's own plugins before it
returns; the message profiler inserts new types and asserts that they have an id.
-/

namespace V2XHub.Tmx

open V2XHub.Lib

/-- `PluginConfigurationParameterEntry`, and a row of the table. -/
structure PluginConfigurationParameterEntry where
  key : String
  value : String
  defaultValue : String
  deriving DecidableEq

structure RegistrationInformation where
  name : String
  description : String
  version : String
  configDefaultEntries : List PluginConfigurationParameterEntry
  messageTypeEntries : List MessageTypeEntry
  deriving DecidableEq

inductive IvpLogLevel where
  | error
  | fatal
  deriving DecidableEq

/-- What the core sends back. -/
inductive CoreReply where
  | error (level : IvpLogLevel)
  | config (items : List (String × String))
  deriving DecidableEq

/-- What becomes of the database calls of `registerPlugin`. -/
inductive RegisterReply where
  | fails
  /-- the id of the plugin, its parameters, and whether its status can be set -/
  | done (id : Nat) (configMap : List PluginConfigurationParameterEntry) (statusSet : Bool)

/-- The database, as a message finds it. -/
structure DatabaseReplies where
  register : RegisterReply
  /-- a `ConfigContext` can be made -/
  connects : Bool
  /-- `initializePluginConfigParameters` does not throw -/
  initializes : Bool
  /-- the status items can be written -/
  statusItems : Bool
  /-- what the profiler finds -/
  insertType : InsertReply

/-- A connection, with what it shares with the rest of the core. -/
structure CoreConnection where
  clientNames : List String
  profiler : MessageProfiler
  registered : Bool := false
  name : String := ""
  pluginId : Nat := 0
  configValues : List PluginConfigurationParameterEntry := []
  filters : Option (List MessageFilterEntry) := none
  /-- newest first -/
  replies : List CoreReply := []
  halted : Option Halt := none

namespace CoreConnection

variable (collate : String → String)

/-- A handler leaves the connection in a state, also where it does not return. -/
abbrev Result := CoreConnection × Except Halt Unit

def reply (c : CoreConnection) (r : CoreReply) : CoreConnection :=
  { c with replies := r :: c.replies }

/-- `catch (PluginException &e)`, with what is done there. -/
def catchPlugin (r : Result) (handle : CoreConnection → CoreConnection) : Result :=
  match r with
  | (c, .error (.thrown .plugin)) => (handle c, .ok ())
  | r => r

/-! ## `Plugin` -/

/-- Most operations throw if the plugin is not registered. -/
def requireRegistered (c : CoreConnection) : Except Halt Unit :=
  if c.registered then .ok () else .error (.thrown .plugin)

/-- The message as the internal plugins see it. -/
def profiled (c : CoreConnection) (msg : IvpMessage) : ProfiledMessage where
  type := msg.type
  subtype := msg.subtype
  source := some c.name
  sourceId := c.pluginId

/-- The profiler's share of a broadcast. An assertion that failed before is not this message's. -/
def profile (c : CoreConnection) (msg : IvpMessage) (rxTime : Nat) (insertType : InsertReply) :
    MessageProfiler :=
  { c.profiler with assertFailed := false }.onMessageReceived collate (c.profiled msg) rxTime
    insertType

def sendMessageToRouter (c : CoreConnection) (msg : IvpMessage) (rxTime : Nat)
    (insertType : InsertReply) : Result :=
  match c.requireRegistered with
  | .error h => (c, .error h)
  | .ok () =>
      let profiler := c.profile collate msg rxTime insertType
      if profiler.assertFailed then (c, .error .assertion)
      else ({ c with profiler := profiler }, .ok ())

/-- The name is taken before the database is asked. A failure to write the event log is caught
there, and the heartbeat at the end, which has no type, is not profiled. -/
def registerPlugin (c : CoreConnection) (info : RegistrationInformation) (db : RegisterReply) :
    Result :=
  if info.name = "" then (c, .error (.thrown .plugin))
  else if info.name ∈ c.clientNames then (c, .error (.thrown .plugin))
  else
    let c := { c with clientNames := info.name :: c.clientNames }
    match db with
    | .fails => (c, .error (.thrown .plugin))
    | .done id configMap statusSet =>
        let c := { c with
          name := info.name, pluginId := id, configValues := configMap, registered := true }
        if statusSet then (c, .ok ()) else (c, .error (.thrown .plugin))

def subscribeForMessages (c : CoreConnection) (filters : List MessageFilterEntry) : Result :=
  match c.requireRegistered with
  | .error h => (c, .error h)
  | .ok () => ({ c with filters := some filters }, .ok ())

/-- A failure of the database is caught here; what was written is read by the configuration
monitor. -/
def setConfigValue (c : CoreConnection) (key : String) : Except Halt Unit :=
  match c.requireRegistered with
  | .error h => .error h
  | .ok () =>
      if c.configValues.any fun e => e.key = key then .ok () else .error (.thrown .plugin)

/-- `setStatusItems` and `removeStatusItems`, which turn a `DbException` into a
`PluginException`. -/
def writeStatusItems (c : CoreConnection) (stored : Bool) : Result :=
  match c.requireRegistered with
  | .error h => (c, .error h)
  | .ok () => if stored then (c, .ok ()) else (c, .error (.thrown .plugin))

/-- A failure of the database is caught by the logger. -/
def addEventLogEntry (c : CoreConnection) : Result := (c, c.requireRegistered)

/-! ## The handlers of the fast processor -/

/-- A `std::string` of a pointer. -/
def toStdString : Option String → Except Halt String
  | some s => .ok s
  | none => .error .nullPointer

/-- The loop over the configuration of a manifest. -/
def configDefaultEntries : List CJson → Except Halt (List PluginConfigurationParameterEntry)
  | [] => .ok []
  | json :: rest => do
      let item := ivpConfig_getItem json
      let key ← toStdString item.key
      let defaultValue ← toStdString item.defaultValue
      let entries ← configDefaultEntries rest
      return ⟨key, defaultValue, defaultValue⟩ :: entries

/-- The loop over the message types of a manifest. -/
def messageTypeEntries : List CJson → Except Halt (List MessageTypeEntry)
  | [] => .ok []
  | json :: rest => do
      let entry := ivpMsgType_getEntry json
      let type ← toStdString entry.type
      let subtype ← toStdString entry.subtype
      let entries ← messageTypeEntries rest
      return { type := type, subtype := subtype } :: entries

def registrationInformation (manifest : IvpManifest) : Except Halt RegistrationInformation := do
  let configItems ← collectionItems manifest.configuration
  let configEntries ← configDefaultEntries configItems
  let typeItems ← collectionItems manifest.messageTypes
  let typeEntries ← messageTypeEntries typeItems
  return {
    name := manifest.name.getD ""
    description := manifest.description.getD ""
    version := manifest.version.getD ""
    configDefaultEntries := configEntries
    messageTypeEntries := typeEntries }

/-- The values that are sent after a registration are those that are not the default. -/
def configReply (configValues : List PluginConfigurationParameterEntry) :
    List (String × String) :=
  (configValues.filter fun e => e.value ≠ e.defaultValue).map fun e => (e.key, e.value)

def processRegistrationMessage (c : CoreConnection) (msg : CoreMessage) (db : RegisterReply) :
    Result :=
  match ivpRegister_getManifest msg with
  | .error h => (c, .error h)
  | .ok manifest =>
      if ivpRegister_validateManifest manifest ≠ .none then (c, .ok ())
      else
        match registrationInformation manifest with
        | .error h => (c, .error h)
        | .ok info =>
            let r : Result :=
              match c.registerPlugin info db with
              | (c, .ok ()) => (c.reply (.config (configReply c.configValues)), .ok ())
              | r => r
            catchPlugin r fun c => c.reply (.error .fatal)

def processSubscribeMessage (c : CoreConnection) (msg : CoreMessage) : Result :=
  catchPlugin
    (c.subscribeForMessages
      (PluginConnection.filterEntries (ivpSubscribe_getFilterEntries msg.payload)))
    fun c => c.reply (.error .error)

/-- One item of a configuration message: a global parameter is collected for the database, the
others are set at once. -/
def processConfigItem (c : CoreConnection) (msg : CoreMessage) (item : IvpConfigItem) :
    Except Halt (List PluginConfigurationParameterEntry) :=
  match item.key, item.value with
  | none, _ => .error .assertion
  | some _, none => .error .assertion
  | some key, some value =>
      match msg.source with
      -- `strcmp`
      | none => .error .nullPointer
      | some source =>
          if source = "_global" then
            (toStdString item.defaultValue).map fun defaultValue => [⟨key, value, defaultValue⟩]
          else (c.setConfigValue key).map fun _ => []

/-- The loop over the items. -/
def processConfigItems (c : CoreConnection) (msg : CoreMessage) :
    List CJson → Except Halt (List PluginConfigurationParameterEntry)
  | [] => .ok []
  | json :: rest => do
      let globalParams ← c.processConfigItem msg (ivpConfig_getItem json)
      let more ← c.processConfigItems msg rest
      return globalParams ++ more

/-- The `ConfigContext` is made outside of the `try` block, and what is caught there is thrown
again. -/
def processConfigMessage (c : CoreConnection) (msg : CoreMessage) (connects initializes : Bool) :
    Result :=
  match collectionItems msg.payload with
  | .error h => (c, .error h)
  | .ok items =>
      if !connects then (c, .error (.thrown .db))
      else
        match c.processConfigItems msg items with
        | .error h => (c, .error h)
        | .ok _ => if initializes then (c, .ok ()) else (c, .error (.thrown .plugin))

/-- `fastProcessorThread`, for a message. -/
def processFast (c : CoreConnection) (msg : CoreMessage) (rxTime : Nat) (db : DatabaseReplies) :
    Result :=
  match msg.kind with
  | .registration => c.processRegistrationMessage msg db.register
  | .subscribe => c.processSubscribeMessage msg
  | .config => c.processConfigMessage msg db.connects db.initializes
  | _ =>
      catchPlugin (c.sendMessageToRouter collate msg.toIvpMessage rxTime db.insertType)
        fun c => c.reply (.error .error)

/-! ## The handlers of the slow processor -/

/-- The loop over the items: the map of the items to update, and those to remove. -/
def statusItems (updateItems : List (String × String)) (removeItems : List String) :
    List CJson → Except Halt (List (String × String) × List String)
  | [] => .ok (updateItems, removeItems)
  | json :: rest =>
      let item := ivpPluginStatus_getItem json
      match item.value, item.key with
      | none, none => .error .assertion
      | none, some key =>
          statusItems updateItems (if key = "" then removeItems else removeItems ++ [key]) rest
      | some value, key => statusItems (assign (key.getD "") value updateItems) removeItems rest

def processStatusMessage (c : CoreConnection) (msg : CoreMessage) (stored : Bool) : Result :=
  match collectionItems msg.payload with
  | .error h => (c, .error h)
  | .ok items =>
      match statusItems [] [] items with
      | .error h => (c, .error h)
      | .ok _ => catchPlugin (c.writeStatusItems stored) id

def processEventLogMessage (c : CoreConnection) (msg : CoreMessage) : Result :=
  match ivpEventLog_getEventLogEntry msg with
  | .error h => (c, .error h)
  | .ok entry =>
      match entry.description with
      | none => (c, .error .assertion)
      | some description =>
          if description = "" then (c, .error .assertion) else c.addEventLogEntry

/-- `slowProcessorThread`, for a message. -/
def processSlow (c : CoreConnection) (msg : CoreMessage) (db : DatabaseReplies) : Result :=
  match msg.kind with
  | .status => c.processStatusMessage msg db.statusItems
  | .eventLog => c.processEventLogMessage msg
  | _ => (c, .ok ())

/-! ## The connection over time -/

/-- A round of the configuration monitor: values are brought up to date, new keys are added, and
the plugin is told. -/
def configRound (configMap configValues : List PluginConfigurationParameterEntry) :
    List PluginConfigurationParameterEntry × List (String × String) :=
  let known := configValues.map fun e =>
    match configMap.find? fun e' => e'.key = e.key with
    | some e' => if e'.value ≠ e.value then (e', [(e'.key, e'.value)]) else (e, [])
    | none => (e, [])
  let added := configMap.filter fun e' => configValues.all fun e => e.key ≠ e'.key
  (known.map Prod.fst ++ added,
    (known.map Prod.snd).flatten ++ added.map fun e => (e.key, e.value))

inductive Event where
  /-- a text is received and, if it is a message, processed -/
  | text (root : CJson) (rxTime : Nat) (db : DatabaseReplies)
  /-- a round of the configuration monitor -/
  | configRound (configMap : List PluginConfigurationParameterEntry)
  /-- other connections register and end -/
  | clientNames (names : List String)
  /-- the profiler sees messages of others, or stores its counts -/
  | profiler (e : MessageProfiler.Event)

/-- The ids for new rows are new. -/
def idsFresh (c : CoreConnection) (msg : CoreMessage) (rxTime : Nat) (insertType : InsertReply) :
    Bool :=
  (MessageProfiler.Event.message (c.profiled msg.toIvpMessage) rxTime insertType).newId.all
    c.profiler.database.fresh

def process (c : CoreConnection) (msg : CoreMessage) (rxTime : Nat) (db : DatabaseReplies) :
    Result :=
  match msg.kind.speed with
  | .fast => c.processFast collate msg rxTime db
  | .slow => c.processSlow msg db

/-- What does not return is the end of the core. -/
def afterResult : Result → CoreConnection
  | (c, .ok ()) => c
  | (c, .error h) => { c with halted := some h }

def step (c : CoreConnection) (e : Event) : Option CoreConnection :=
  if c.halted.isSome then none
  else
    match e with
    | .text root rxTime db =>
        match ivpMsg_parse root with
        | none => some c
        | some msg =>
            if c.idsFresh msg rxTime db.insertType then
              some (afterResult (c.process collate msg rxTime db))
            else none
    | .configRound configMap =>
        if c.registered then
          let (configValues, changes) := configRound configMap c.configValues
          some { c with
            configValues := configValues
            replies := changes.reverse.map (fun change => .config [change]) ++ c.replies }
        else some c
    | .clientNames names => some { c with clientNames := names }
    | .profiler e => (c.profiler.step collate e).map fun p => { c with profiler := p }

end CoreConnection

end V2XHub.Tmx
