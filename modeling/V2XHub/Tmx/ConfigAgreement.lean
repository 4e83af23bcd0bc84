import V2XHub.Lib.Run
import V2XHub.Tmx.PluginConnection

/-!
# The configuration of a plugin on both sides

The values of a plugin's configuration are in the database, where a collation decides which keys are
the same; everywhere else keys are compared as they are. The core reads them when the plugin
registers, sends those that are not the default, and from then on sends what its monitor finds
changed. The plugin has two collections, the configuration of its manifest and one for all other
keys, and keeps them when the connection is lost.

A registration is three steps: the database, the copy of the values, and the reply. A round of the
monitor is two: reading the database, and comparing and sending under the lock.
-/

namespace V2XHub.Tmx

open V2XHub.Lib

/-! ## The plugin -/

/-- An item of the configuration in a manifest. -/
structure ConfigItem where
  key : String
  /-- absent, or no string, or a text -/
  value : Option (Option String) := none
  defaultValue : String
  deriving DecidableEq

/-- `ivpConfig_getCopyOfValueFromCollection`. -/
def ivpConfig_getCopyOfValueFromCollection (collection : List ConfigItem) (key : String) :
    Option String :=
  match collection.find? fun item => item.key = key with
  | none => none
  | some item => item.value.getD (some item.defaultValue)

/-- `ivpConfig_updateValueInCollection`, on the first item of the key. -/
def ivpConfig_updateValueInCollection (key value : String) : List ConfigItem → List ConfigItem
  | [] => []
  | item :: rest =>
      if item.key = key then { item with value := some (some value) } :: rest
      else item :: ivpConfig_updateValueInCollection key value rest

structure ConfigClient where
  config : List ConfigItem
  /-- `_sysConfig`, whose items all have a value -/
  sysConfig : List ConfigItem := []
  state : IvpPluginState := .disconnected
  /-- the `PluginClient` is in the map of instances -/
  constructed : Bool := false
  deriving DecidableEq

namespace ConfigClient

/-- The text that `GetConfigValue` converts. The API asks for a key that is not empty. -/
def getConfigValue (c : ConfigClient) (key : String) : Option String :=
  if key = "" then none
  else
    (ivpConfig_getCopyOfValueFromCollection c.config key).or
      (ivpConfig_getCopyOfValueFromCollection c.sysConfig key)

/-- `PluginClient::OnConfigChanged`. -/
def onConfigChanged (c : ConfigClient) (key value : String) : ConfigClient :=
  if (ivpConfig_getCopyOfValueFromCollection c.sysConfig key).isSome then
    { c with sysConfig := ivpConfig_updateValueInCollection key value c.sysConfig }
  else if (ivpConfig_getCopyOfValueFromCollection c.config key).isSome then c
  else
    -- `SetSystemConfigValue`
    { c with sysConfig := c.sysConfig ++ [⟨key, some (some value), value⟩] }

/-- One item of a configuration message. -/
def receiveItem (c : ConfigClient) (item : String × String) : ConfigClient :=
  let c := { c with config := ivpConfig_updateValueInCollection item.1 item.2 c.config }
  if c.constructed then c.onConfigChanged item.1 item.2 else c

/-- `ivp_onMessageReceived` for a configuration message. -/
def onMessageReceived (c : ConfigClient) (items : List (String × String)) : ConfigClient :=
  let c := items.foldl receiveItem c
  if c.state = .connected then { c with state := .registered } else c

end ConfigClient

/-! ## The database -/

/-- A row for the plugin, or for all plugins. -/
structure ConfigRow where
  global : Bool
  entry : PluginConfigurationParameterEntry
  deriving DecidableEq

/-- `getPluginConfigParameters`: the last row of a key is the one in the map. -/
def getPluginConfigParameters : List ConfigRow → List PluginConfigurationParameterEntry
  | [] => []
  | row :: rest =>
      if rest.any fun row' => row'.entry.key = row.entry.key then getPluginConfigParameters rest
      else row.entry :: getPluginConfigParameters rest

/-- `INSERT … ON DUPLICATE KEY UPDATE` for an item of the manifest. The collation decides what a
duplicate is, and the row keeps its key. -/
def insertDefault (collate : String → String) (rows : List ConfigRow) (item : ConfigItem) :
    List ConfigRow :=
  if rows.any fun row => row.global = false ∧ collate row.entry.key = collate item.key then
    rows.map fun row =>
      if row.global = false ∧ collate row.entry.key = collate item.key then
        { row with entry := { row.entry with defaultValue := item.defaultValue } }
      else row
  else rows ++ [⟨false, ⟨item.key, item.defaultValue, item.defaultValue⟩⟩]

/-- `initializePluginConfigParameters`: rows of the plugin with other keys are removed. -/
def initializePluginConfigParameters (collate : String → String) (rows : List ConfigRow)
    (manifest : List ConfigItem) : List ConfigRow :=
  (manifest.foldl (insertDefault collate) rows).filter fun row =>
    row.global || manifest.any fun item => collate item.key = collate row.entry.key

/-! ## Both sides and the connection -/

/-- Where the core is with the registration of the connection. -/
inductive RegistrationPhase where
  | unregistered
  /-- the registration was refused, and there will be no other on this connection -/
  | refused
  /-- in the database, with `mRegistered` set -/
  | stored
  /-- with a copy of the values for the reply -/
  | copied (reply : List (String × String))
  /-- the reply was sent, or will not be -/
  | done
  deriving DecidableEq

/-- `mRegistered`. -/
def RegistrationPhase.isRegistered : RegistrationPhase → Bool
  | .unregistered | .refused => false
  | _ => true

structure ConfigWorld where
  rows : List ConfigRow
  client : ConfigClient
  phase : RegistrationPhase := .unregistered
  /-- `mConfigValues` -/
  configValues : List PluginConfigurationParameterEntry := []
  /-- what the monitor has read and not yet compared -/
  configMap : Option (List PluginConfigurationParameterEntry) := none
  /-- messages to the plugin, oldest first -/
  inFlight : List (List (String × String)) := []
  /-- the database was not changed since the monitor has read it -/
  readCurrent : Bool := false
  /-- the monitor has made a round since the last change -/
  settled : Bool := false
  deriving DecidableEq

namespace ConfigWorld

variable (collate : String → String) (manifest : List ConfigItem)

def initial (rows : List ConfigRow) : ConfigWorld where
  rows := rows
  client := { config := manifest }

inductive Event where
  /-- the database is changed by others -/
  | change (rows : List ConfigRow)
  | construct
  | connect
  | disconnect
  | refuse
  /-- the plugin is registered; without its status set there is no reply -/
  | register (statusSet : Bool)
  | copyValues
  | sendReply
  | monitorRead
  | monitorCompare
  | deliver
  deriving DecidableEq

def step (s : ConfigWorld) : Event → Option ConfigWorld
  | .change rows => some { s with rows := rows, readCurrent := false, settled := false }
  | .construct => some { s with client.constructed := true }
  | .connect =>
      if s.client.state = .disconnected then
        some { s with
          client.state := .connected
          phase := .unregistered
          configValues := []
          configMap := none
          inFlight := [] }
      else none
  | .disconnect =>
      if s.client.state = .disconnected then none
      else
        some { s with
          client.state := .disconnected
          phase := .unregistered
          configValues := []
          configMap := none
          inFlight := [] }
  | .refuse =>
      if s.client.state ≠ .disconnected ∧ s.phase = .unregistered then
        some { s with phase := .refused }
      else none
  | .register statusSet =>
      if s.client.state ≠ .disconnected ∧ s.phase = .unregistered then
        let rows := initializePluginConfigParameters collate s.rows manifest
        some { s with
          rows := rows
          configValues := getPluginConfigParameters rows
          phase := if statusSet then .stored else .done
          readCurrent := false }
      else none
  | .copyValues =>
      if s.phase = .stored then
        some { s with phase := .copied (CoreConnection.configReply s.configValues) }
      else none
  | .sendReply =>
      match s.phase with
      | .copied reply => some { s with phase := .done, inFlight := s.inFlight ++ [reply] }
      | _ => none
  | .monitorRead =>
      if s.phase.isRegistered then
        some { s with configMap := some (getPluginConfigParameters s.rows), readCurrent := true }
      else none
  | .monitorCompare =>
      match s.configMap with
      | some configMap =>
          let (configValues, changes) := CoreConnection.configRound configMap s.configValues
          some { s with
            configValues := configValues
            configMap := none
            inFlight := s.inFlight ++ changes.map fun change => [change]
            settled := s.settled || s.readCurrent }
      | none => none
  | .deliver =>
      match s.inFlight with
      | [] => none
      | msg :: rest => some { s with client := s.client.onMessageReceived msg, inFlight := rest }

/-- The plugin sees what the database has. -/
def Agrees (s : ConfigWorld) : Prop :=
  ∀ e ∈ getPluginConfigParameters s.rows, s.client.getConfigValue e.key = some e.value

/-- The claim on a state: whenever the plugin is registered and nothing is under way. -/
def AgreesWhenSettled (s : ConfigWorld) : Prop :=
  s.client.state = .registered → s.inFlight = [] → s.settled = true → s.Agrees

end ConfigWorld

end V2XHub.Tmx
