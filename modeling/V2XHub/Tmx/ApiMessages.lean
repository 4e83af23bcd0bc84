import V2XHub.Tmx.ConnectionQueues
import V2XHub.Tmx.MessageRouter

/-!
# The messages of the plugin API

A plugin and the core exchange `IvpMessage`s, JSON documents with a header and a payload. The API
reads payloads through cJSON, whose lookups ignore the case of names and find nothing in a value
that is no object. What the code takes for granted it asserts, so the readers below end with a
result or with a `Halt`.
-/

namespace V2XHub.Tmx

/-! ## cJSON -/

inductive CJson where
  | false
  | true
  | null
  | number (valueint : Int)
  | string (valuestring : String)
  | array (items : List CJson)
  | object (members : List (String × CJson))

namespace CJson

/-- `cJSON_strcasecmp`. -/
def sameName (s1 s2 : String) : Bool :=
  s1.toList.map Char.toLower = s2.toList.map Char.toLower

/-- `cJSON_GetObjectItem`; the items of an array have no names. -/
def getObjectItem (json : CJson) (name : String) : Option CJson :=
  match json with
  | .object members => (members.find? fun m => sameName m.1 name).map Prod.snd
  | _ => none

/-- `cJSONxtra_tryGetStr`. -/
def tryGetStr (root : CJson) (fieldName : String) : Option String :=
  match root.getObjectItem fieldName with
  | some (.string s) => some s
  | _ => none

/-- `cJSONxtra_tryGetInt` and its variants. -/
def tryGetInt (root : CJson) (fieldName : String) : Option Int :=
  match root.getObjectItem fieldName with
  | some (.number z) => some z
  | _ => none

end CJson

/-- The value of an `unsigned int`. -/
def toUnsigned (z : Int) : UInt32 := UInt32.ofNat (z % 4294967296).toNat

/-! ## What can go wrong -/

/-- The exceptions of the core. -/
inductive CoreException where
  /-- `PluginException` and the classes derived from it -/
  | plugin
  /-- `DbException` -/
  | db
  deriving DecidableEq

/-- How a function does not return. -/
inductive Halt where
  | assertion
  | nullPointer
  | thrown (e : CoreException)
  deriving DecidableEq

/-! ## Messages -/

/-- An `IvpMessage` as the core receives it. -/
structure CoreMessage extends IvpMessage where
  source : Option String
  payload : Option CJson

/-- `ivpMsg_parse` on the parsed text. -/
def ivpMsg_parse (root : CJson) : Option CoreMessage :=
  (root.getObjectItem "header").map fun header =>
    { type := header.tryGetStr "type"
      subtype := header.tryGetStr "subtype"
      flags := toUnsigned ((header.tryGetInt "flags").getD 0)
      source := header.tryGetStr "source"
      payload := root.getObjectItem "payload" }

/-- The tests for the types that the API reserves. -/
def CoreMessage.kind (msg : CoreMessage) : MessageKind :=
  if msg.type = some "__register" then .registration
  else if msg.type = some "__subscribe" then .subscribe
  else if msg.type = some "__config" then .config
  else if msg.type = some "__status" then .status
  else if msg.type = some "__eventLog" then .eventLog
  else .other

/-- The items of a collection, which `getItemCount` asserts to be an array. -/
def collectionItems : Option CJson → Except Halt (List CJson)
  | none => .ok []
  | some (.array items) => .ok items
  | some _ => .error .assertion

/-- The error numbers of a manifest. -/
inductive IvpErrorNumber where
  | none
  | pluginNoName
  | configFormat
  | configDuplicateKey
  | configMissingKey
  | configMissingDefault
  | msgTypeCollectionFormat
  | msgTypeCollectionMissingType
  | msgTypeCollectionMissingSubType
  | msgTypeCollectionDuplicate
  deriving DecidableEq

/-- A member that may be absent but must be a string. -/
def hasOtherType (item : CJson) (fieldName : String) : Bool :=
  (item.getObjectItem fieldName).isSome && (item.tryGetStr fieldName).isNone

/-! ## Configuration -/

structure IvpConfigItem where
  key : Option String
  value : Option String
  defaultValue : Option String
  description : Option String

/-- `ivpConfig_getItem`. -/
def ivpConfig_getItem (item : CJson) : IvpConfigItem where
  key := item.tryGetStr "key"
  value := item.tryGetStr "value"
  defaultValue := item.tryGetStr "default"
  description := item.tryGetStr "description"

/-- The loop of `ivpConfig_validate`, with the keys of the items before. -/
def ivpConfig_validateItems (checked : List String) : List CJson → IvpErrorNumber
  | [] => .none
  | item :: rest =>
      match item.tryGetStr "key" with
      | none => .configMissingKey
      | some key =>
          if (item.tryGetStr "default").isNone then .configMissingDefault
          else if hasOtherType item "description" then .configFormat
          else if key ∈ checked then .configDuplicateKey
          else ivpConfig_validateItems (checked ++ [key]) rest

def ivpConfig_validate : Option CJson → IvpErrorNumber
  | none => .none
  | some (.array items) => ivpConfig_validateItems [] items
  | some _ => .configFormat

/-! ## Message types -/

structure IvpMessageTypeEntry where
  type : Option String
  subtype : Option String
  description : Option String

/-- `ivpMsgType_getEntry`. -/
def ivpMsgType_getEntry (item : CJson) : IvpMessageTypeEntry where
  type := item.tryGetStr "type"
  subtype := item.tryGetStr "subtype"
  description := item.tryGetStr "description"

/-- The loop of `ivpMsgType_validateCollection`, with the types of the items before. -/
def ivpMsgType_validateItems (checked : List (String × String)) : List CJson → IvpErrorNumber
  | [] => .none
  | item :: rest =>
      match item.tryGetStr "type" with
      | none => .msgTypeCollectionMissingType
      | some type =>
          match item.tryGetStr "subtype" with
          | none => .msgTypeCollectionMissingSubType
          | some subtype =>
              if hasOtherType item "description" then .msgTypeCollectionFormat
              else if (type, subtype) ∈ checked then .msgTypeCollectionDuplicate
              else ivpMsgType_validateItems (checked ++ [(type, subtype)]) rest

def ivpMsgType_validateCollection : Option CJson → IvpErrorNumber
  | none => .none
  | some (.array items) => ivpMsgType_validateItems [] items
  | some _ => .msgTypeCollectionFormat

/-! ## Manifests -/

/-- The parts of a manifest that the core reads. -/
structure IvpManifest where
  name : Option String
  description : Option String
  version : Option String
  configuration : Option CJson
  messageTypes : Option CJson

def ivpRegister_getManifestFromJson (manifest : CJson) : IvpManifest where
  name := manifest.tryGetStr "name"
  description := manifest.tryGetStr "description"
  version := manifest.tryGetStr "version"
  configuration := manifest.getObjectItem "configuration"
  messageTypes := manifest.getObjectItem "messageTypes"

/-- The payload of a registration message is asserted to be there. -/
def ivpRegister_getManifest (msg : CoreMessage) : Except Halt IvpManifest :=
  match msg.payload with
  | none => .error .assertion
  | some payload => .ok (ivpRegister_getManifestFromJson payload)

def ivpRegister_validateManifest (manifest : IvpManifest) : IvpErrorNumber :=
  if manifest.name = none ∨ manifest.name = some "" then .pluginNoName
  else if ivpConfig_validate manifest.configuration ≠ .none then
    ivpConfig_validate manifest.configuration
  else ivpMsgType_validateCollection manifest.messageTypes

/-! ## Subscriptions, status items and event log entries -/

/-- `ivpSubscribe_getFilterEntry`. -/
def ivpSubscribe_getFilterEntry (entry : CJson) : SubscribeEntry where
  type := entry.tryGetStr "type"
  subtype := entry.tryGetStr "subtype"
  flagmask := toUnsigned ((entry.tryGetInt "flagmask").getD 0)

/-- The entries of a subscribe message; there are none in a payload that is no array. -/
def ivpSubscribe_getFilterEntries : Option CJson → List SubscribeEntry
  | some (.array items) => items.map ivpSubscribe_getFilterEntry
  | _ => []

structure IvpPluginStatusItem where
  key : Option String
  value : Option String

/-- `ivpPluginStatus_getItem`. -/
def ivpPluginStatus_getItem (item : CJson) : IvpPluginStatusItem where
  key := item.tryGetStr "key"
  value := item.tryGetStr "value"

structure IvpEventLogEntry where
  /-- absent if it was not read -/
  level : Option Int
  description : Option String

/-- The payload of an event log message is asserted to be there. -/
def ivpEventLog_getEventLogEntry (msg : CoreMessage) : Except Halt IvpEventLogEntry :=
  match msg.payload with
  | none => .error .assertion
  | some payload => .ok ⟨payload.tryGetInt "level", payload.tryGetStr "description"⟩

/-- The state of the connection on the side of a plugin. -/
inductive IvpPluginState where
  | disconnected
  | connected
  | registered
  | error
  deriving DecidableEq

end V2XHub.Tmx
