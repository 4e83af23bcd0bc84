import V2XHub.Lib.Run

/-!
# The message profiler

The profiler counts the messages of each source and type, and a thread stores the counts in the
database. Types are looked up in a set that is filled from the database, and a new type is inserted
there first. The set and the map of counts compare texts in which the parts are joined by `||`.

Database rows are compared by a collation, which may take different texts for the same. Assertions
that fail are recorded, since a release build goes on.
-/

namespace V2XHub.Tmx

open V2XHub.Lib

/-! ## Types and keys -/

/-- `MessageTypeEntry`, and a row of `messageType`. -/
structure MessageTypeEntry where
  id : Nat := 0
  type : String
  subtype : String
  deriving DecidableEq

/-- The text by which types are compared. -/
def MessageTypeEntry.text (e : MessageTypeEntry) : String := e.type ++ "||" ++ e.subtype

structure PluginIdMessageTypeKey where
  pluginId : Nat
  messageType : MessageTypeEntry
  deriving DecidableEq

/-- The text by which keys are compared. -/
def PluginIdMessageTypeKey.text (k : PluginIdMessageTypeKey) : String :=
  Nat.repr k.pluginId ++ "||" ++ k.messageType.type ++ "||" ++ k.messageType.subtype

structure ProfileData where
  messageCounts : Nat := 0
  lastReceivedTime : Nat := 0
  receiveTimeForAveraging : List Nat := []
  deriving DecidableEq

/-- One more message; the count is 32 bits. -/
def ProfileData.add (d : ProfileData) (rxTime : Nat) : ProfileData where
  messageCounts := (d.messageCounts + 1) % 4294967296
  lastReceivedTime := rxTime
  receiveTimeForAveraging := d.receiveTimeForAveraging ++ [rxTime]

/-! ## The database -/

/-- A row of `messageActivity`, apart from its keys. -/
structure MessageActivity where
  count : Nat
  lastReceivedTimestamp : Nat
  averageInterval : Nat
  deriving DecidableEq

structure MessageDatabase where
  messageType : List MessageTypeEntry := []
  /-- the activity under a type and a plugin -/
  messageActivity : Nat → Nat → Option MessageActivity := fun _ _ => none

namespace MessageDatabase

variable (collate : String → String)

/-- The row that the database takes for that type and subtype. -/
def findType (db : MessageDatabase) (type subtype : String) : Option MessageTypeEntry :=
  db.messageType.find? fun row =>
    collate row.type = collate type ∧ collate row.subtype = collate subtype

/-- `INSERT … ON DUPLICATE KEY UPDATE`, with the id that a new row gets, and the row. -/
def insertType (db : MessageDatabase) (newId : Nat) (type subtype : String) :
    MessageDatabase × MessageTypeEntry :=
  match db.findType collate type subtype with
  | some row => (db, row)
  | none =>
      ({ db with messageType := db.messageType ++ [⟨newId, type, subtype⟩] },
        ⟨newId, type, subtype⟩)

/-- A new id is not zero and not in use. -/
def fresh (db : MessageDatabase) (newId : Nat) : Bool :=
  newId ≠ 0 ∧ ∀ row ∈ db.messageType, row.id ≠ newId

end MessageDatabase

/-- What becomes of `insertMessageType`. -/
inductive InsertReply where
  /-- an exception, and no row -/
  | refused
  /-- an exception after the row was inserted -/
  | interrupted (newId : Nat)
  /-- no exception, but the row is not found under the text -/
  | notFound
  | done (newId : Nat)
  deriving DecidableEq

/-! ## Messages -/

structure ProfiledMessage where
  type : Option String
  subtype : Option String := none
  source : Option String
  sourceId : Nat
  deriving DecidableEq

/-- A message that is counted. -/
structure CountedMessage where
  sourceId : Nat
  type : String
  subtype : String
  deriving DecidableEq

/-- Heartbeats and messages without a source are not profiled. -/
def ProfiledMessage.counted? (m : ProfiledMessage) : Option CountedMessage :=
  match m.type with
  | none => none
  | some type =>
      if m.source = none ∨ m.source = some "" ∨ m.sourceId = 0 then none
      else some ⟨m.sourceId, type, m.subtype.getD ""⟩

structure MessageProfiler where
  messageTypes : List MessageTypeEntry := []
  profileData : List (PluginIdMessageTypeKey × ProfileData) := []
  database : MessageDatabase := {}
  assertFailed : Bool := false
  /-- an exception has left the refresh thread -/
  terminated : Bool := false
  /-- the messages that were to be counted -/
  received : List CountedMessage := []

namespace MessageProfiler

/-- Insertion into the set. -/
def insertLocalType (types : List MessageTypeEntry) (e : MessageTypeEntry) :
    List MessageTypeEntry :=
  if types.any fun e' => e'.text = e.text then types else types ++ [e]

/-- The profiler at the start; the types may not have been read. -/
def initial (db : MessageDatabase) (read : Bool) : MessageProfiler where
  messageTypes := if read then db.messageType.foldl insertLocalType [] else []
  database := db

section

variable (collate : String → String)

/-- The type of a message as the set has it, or as it is after an attempt to insert it. -/
def lookupType (s : MessageProfiler) (messageType : MessageTypeEntry) (reply : InsertReply) :
    MessageProfiler × MessageTypeEntry :=
  match s.messageTypes.find? fun e => e.text = messageType.text with
  | some localMsgType => (s, localMsgType)
  | none =>
      match reply with
      | .refused => (s, messageType)
      | .interrupted newId =>
          let out := s.database.insertType collate newId messageType.type messageType.subtype
          ({ s with database := out.1 }, messageType)
      | .notFound => ({ s with assertFailed := true }, messageType)
      | .done newId =>
          let out := s.database.insertType collate newId messageType.type messageType.subtype
          let inserted := { messageType with id := out.2.id }
          ({ s with
              database := out.1
              messageTypes :=
                if inserted.id = 0 then s.messageTypes
                else insertLocalType s.messageTypes inserted },
            inserted)

/-- Insertion into the map, which is in the order of the texts. -/
def insertProfile (key : PluginIdMessageTypeKey) (data : ProfileData) :
    List (PluginIdMessageTypeKey × ProfileData) → List (PluginIdMessageTypeKey × ProfileData)
  | [] => [(key, data)]
  | (k, d) :: rest =>
      if key.text < k.text then (key, data) :: (k, d) :: rest
      else (k, d) :: insertProfile key data rest

/-- The message is added to the data of its key. -/
def addProfile (profileData : List (PluginIdMessageTypeKey × ProfileData))
    (key : PluginIdMessageTypeKey) (rxTime : Nat) : List (PluginIdMessageTypeKey × ProfileData) :=
  if profileData.any fun q => q.1.text = key.text then
    profileData.map fun q => if q.1.text = key.text then (q.1, q.2.add rxTime) else q
  else insertProfile key (ProfileData.add {} rxTime) profileData

def onMessageReceived (s : MessageProfiler) (m : ProfiledMessage) (rxTime : Nat)
    (reply : InsertReply) : MessageProfiler :=
  match m.counted? with
  | none => s
  | some r =>
      let out := s.lookupType collate { type := r.type, subtype := r.subtype } reply
      { out.1 with
        assertFailed := out.1.assertFailed || out.2.id = 0
        profileData := addProfile out.1.profileData ⟨r.sourceId, out.2⟩ rxTime
        received := out.1.received ++ [r] }

/-- The receive times in the window. -/
def purge (purgeWindow currentTime : Nat) (d : ProfileData) : ProfileData :=
  { d with
    receiveTimeForAveraging :=
      d.receiveTimeForAveraging.filter fun rxTime => ¬ purgeWindow + rxTime < currentTime }

/-- The `MessageActivityEntry` of purged data. -/
def activityEntry (purgeWindow : Nat) (d : ProfileData) : MessageActivity where
  count := d.messageCounts
  lastReceivedTimestamp := d.lastReceivedTime / 1000
  averageInterval :=
    if d.receiveTimeForAveraging = [] then 0
    else purgeWindow / d.receiveTimeForAveraging.length

/-- `insertOrUpdateMessageActivity` for the data of a key, if the row is written. -/
def storeActivity (purgeWindow : Nat) (stores : String → Bool)
    (activity : Nat → Nat → Option MessageActivity) (q : PluginIdMessageTypeKey × ProfileData) :
    Nat → Nat → Option MessageActivity :=
  fun messageTypeId pluginId =>
    if stores q.1.text ∧ messageTypeId = q.1.messageType.id ∧ pluginId = q.1.pluginId then
      some (activityEntry purgeWindow q.2)
    else activity messageTypeId pluginId

/-- One round of `dbRefreshThreadEntry`; `stores` says of which keys the row is written. -/
def refresh (s : MessageProfiler) (purgeWindow currentTime : Nat) (stores : String → Bool) :
    MessageProfiler :=
  let profileData := s.profileData.map fun q => (q.1, purge purgeWindow currentTime q.2)
  { s with
    profileData := profileData
    assertFailed := s.assertFailed ||
      profileData.any fun q => q.1.messageType.id = 0 ∨ q.1.pluginId = 0
    database.messageActivity :=
      profileData.foldl (storeActivity purgeWindow stores) s.database.messageActivity }

inductive Event where
  | message (m : ProfiledMessage) (rxTime : Nat) (reply : InsertReply)
  /-- a plugin registers a type -/
  | registerType (newId : Nat) (type subtype : String)
  | refresh (purgeWindow currentTime : Nat) (stores : String → Bool)
  /-- the refresh thread cannot connect -/
  | refreshFails

/-- The id for a new row that comes with an event, if one is needed. -/
def Event.newId : Event → Option Nat
  | .message _ _ (.interrupted newId) => some newId
  | .message _ _ (.done newId) => some newId
  | .registerType newId _ _ => some newId
  | _ => none

def step (s : MessageProfiler) (e : Event) : Option MessageProfiler :=
  if s.terminated ∨ e.newId.any fun newId => !s.database.fresh newId then none
  else
    match e with
    | .message m rxTime reply => some (s.onMessageReceived collate m rxTime reply)
    | .registerType newId type subtype =>
        some { s with database := (s.database.insertType collate newId type subtype).1 }
    | .refresh purgeWindow currentTime stores => some (s.refresh purgeWindow currentTime stores)
    | .refreshFails => some { s with terminated := true }

end

end MessageProfiler

end V2XHub.Tmx
