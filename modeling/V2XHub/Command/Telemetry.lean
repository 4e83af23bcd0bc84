import V2XHub.Command.WriteJson
import V2XHub.Lib.Run

/-!
# Telemetry

Once a second the plugin asks `TmxControl` for six kinds of data about the plugins. A session gets
all of it once, and from then on only what a round has changed: `GetTelemetry` compares the new data
with the texts it remembers, plugin by plugin, and puts together the texts of the updates. A round
replaces the updates of the round before, and a session sends them when its socket is writeable.

The client of a session is in the model too: it reads the messages as JSON and merges them into what
it has, string by string.
-/

namespace V2XHub.Command

open V2XHub.Lib
open V2XHub.Lib.JsonText

inductive DataType where
  | list
  | config
  | status
  | state
  | messages
  | systemConfig
  deriving DecidableEq, Repr

/-! ## Paths -/

/-- The path with that separator that a text stands for. -/
def splitPath (sep : Char) (text : String) : List String :=
  if text = "" then [] else (text.toList.splitOn sep).map String.ofList

namespace Ptree

/-- `get_child` with a path. -/
def getPath (t : Ptree) : List String → Option Ptree
  | [] => some t
  | key :: path => (t.getChild key).bind fun t' => t'.getPath path

/-- `put_child` in an empty tree. -/
def nest (t : Ptree) : List String → Ptree
  | [] => t
  | key :: path => .node "" [(key, t.nest path)]

mutual

/-- The tree that `read_json` makes of a document. -/
def ofDoc : Doc → Ptree
  | .text value => .node value []
  | .object members => .node "" (ofMembers members)
  | .array elements => .node "" (ofElements elements)

def ofMembers : List (String × Doc) → List (String × Ptree)
  | [] => []
  | (key, value) :: members => (key, ofDoc value) :: ofMembers members

def ofElements : List Doc → List (String × Ptree)
  | [] => []
  | value :: elements => ("", ofDoc value) :: ofElements elements

end

end Ptree

/-! ## The text of one plugin -/

/-- `isspace`. -/
def isBlank (c : Char) : Bool := c = ' ' ∨ (9 ≤ c.toNat ∧ c.toNat ≤ 13)

/-- `boost::algorithm::trim`. -/
def trim (text : List Char) : List Char :=
  ((text.dropWhile isBlank).reverse.dropWhile isBlank).reverse

/-- `pJSON`. A name with dots in it is a path. -/
def pluginJSON (ending : Bool) (name : String) (plugin : Ptree) : List Char :=
  trim (writeJson ending (plugin.nest (splitPath '.' name)))

/-- `read_json` of the remembered text, which is one that was written. -/
def oldPlugin : Option (List Char) → Ptree
  | none => .node "" []
  | some text => ((readDoc text).map Ptree.ofDoc).getD (.node "" [])

/-- `oldPlugin.get_child(pluginKeyPath)`. -/
def oldData (remembered : Option (List Char)) (name : String) : Option Ptree :=
  (oldPlugin remembered).getPath (splitPath '|' name)

/-- `boost::replace_all(val, "\"", "\\\"")`. -/
def replaceQuotes (value : String) : List Char :=
  value.toList.flatMap fun c => if c = '"' then ['\\', '"'] else [c]

/-- A name and a value, as the updates have them. -/
def pairText (nvp : String × Ptree) : List Char :=
  '"' :: nvp.1.toList ++ '"' :: ':' :: ' ' :: '"' :: replaceQuotes nvp.2.data ++ ['"']

/-- The pairs that are not found with the same value in the old data. -/
def changedPairs (old : Option Ptree) (pairs : List (String × Ptree)) : List (String × Ptree) :=
  pairs.filter fun nvp =>
    (old.bind fun t => t.getPath (splitPath '|' nvp.1)).map Ptree.data ≠ some nvp.2.data

/-- A configuration variable with the pairs that have changed, if there are any. -/
def changedVariable (old : Option Ptree) (cfg : String × Ptree) : Option (List Char) :=
  match changedPairs (old.bind fun t => t.getPath (splitPath '|' cfg.1)) cfg.2.children with
  | [] => none
  | pairs => some ('"' :: cfg.1.toList ++ '"' :: ':' :: ' ' :: '\x7b' ::
      commaSeparated (pairs.map pairText) ++ ['\x7d'])

/-- `pJSON.find(part) != string::npos`. -/
def finds (part : List Char) : List Char → Bool
  | [] => part.isEmpty
  | c :: text => part.isPrefixOf (c :: text) || finds part text

/-- The elements whose text is not found in the text of the plugin. It is the new text, so what is
compared is whether the writer ends a text with a newline. -/
def missingElements (ending : Bool) (pJSON : List Char) (elements : List (String × Ptree)) :
    List (List Char) :=
  (elements.map fun element => writeJson ending element.2).filter fun text => !finds text pJSON

/-- What follows the name of the plugin in its update. -/
def updateValue (k : DataType) (ending : Bool) (old : Option Ptree) (pJSON : List Char)
    (plugin : Ptree) : List Char :=
  match k with
  | .list | .state =>
      '\x7b' :: commaSeparated ((changedPairs old plugin.children).map pairText) ++ ['\x7d']
  | .config =>
      '\x7b' :: commaSeparated (plugin.children.filterMap (changedVariable old)) ++ ['\x7d']
  | .status => '"' :: plugin.data.toList ++ ['"']
  | .messages => '[' :: commaSeparated (missingElements ending pJSON plugin.children) ++ [']']
  | .systemConfig => commaSeparated (missingElements ending pJSON plugin.children)

/-- The update of a plugin. That of the system configuration has no quote after the name. -/
def updateText (k : DataType) (ending : Bool) (remembered : Option (List Char)) (name : String)
    (plugin : Ptree) : List Char :=
  let value := updateValue k ending (oldData remembered name) (pluginJSON ending name plugin) plugin
  '"' :: name.toList ++ if k = .systemConfig then value else '"' :: ':' :: ' ' :: value

/-! ## A round -/

/-- A `std::map` of texts. That its entries are ordered by name makes no difference to a client. -/
abbrev TextMap := List (String × List Char)

def TextMap.assign (m : TextMap) (name : String) (text : List Char) : TextMap :=
  m.filter (fun entry => entry.1 ≠ name) ++ [(name, text)]

/-- What is kept of one kind of data. -/
structure KindData where
  haveData : Bool := false
  json : List Char := []
  pluginsJSON : TextMap := []
  pluginsUpdatesJSON : TextMap := []
  pluginsRemoveJSON : TextMap := []

namespace KindData

/-- Compare one plugin. -/
def comparePlugin (k : DataType) (ending : Bool) (d : KindData) (plugin : String × Ptree) :
    KindData :=
  let pJSON := pluginJSON ending plugin.1 plugin.2
  let remembered := d.pluginsJSON.lookup plugin.1
  let d := if remembered = some pJSON then d
    else { d with pluginsUpdatesJSON :=
      d.pluginsUpdatesJSON.assign plugin.1 (updateText k ending remembered plugin.1 plugin.2) }
  { d with pluginsJSON := d.pluginsJSON.assign plugin.1 pJSON }

/-- Plugins that are not there any more. -/
def removePlugins (d : KindData) (names : List String) : KindData :=
  { d with
    pluginsRemoveJSON := d.pluginsJSON.filter fun entry => entry.1 ∉ names
    pluginsJSON := d.pluginsJSON.filter fun entry => entry.1 ∈ names }

def processTelemetry (k : DataType) (ending : Bool) (d : KindData) (output : Ptree) : KindData :=
  (output.children.foldl (comparePlugin k ending) { d with pluginsUpdatesJSON := [] }).removePlugins
    (output.children.map Prod.fst)

/-- `GetTelemetry` with the output of `TmxControl`, if the query succeeds. -/
def getTelemetry (k : DataType) (ending : Bool) (d : KindData) : Option Ptree → KindData
  | none => { d with haveData := false }
  | some output =>
      let text := getOutput ending output
      if k = .systemConfig then
        match between '[' ']' text with
        | some (_, c :: cJSON) =>
            { d with haveData := true, json := c :: cJSON }.processTelemetry k ending output
        | _ => { d with haveData := false, json := [] }
      else
        { d with haveData := true, json := text }.processTelemetry k ending output

end KindData

/-! ## Messages -/

/-- A telemetry message: its subtype, which for removals begins with `Remove_`, and its payload. -/
structure TelemetryMessage where
  remove : Bool := false
  dataType : DataType
  payload : List Char

namespace KindData

def buildFullTelemetry (k : DataType) (d : KindData) : List TelemetryMessage :=
  if d.haveData then
    [{ dataType := k, payload := if k = .systemConfig then '[' :: d.json ++ [']'] else d.json }]
  else []

def buildUpdateTelemetry (k : DataType) (d : KindData) : List TelemetryMessage :=
  match d.haveData, d.pluginsUpdatesJSON with
  | true, (name, text) :: updates =>
      [{ dataType := k
         payload := if k = .systemConfig then '[' :: text ++ [']']
           else '\x7b' :: commaSeparated (((name, text) :: updates).map Prod.snd) ++ ['\x7d'] }]
  | _, _ => []

/-- The text of a plugin without its braces. -/
def removedText (entry : String × List Char) : Option (List Char) :=
  match between '\x7b' '\x7d' entry.2 with
  | some (_, c :: text) => some (c :: text)
  | _ => none

def buildRemoveTelemetry (k : DataType) (d : KindData) : List TelemetryMessage :=
  if d.haveData = true ∧ d.pluginsRemoveJSON ≠ [] then
    [{ remove := true, dataType := k
       payload :=
         '\x7b' :: commaSeparated (d.pluginsRemoveJSON.filterMap removedText) ++ ['\x7d'] }]
  else []

end KindData

/-! ## The client -/

/-- All strings that a client has, by the kind of data and a path. -/
abbrev ClientData := DataType → List String → Option String

/-- A string in what an object has for one plugin. Messages are told apart by type and subtype. -/
def entry (k : DataType) (d : Doc) (path : List String) : Option String :=
  match k, path with
  | .messages, type :: subtype :: path =>
      (d.elements.find? fun m =>
        m.leaf ["type"] = some type ∧ m.leaf ["subtype"] = some subtype).bind fun m => m.leaf path
  | .messages, _ => none
  | _, path => d.leaf path

/-- A string in a payload. The system configuration is an array of named settings. -/
def dataOf (k : DataType) (d : Doc) : List String → Option String
  | [] => none
  | name :: path =>
      if k = .systemConfig then
        (d.elements.find? fun m => m.leaf ["name"] = some name).bind fun m => m.leaf path
      else (d.get name).bind fun d' => entry k d' path

namespace ClientData

/-- What the payload has takes the place of what was there. -/
def merge (c : ClientData) (k : DataType) (d : Doc) : ClientData :=
  fun k' path => if k' = k then (dataOf k d path).or (c k' path) else c k' path

/-- The plugins are gone, with all that belongs to them. -/
def removePlugins (c : ClientData) (d : Doc) : ClientData :=
  fun k path =>
    match path with
    | name :: _ => if k ≠ .systemConfig ∧ (d.get name).isSome then none else c k path
    | [] => c k path

/-- A message that cannot be read changes nothing. -/
def receive (c : ClientData) (message : TelemetryMessage) : ClientData :=
  match readDoc message.payload with
  | none => c
  | some d => if message.remove then c.removePlugins d else c.merge message.dataType d

end ClientData

/-! ## The sessions -/

/-- What a round got for one kind of data: a tree that can be written, with no name twice and none
empty, and for the system configuration a single array of settings. -/
structure Snapshot (k : DataType) where
  tree : Ptree
  verified : verifyChildren tree.children = true
  nodup : (tree.children.map Prod.fst).Nodup
  name_ne : ∀ child ∈ tree.children, child.1 ≠ ""
  settings : k = .systemConfig → tree.children = [] ∨
    ∃ rows : List Ptree, rows ≠ [] ∧
      tree.children = [("SystemConfig", .node "" (rows.map fun row => ("", row)))]

/-- A session, as far as telemetry goes, with the data of its client. -/
structure TelemetrySession where
  sendFullTelemetry : Bool := true
  lastUpdateSendTimeMS : Nat
  client : ClientData := fun _ _ => none

/-- The telemetry of the plugin. `latest`: the last snapshot of each kind since the first session
came. -/
structure Telemetry where
  lastPluginsUpdateTimeMS : Nat := 0
  kinds : DataType → KindData := fun _ => {}
  sessions : List (Nat × TelemetrySession) := []
  latest : (k : DataType) → Option (Snapshot k) := fun _ => none

inductive TelemetryEvent where
  | established (key now : Nat)
  | closed (key : Nat)
  /-- the answers of `TmxControl`, `none` where it fails -/
  | round (now : Nat) (answers : (k : DataType) → Option (Snapshot k))
  /-- `LWS_CALLBACK_SERVER_WRITEABLE` of a session that is authorised or not -/
  | writeable (key : Nat) (authorized : Bool)

namespace Telemetry

def allTypes : List DataType := [.list, .config, .status, .state, .messages, .systemConfig]

/-- The messages for a session that has not got anything yet. -/
def fullMessages (s : Telemetry) : List TelemetryMessage :=
  allTypes.flatMap fun k => (s.kinds k).buildFullTelemetry k

/-- The messages after a round. Only plugins in the list are removed. -/
def updateMessages (s : Telemetry) : List TelemetryMessage :=
  (allTypes.flatMap fun k => (s.kinds k).buildUpdateTelemetry k) ++
    (s.kinds .list).buildRemoveTelemetry .list

/-- What an authorised session sends when it is writeable. -/
def send (s : Telemetry) (session : TelemetrySession) : TelemetrySession :=
  if session.sendFullTelemetry then
    { sendFullTelemetry := false
      lastUpdateSendTimeMS := s.lastPluginsUpdateTimeMS
      client := s.fullMessages.foldl .receive session.client }
  else if session.lastUpdateSendTimeMS < s.lastPluginsUpdateTimeMS then
    { session with
      lastUpdateSendTimeMS := s.lastPluginsUpdateTimeMS
      client := s.updateMessages.foldl .receive session.client }
  else session

/-- The state after a round. -/
def afterRound (ending : Bool) (s : Telemetry) (now : Nat)
    (answers : (k : DataType) → Option (Snapshot k)) : Telemetry :=
  { s with
    lastPluginsUpdateTimeMS := now
    kinds := fun k => (s.kinds k).getTelemetry k ending ((answers k).map Snapshot.tree)
    latest := fun k => (answers k).or (s.latest k) }

/-- `_updateIntervalMS`. -/
def updateIntervalMS : Nat := 1000

def step (ending : Bool) (s : Telemetry) : TelemetryEvent → Option Telemetry
  | .established key now =>
      match s.sessions.lookup key with
      | none => some { s with sessions := (key, { lastUpdateSendTimeMS := now }) :: s.sessions }
      | some _ => none
  | .closed key =>
      match s.sessions.lookup key with
      | none => none
      | some _ =>
          match s.sessions.filter fun e => e.1 ≠ key with
          | [] => some {}
          | sessions => some { s with sessions }
  | .round now answers =>
      if s.sessions ≠ [] ∧ s.lastPluginsUpdateTimeMS + updateIntervalMS ≤ now then
        some (s.afterRound ending now answers)
      else none
  | .writeable key authorized =>
      match s.sessions.lookup key with
      | none => none
      | some _ =>
          if authorized then
            some { s with sessions := s.sessions.map fun e =>
              if e.1 = key then (e.1, s.send e.2) else e }
          else some s

/-- The plugins in the latest snapshot. -/
def plugins (s : Telemetry) (k : DataType) : List (String × Ptree) :=
  match s.latest k with
  | none => []
  | some snapshot => snapshot.tree.children

/-- The strings of a snapshot. -/
def pluginsData (k : DataType) (plugins : List (String × Ptree)) : List String → Option String :=
  if k = .systemConfig then
    dataOf k (.array (match plugins with
      | [] => []
      | child :: _ => docElements child.2.children))
  else dataOf k (.object (docMembers plugins))

/-- The strings of the latest snapshots. -/
def snapshotData (s : Telemetry) : ClientData := fun k => pluginsData k (s.plugins k)

end Telemetry

end V2XHub.Command
