import Mathlib.Data.Int.Order.Basic
import V2XHub.Lib.OrderedMap
import V2XHub.Lib.Run

/-!
# The MAP plugin

Two threads share the table of map files, the current action, and a flag that says that the table
or the action is new: the receive thread with the configuration and the actions of the signal
controller, and the loop of `Main`, which loads the files and broadcasts the map of the current
action. The table is locked, the action and the flag are not. Each access outside of the lock is a
step, and so is a locked section of `Main`; those of the receive thread take several steps.
-/

namespace V2XHub.Map

open V2XHub.Lib

/-! ## Files -/

structure MapFile where
  filePath : String := ""
  inputType : String := ""
  bytes : String := ""
  deriving DecidableEq

/-- An element of the array `MapFiles`; its action may be no integer. -/
structure MapEntry where
  action : Option Int
  file : MapFile
  deriving DecidableEq

/-- What becomes of the conversion of a file. -/
inductive Conversion where
  | bytes (encoded : String)
  /-- nothing that is a map, and no error -/
  | nothing
  | throws
  deriving DecidableEq

/-- The world of the plugin. -/
structure Outside where
  /-- the property tree of a `MAP_Files` text, if it is not empty -/
  mapFiles : String → Option (List MapEntry)
  /-- the characters of a file that can be opened -/
  content : String → Option (List Char)
  /-- decodes and encodes a payload in hexadecimal -/
  uper : List Char → Conversion
  /-- reads and encodes an XML file -/
  xml : String → Conversion

/-- `removeMessageFrame`; the id of MAP messages is 18. -/
def removeMessageFrame (fileContent : List Char) : List Char :=
  if 4 ≤ fileContent.length ∧ fileContent.take 4 = ['0', '0', '1', '2'] then
    fileContent.drop (if 254 < (fileContent.drop 6).length then 8 else 6)
  else fileContent

variable (o : Outside)

/-- `checkMapContent`. -/
def checkMapContent (fn : String) : Option (List Char) :=
  (o.content fn).map fun content => removeMessageFrame (content.filter (· ≠ '\n'))

/-- The conversion in `LoadMapFiles`, by the last four characters of the name. -/
def convert (fn : String) : Conversion :=
  let chars := fn.toList
  -- `substr` throws
  if chars.length < 4 then .throws
  else
    let extension := chars.drop (chars.length - 4)
    if extension = ['.', 't', 'x', 't'] then
      match checkMapContent o fn with
      | none => .throws
      | some payload => o.uper payload
    else if extension = ['.', 'x', 'm', 'l'] then o.xml fn
    else .throws

/-- The locked loop of `LoadMapFiles`: files that are converted before another throws stay so. -/
def loadMapFiles : List (Int × MapFile) → List (Int × MapFile) × Bool
  | [] => ([], true)
  | (action, file) :: rest =>
      if file.bytes = "" ∧ file.inputType = "" then
        match convert o file.filePath with
        | .throws => ((action, file) :: rest, false)
        | .nothing =>
            let (rest, ok) := loadMapFiles rest
            ((action, file) :: rest, ok)
        | .bytes encoded =>
            let (rest, ok) := loadMapFiles rest
            ((action, { file with bytes := encoded }) :: rest, ok)
      else
        let (rest, ok) := loadMapFiles rest
        ((action, file) :: rest, ok)

/-! ## The two threads -/

/-- Where the receive thread is. Outside of `idle` it holds the lock. -/
inductive ReceiveThread where
  | idle
  /-- in `UpdateConfigSettings`, with these elements to come -/
  | updating (entries : List MapEntry)
  /-- in `OnMessageReceived`, with the action stored -/
  | switching
  deriving DecidableEq

/-- Where `Main` is. -/
inductive MainThread where
  /-- about to test the flag -/
  | test
  /-- in `LoadMapFiles`, before the lock -/
  | loadStart
  | load
  | resetFlag
  | readAction
  /-- with an action whose bytes are to be fetched -/
  | fetch (action : Int)
  | send
  deriving DecidableEq

structure MapPlugin where
  registered : Bool := false
  /-- the configuration value `MAP_Files` -/
  mapFilesText : String
  /-- `_mapFiles` -/
  mapFiles : List (Int × MapFile) := []
  mapAction : Int := -1
  isMapFileNew : Bool := false
  cohdaR63 : Bool := false
  receiver : ReceiveThread := .idle
  main : MainThread := .test
  /-- the payload of the message that `msg` points to -/
  msg : Option String := none
  activeAction : Int := -1
  mapFilesOk : Bool := false
  /-- the actions of all messages, newest first -/
  received : List Int := []
  /-- the elements of the last value that `UpdateConfigSettings` has taken -/
  applied : List MapEntry := []
  /-- the value of `MAP_Files` is completely handled -/
  handled : Bool := false
  /-- nothing has happened since this pass began, and everything before was handled -/
  clean : Bool := false
  deriving DecidableEq

namespace MapPlugin

inductive Event where
  | config (key value : String)
  /-- the plugin becomes registered -/
  | register
  | disconnect
  | action (action : Int)
  /-- the receive thread goes on -/
  | receiver
  /-- `Main` goes on; a message may not be created -/
  | main (created : Bool)
  deriving DecidableEq

/-- `boost::iequals` with `1`, `true`, `t` or `on`. -/
def isOn (value : String) : Bool :=
  value.toLower = "1" ∨ value.toLower = "true" ∨ value.toLower = "t" ∨ value.toLower = "on"

/-- `UpdateConfigSettings`, up to the lock and the clearing of the table. -/
def updateConfigSettings (s : MapPlugin) : MapPlugin :=
  match o.mapFiles s.mapFilesText with
  | none => { s with handled := true }
  | some entries =>
      { s with receiver := .updating entries, mapFiles := [], applied := entries }

/-- `OnConfigChanged`. -/
def onConfigChanged (s : MapPlugin) (key value : String) : MapPlugin :=
  if s.registered then
    if key ≠ "Cohda R63" then { s with cohdaR63 := isOn value, handled := true }
    else s.updateConfigSettings o
  else s

/-- `OnMessageReceived`, up to the exchange of the action. -/
def onMessageReceived (s : MapPlugin) (action : Int) : MapPlugin :=
  if action = s.mapAction then s
  else
    match s.mapFiles.lookup action with
    | none => s
    | some _ => { s with mapAction := action, receiver := .switching }

/-- The receive thread within a locked section. -/
def receiverStep (s : MapPlugin) : Option MapPlugin :=
  match s.receiver with
  | .idle => none
  | .updating (entry :: entries) =>
      match entry.action with
      -- the exception is caught, and the action stays
      | none => some { s with receiver := .idle, handled := true }
      | some action =>
          if action < 0 then some { s with receiver := .updating entries }
          else
            some { s with
              receiver := .updating entries
              mapFiles := assign action entry.file s.mapFiles
              isMapFileNew := true }
  | .updating [] =>
      let mapAction :=
        match s.mapFiles.lookup s.mapAction with
        | some _ => s.mapAction
        | none => (s.mapFiles.head?.map Prod.fst).getD (-1)
      some { s with receiver := .idle, mapAction := mapAction, handled := true }
  | .switching => some { s with receiver := .idle, isMapFileNew := true }

/-- `Main`. -/
def mainStep (s : MapPlugin) (created : Bool) : Option MapPlugin :=
  match s.main with
  | .test =>
      let s := { s with clean := s.handled ∧ s.receiver = ReceiveThread.idle }
      if s.isMapFileNew then
        some { s with main := .loadStart, msg := none, activeAction := -1, mapFilesOk := false }
      else some { s with main := .readAction }
  | .loadStart => some { s with main := if s.mapFiles = [] then .resetFlag else .load }
  | .load =>
      if s.receiver = .idle then
        let (mapFiles, ok) := loadMapFiles o s.mapFiles
        some { s with main := .resetFlag, mapFiles := mapFiles, mapFilesOk := ok }
      else none
  | .resetFlag => some { s with main := .readAction, isMapFileNew := false }
  | .readAction =>
      if s.mapAction < 0 then some { s with main := .test }
      else if s.mapAction ≠ s.activeAction then some { s with main := .fetch s.mapAction }
      else some { s with main := .send }
  | .fetch action =>
      if s.receiver = .idle then
        -- `operator[]` puts an empty file in the place of a missing one
        let (file, mapFiles) :=
          match s.mapFiles.lookup action with
          | some file => (file, s.mapFiles)
          | none => ({}, assign action {} s.mapFiles)
        let s := { s with mapFiles := mapFiles }
        if file.bytes = "" then some { s with main := .send }
        else if created then
          some { s with main := .send, msg := some file.bytes, activeAction := action }
        else some { s with main := .test, msg := none }
      else none
  | .send => some { s with main := .test }

def step (s : MapPlugin) : Event → Option MapPlugin
  | .config key value =>
      if s.receiver = .idle then
        let s := { s with clean := false }
        let s :=
          if key = "MAP_Files" then { s with mapFilesText := value, handled := false } else s
        some (s.onConfigChanged o key value)
      else none
  | .register =>
      if s.receiver = .idle ∧ s.registered = false then
        some ({ s with registered := true, clean := false }.updateConfigSettings o)
      else none
  | .disconnect => if s.registered then some { s with registered := false } else none
  | .action action =>
      if s.receiver = .idle then
        some ({ s with clean := false, received := action :: s.received }.onMessageReceived action)
      else none
  | .receiver => s.receiverStep
  | .main created => s.mainStep o created

/-! ## What is to be broadcast -/

/-- The files that a value configures. -/
def configured (entries : List MapEntry) : List (Int × MapFile) :=
  entries.foldl
    (fun files entry =>
      match entry.action with
      | none => files
      | some action => if action < 0 then files else assign action entry.file files)
    []

/-- The last received action that has a map, else the smallest. -/
def currentAction (received : List Int) (files : List (Int × MapFile)) : Option Int :=
  (received.find? fun action => (files.lookup action).isSome).or (files.head?.map Prod.fst)

/-- The encoding of a configured file. -/
def fileBytes (file : MapFile) : Option String :=
  if file.bytes ≠ "" then some file.bytes
  else if file.inputType ≠ "" then none
  else
    match convert o file.filePath with
    | .bytes encoded => if encoded = "" then none else some encoded
    | _ => none

/-- The encoding of the file for the current action in the latest value. -/
def expectedBytes (s : MapPlugin) : Option String := do
  let files := configured ((o.mapFiles s.mapFilesText).getD [])
  let action ← currentAction s.received files
  let file ← files.lookup action
  fileBytes o file

/-- The claim on a state: before a broadcast, the pointer can be used, and the message is the
expected one if the pass is clean. -/
def Safe (s : MapPlugin) : Prop :=
  s.main = .send → s.mapFilesOk = true →
    (s.cohdaR63 = true → s.msg ≠ none) ∧
      (s.clean = true → ∀ payload, s.msg = some payload → s.expectedBytes o = some payload)

end MapPlugin

end V2XHub.Map
