import Mathlib.Logic.Function.Basic
import V2XHub.Command.Session
import V2XHub.Lib.Run

/-!
# The command plugin

All websocket sessions, all HTTP connections that post files, and the map of upload requests they
share. The callbacks of the web server run in one thread, so each is one step.

A file is posted to `FileUploadCB` in pieces: it is opened, content follows, and the last content
moves the file to its destination. `LWS_CALLBACK_HTTP_DROP_PROTOCOL` ends the connection and reports
to the session that has asked for the upload.
-/

namespace V2XHub.Command

open V2XHub.Lib

/-- `PerSessionDataHTTP`, as far as uploads use it. `spa`: the parser of the posted data exists. -/
structure HttpConnection where
  spa : Bool := false
  filename : List UInt8 := []
  fileLength : Nat := 0
  lastPercentSent : Int32 := 0
  fd : Int := 0
  deriving DecidableEq, Repr

/-- A call of `FileUploadCB`: `LWS_UFS_OPEN`, `LWS_UFS_CONTENT` or `LWS_UFS_FINAL_CONTENT`. -/
inductive UploadCall where
  | «open» (filename : List UInt8)
  | content (len : Nat)
  | finalContent (len : Nat)
  deriving DecidableEq, Repr

/-- What the file system answers in a call of `FileUploadCB`, and the configured path. -/
structure Disk where
  downloadPath : String := ""
  folderOk : Bool := true
  fd : Int := 3
  destinationOk : Bool := true
  copyOk : Bool := true
  removeOk : Bool := true
  deriving DecidableEq, Repr

structure CommandPlugin where
  sessions : Nat → Option Session := fun _ => none
  http : Nat → HttpConnection := fun _ => {}
  uploadRequests : List UInt8 → Option UploadData := fun _ => none
  history : List Act := []

inductive Event where
  | established (key : Nat)
  | closed (key : Nat)
  /-- the decoded bytes of a websocket text -/
  | receive (key : Nat) (message : List UInt8) (worlds : Nat → World)
  /-- `created`: `lws_spa_create` succeeds -/
  | httpBody (c : Nat) (created : Bool)
  | fileUpload (c : Nat) (call : UploadCall) (disk : Disk)
  | dropProtocol (c : Nat)

namespace CommandPlugin

def act (s : CommandPlugin) (a : Act) : CommandPlugin := { s with history := a :: s.history }

/-! ## Websocket sessions -/

/-- `LWS_CALLBACK_ESTABLISHED`. -/
def established (s : CommandPlugin) (key : Nat) : CommandPlugin :=
  { s with sessions := Function.update s.sessions key (some {}) }.act (.connect key)

/-- The requests after a session has gone: its own are erased unless they are uploading, and all
others lose their buffer. -/
def detachAll (key : Nat) (uploads : List UInt8 → Option UploadData) :
    List UInt8 → Option UploadData :=
  fun name =>
    if ownedIdle key uploads name then none
    else (uploads name).map fun request => { request with outputbuffer := none }

/-- `LWS_CALLBACK_CLOSED`. -/
def closed (s : CommandPlugin) (key : Nat) : CommandPlugin :=
  { s with
    sessions := Function.update s.sessions key none
    uploadRequests := detachAll key s.uploadRequests }.act
      (.erased (ownedIdle key s.uploadRequests))

/-- `LWS_CALLBACK_RECEIVE`. -/
def receive (o : Outside) (s : CommandPlugin) (key : Nat) (session : Session)
    (message : List UInt8) (worlds : Nat → World) : CommandPlugin :=
  let t := Turn.receiveBytes o worlds
    { key, session, uploads := s.uploadRequests, history := s.history } message
  { s with
    sessions := Function.update s.sessions key
      (some { t.session with received := t.session.received ++ message })
    uploadRequests := t.uploads
    history := t.history }

/-! ## Uploads -/

/-- `_uploadRequests[name]`: makes a request if there is none. -/
def request (s : CommandPlugin) (name : List UInt8) : UploadData :=
  (s.uploadRequests name).getD {}

/-- Assign to `_uploadRequests[name]`. -/
def setRequest (s : CommandPlugin) (name : List UInt8) (request : UploadData) : CommandPlugin :=
  { s with uploadRequests := fun n => if n = name then some request else s.uploadRequests n }

/-- `_uploadRequests[name].message = …`. -/
def setMessage (s : CommandPlugin) (name : List UInt8) (message : String) : CommandPlugin :=
  s.setRequest name { s.request name with message }

def setHttp (s : CommandPlugin) (c : Nat) (connection : HttpConnection) : CommandPlugin :=
  { s with http := Function.update s.http c connection }

/-- `BuildCommandResponse` to the buffer of a request. -/
def respondTo (s : CommandPlugin) (request : UploadData) (status reason : String)
    (data : List (String × String)) : CommandPlugin :=
  match request.outputbuffer with
  | none => s
  | some key =>
      { s with
        sessions := Function.update s.sessions key ((s.sessions key).map fun session =>
          { session with outputbuffer := session.outputbuffer ++
            [{ id := request.requestId, command := "uploadfile", status, reason, data,
               arrayData := [] }] }) }

/-- `strncpy` of a C string into an array of 64 characters whose last one stays zero. -/
def filenameOf (filename : List UInt8) : List UInt8 := (filename.takeWhile fun b => b ≠ 0).take 63

/-- Where the file is opened: at the path itself if it ends in a slash. -/
def openPath (outdir : String) (filename : List UInt8) : List UInt8 :=
  if (bytesOf outdir).getLast? = some slash then bytesOf outdir
  else bytesOf outdir ++ slash :: filename

/-- `FileUploadCB` with `LWS_UFS_OPEN`. -/
def openFile (s : CommandPlugin) (c : Nat) (filename : List UInt8) (disk : Disk) : CommandPlugin :=
  let name := filenameOf filename
  let s := s.setHttp c { s.http c with filename := name }
  match s.uploadRequests name with
  | none => (s.setMessage name "Permission denied").act (.refused name)
  | some _ =>
      if disk.downloadPath = "" then
        s.setMessage name ("CommandPlugin::FileUploadCB: Failed to create destination folder - " ++
          "Command Plugin download path is empty!")
      else if disk.folderOk = false then
        s.setMessage name "Failed to create download folder"
      else
        let s := (s.setHttp c { s.http c with fd := disk.fd }).act
          (.opened name (openPath disk.downloadPath name))
        if disk.fd < 0 then
          s.setMessage name "Failed to create or open file"
        else
          s.setRequest name { s.request name with uploading := true }

/-- The percentage to report, if it is a new one. It is kept as an `int`, and what was kept is
compared without its sign. -/
def percentOf (fileLength : Nat) (fileSize : UInt64) (lastPercentSent : Int32) : Option Int32 :=
  let percent := UInt64.ofNat (fileLength * 100) / fileSize
  if fileSize > 0 ∧ percent > lastPercentSent.toInt64.toUInt64 then
    some percent.toUInt32.toInt32
  else
    none

/-- The move of a complete file to its destination, with the message if it fails. -/
def moveFile (request : UploadData) (disk : Disk) : Option String :=
  if request.destinationFileName = "" then
    none
  else if request.destinationPath ≠ "" ∧ disk.destinationOk = false then
    some "Failed to create destination folder"
  else if disk.copyOk = false then
    some (if disk.removeOk then "Failed to copy file to destination folder."
      else "Failed to copy file to destination folder. Failed to delete download file.")
  else if disk.removeOk = false then
    some "Failed to delete download file."
  else
    none

/-- `LWS_INVALID_FILE`. -/
def invalidFile : Int := -1

/-- Content for a request whose session has gone. -/
def skipContent (s : CommandPlugin) (c : Nat) (final : Bool) : CommandPlugin :=
  let name := (s.http c).filename
  let made := s.uploadRequests name = none
  let s := if made then s.act (.refused name) else s
  let s := s.setMessage name "Connection dropped"
  let s := if final then s.setRequest name { s.request name with uploading := false } else s
  s.setHttp c { s.http c with fd := invalidFile }

/-- Count the bytes and report the percentage. -/
def countContent (s : CommandPlugin) (c len : Nat) : CommandPlugin :=
  let connection := { s.http c with fileLength := (s.http c).fileLength + len }
  let request := s.request connection.filename
  match percentOf connection.fileLength request.fileSize connection.lastPercentSent with
  | none => s.setHttp c connection
  | some percent =>
      (s.setHttp c { connection with lastPercentSent := percent }).respondTo request "success" ""
        [("percent", toString percent), ("state", "sending")]

/-- The last piece of a file. A move that fails leaves the descriptor as it is. -/
def finishFile (s : CommandPlugin) (c : Nat) (disk : Disk) : CommandPlugin :=
  let name := (s.http c).filename
  let failure := if (s.http c).fd ≥ 0 then moveFile (s.request name) disk else none
  match failure with
  | some message => s.setMessage name message
  | none => s.setHttp c { s.http c with fd := invalidFile }

/-- `FileUploadCB` with content. A piece that makes the file too large ends it. -/
def writeContent (s : CommandPlugin) (c len : Nat) (final : Bool) (disk : Disk) : CommandPlugin :=
  let name := (s.http c).filename
  if (s.request name).outputbuffer = none then
    s.skipContent c final
  else if len > 0 ∧ (s.http c).fd ≥ 0 then
    let s := s.countContent c len
    if (s.http c).fileLength > 100000000 then
      (s.setMessage name "File is too large").setHttp c { s.http c with fd := invalidFile }
    else
      let s := s.act (.wrote name)
      if final then s.finishFile c disk else s
  else if final then
    s.finishFile c disk
  else
    s

def fileUpload (s : CommandPlugin) (c : Nat) (call : UploadCall) (disk : Disk) : CommandPlugin :=
  match call with
  | .open filename => s.openFile c filename disk
  | .content len => s.writeContent c len false disk
  | .finalContent len => s.writeContent c len true disk

/-- `LWS_CALLBACK_HTTP_BODY` up to the parsing, which calls `FileUploadCB`. -/
def httpBody (s : CommandPlugin) (c : Nat) (created : Bool) : CommandPlugin :=
  if (s.http c).spa = false ∧ created = true then
    s.setHttp c { s.http c with spa := true, filename := [], fileLength := 0, lastPercentSent := 0 }
  else
    s

/-- `LWS_CALLBACK_HTTP_DROP_PROTOCOL`. -/
def dropProtocol (s : CommandPlugin) (c : Nat) : CommandPlugin :=
  if (s.http c).spa then
    let name := (s.http c).filename
    let s := s.setHttp c {}
    match s.uploadRequests name with
    | none => s
    | some request =>
        let data := [("state", "upload")]
        let s := if request.message = "" then s.respondTo request "success" "" data
          else s.respondTo request "failed" request.message data
        { s with uploadRequests := eraseAll s.uploadRequests fun n => n = name }.act
          (.erased fun n => n = name)
  else
    s

def step (o : Outside) (s : CommandPlugin) : Event → Option CommandPlugin
  | .established key =>
      match s.sessions key with
      | none => some (s.established key)
      | some _ => none
  | .closed key =>
      match s.sessions key with
      | none => none
      | some _ => some (s.closed key)
  | .receive key message worlds =>
      match s.sessions key with
      | none => none
      | some session => some (s.receive o key session message worlds)
  | .httpBody c created => some (s.httpBody c created)
  | .fileUpload c call disk =>
      if (s.http c).spa then some (s.fileUpload c call disk) else none
  | .dropProtocol c => some (s.dropProtocol c)

end CommandPlugin

/-! ## Requests as texts

What a portal sends, and a reader for it: on the texts of these requests it does what `read_json`
does. It is for concrete runs. -/

namespace Request

/-- The JSON text of a request. Nothing in it needs an escape. -/
def json (r : Request) : String :=
  "\x7b\"header\":\x7b\"type\":\"Command\",\"subtype\":\"Execute\"\x7d,\"payload\":\x7b" ++
    "\"command\":\"" ++ r.command ++ "\",\"id\":\"" ++ r.id ++ "\",\"args\":\x7b" ++
    ",".intercalate (r.args.map fun arg => "\"" ++ arg.1 ++ "\":\"" ++ arg.2 ++ "\"") ++
    "\x7d\x7d\x7d"

def tree (r : Request) : Ptree :=
  .node ""
    [("header", .node "" [("type", .node "Command" []), ("subtype", .node "Execute" [])]),
     ("payload", .node ""
       [("command", .node r.command []), ("id", .node r.id []),
        ("args", .node "" (r.args.map fun arg => (arg.1, .node arg.2 [])))])]

/-- The bytes of the text. -/
def bytes (r : Request) : List UInt8 := bytesOf r.json

/-- With the start and the end byte. -/
def framed (r : Request) : List UInt8 := 0x02 :: r.bytes ++ [0x03]

end Request

/-- The reader, a hash that is the SHA-256 of `b`, and a database that compares texts exactly. -/
def portal (requests : List Request) : Outside where
  readJson := fun text => (requests.find? fun r => r.bytes = text).map Request.tree
  sha2 := fun _ => "3e23e8160039594a33894f6564e1b1348bbd7a0088d42c4acb73eeaed59c009d"
  sqlEq := fun a b => a = b

/-- The administrator `a` with the password `b`. -/
def administrator : User where
  username := "a"
  password := "3e23e8160039594a33894f6564e1b1348bbd7a0088d42c4acb73eeaed59c009d"
  accessLevel := systemAdministrator

def loginRequest : Request := ⟨"login", "1", [("user", "a"), ("password", "b")]⟩

def uploadRequest : Request where
  command := "uploadfile"
  id := "2"
  args := [("uploadfilename", "f"), ("destinationfilename", "g"), ("destinationpath", "/p"),
    ("filesize", "9")]

def logoutRequest : Request := ⟨"logout", "3", []⟩

/-- The administrator is in the user table. -/
def administered : World := { users := [administrator], usersAtHash := [administrator] }

theorem portal_sha2 (requests : List Request) (password : String) :
    (portal requests).sqlEq "" ((portal requests).sha2 password) = false := by
  simp [portal]

end V2XHub.Command
