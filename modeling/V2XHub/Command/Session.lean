import V2XHub.Command.Request

/-!
# Websocket sessions

`WSCallbackBASE64` with `LWS_CALLBACK_RECEIVE`: the decoded bytes of a websocket text go through a
loop that gathers a message in the buffer of the session, from a start byte to an end byte, and
handles it. All sessions share one `TmxControl` and one map of upload requests.

`read_json`, the password hash and the comparison of the database are parameters, and the answers of
`TmxControl` come from outside, new for every message.
-/

namespace V2XHub.Command

/-- A text as the bytes of a C string. -/
def bytesOf (text : String) : List UInt8 := text.toUTF8.data.toList

/-- The byte of a slash. -/
def slash : UInt8 := 0x2f

/-- A row of the user table. -/
structure User where
  username : String
  password : String
  accessLevel : Int
  deriving DecidableEq, Repr

/-- What the code relies on and does not define: the JSON reader on the text of a message, `SHA2`,
and the equality of texts in a query. -/
structure Outside where
  readJson : List UInt8 → Option Ptree
  sha2 : String → String
  sqlEq : String → String → Bool

/-- What `savestate` finds after the state was saved. -/
inductive Backup where
  | noFileName
  | unreadable
  | content (encoded : String)
  deriving DecidableEq, Repr

/-- The answers of `TmxControl` while one message is handled, and the configuration then. -/
structure World where
  /-- the result of the call that carries out the command -/
  rc : Bool := true
  users : List User := []
  userInfoOk : Bool := true
  /-- the user table when the hash is looked up -/
  usersAtHash : List User := []
  hashedInfoOk : Bool := true
  backup : Backup := .noFileName
  downloadPath : String := ""
  deriving DecidableEq, Repr

/-- `PerSessionDataBASE64`, as far as receiving reads it. What has been received since the session
was established, and the texts that were given to the JSON reader, are kept beside it. -/
structure Session where
  buffer : List UInt8 := []
  authorized : Bool := false
  authorizationLevel : Int := readOnly
  outputbuffer : List Response := []
  received : List UInt8 := []
  parsed : List (List UInt8) := []
  deriving DecidableEq, Repr

/-- `READ_BUFFER_SIZE`. -/
def readBufferSize : Nat := 5000

/-- A request to upload a file. Its `outputbuffer` is that of the session with this number. -/
structure UploadData where
  requestId : String := ""
  outputbuffer : Option Nat := none
  destinationFileName : String := ""
  destinationPath : String := ""
  fileSize : UInt64 := 0
  uploading : Bool := false
  message : String := ""
  deriving DecidableEq, Repr

/-- What has happened, as far as the laws speak of it. The names of files are bytes. -/
inductive Act where
  /-- a session is established -/
  | connect (key : Nat)
  /-- a `login` with that user name and password, and the user table it was checked against -/
  | login (key : Nat) (user password : String) (users : List User)
  | logout (key : Nat)
  /-- a message of the session has reached `TmxControl` -/
  | call (key : Nat) (c : ControlCall)
  /-- `uploadfile` of the session has reached the map of upload requests -/
  | uploadfile (key : Nat)
  /-- `uploadfile` for that name was accepted; what the session was authorised for -/
  | accepted (key : Nat) (name : List UInt8) (authorized : Bool) (level : Int)
  /-- the requests of these names were erased -/
  | erased (names : List UInt8 → Bool)
  /-- the upload callback has made a request of that name while it refused a file -/
  | refused (name : List UInt8)
  /-- the upload callback has opened a file under that name -/
  | opened (name path : List UInt8)
  /-- the upload callback has written to a file under that name -/
  | wrote (name : List UInt8)

/-- What the handling of a message works on. `ended`: the loop over the bytes is left. -/
structure Turn where
  key : Nat
  session : Session
  uploads : List UInt8 → Option UploadData
  history : List Act
  ended : Bool := false

namespace Turn

def act (t : Turn) (a : Act) : Turn := { t with history := a :: t.history }

def call (t : Turn) (c : ControlCall) : Turn := t.act (.call t.key c)

/-- `BuildCommandResponse` for the request. -/
def respond (t : Turn) (r : Request) (status reason : String)
    (data arrayData : List (String × String)) : Turn :=
  { t with
    session := { t.session with
      outputbuffer := t.session.outputbuffer ++
        [{ id := r.id, command := r.command, status, reason, data, arrayData }] } }

/-- The usual responses to a call that succeeded or failed. -/
def report (t : Turn) (r : Request) (rc : Bool) (failed : String) : Turn :=
  if rc then t.respond r "success" "" [] [] else t.respond r "failed" failed [] []

/-! ## The commands -/

def enable (t : Turn) (r : Request) : Turn :=
  match r.arg "plugin" with
  | some plugin => t.call (.enable plugin)
  | none => t

def disable (t : Turn) (r : Request) : Turn :=
  match r.arg "plugin" with
  | some plugin => t.call (.disable plugin)
  | none => t

def set (t : Turn) (r : Request) : Turn :=
  match r.arg "plugin", r.arg "key", r.arg "value" with
  | some plugin, some key, some value =>
      if key = "maxMessageInterval" then
        t.call (.maxMessageInterval plugin value)
      else
        -- the defaults are looked up among the arguments too
        let defaultValue := (r.arg "defaultValue").getD (r.argD "")
        let description := (r.arg "description").getD (r.argD "Added by CommandPlugin")
        if plugin = "SYSTEMCONFIG" then
          t.call (.setSystem plugin key value defaultValue description)
        else
          t.call (.set plugin key value defaultValue description)
  | _, _, _ => t

def logout (t : Turn) (r : Request) : Turn :=
  let t := t.act (.logout t.key)
  let t := { t with
    session := { t.session with
      buffer := []
      outputbuffer := []
      authorized := false
      authorizationLevel := readOnly } }
  t.respond r "success" "" [] []

def clearlog (t : Turn) (r : Request) (w : World) : Turn :=
  (t.call .clearEventLog).report r w.rc "Clear event log failed"

def userText (u : User) : String :=
  "\x7b\"username\":\"" ++ u.username ++ "\",\"accesslevel\":\"" ++ toString u.accessLevel ++
    "\"\x7d"

def userlist (t : Turn) (r : Request) (w : World) : Turn :=
  let t := t.call .allUsersInfo
  if w.rc then
    let users := if w.users = [] then []
      else [("users", "[" ++ ",".intercalate (w.users.map userText) ++ "]")]
    t.respond r "success" "" [] users
  else
    t.respond r "failed" "List users failed" [] []

def useradd (t : Turn) (r : Request) (w : World) : Turn :=
  match r.arg "username", r.arg "password", r.arg "accesslevel" with
  | some username, some password, some accessLevel =>
      match passwordErrors password with
      | [] => (t.call (.userAdd username password accessLevel)).report r w.rc "User add failed"
      | errors => t.respond r "failed" ("User add failed:" ++ String.join errors) [] []
  | _, _, _ => t.respond r "failed" "User add failed, missing command arguments" [] []

def userupdate (t : Turn) (r : Request) (w : World) : Turn :=
  match r.arg "username", r.arg "password", r.arg "accesslevel" with
  | some username, some password, accessLevel =>
      match passwordErrors password with
      | [] => (t.call (.userUpdate username (some password) accessLevel)).report r w.rc
          "User update failed"
      | errors => t.respond r "failed" ("User update failed:" ++ String.join errors) [] []
  | some username, none, some accessLevel =>
      (t.call (.userUpdate username none (some accessLevel))).report r w.rc "User update failed"
  | _, _, _ => t.respond r "failed" "User update failed, missing command arguments" [] []

def userdelete (t : Turn) (r : Request) (w : World) : Turn :=
  match r.arg "username" with
  | some username => (t.call (.userDelete username)).report r w.rc "User delete failed"
  | none => t.respond r "failed" "User delete failed, missing command arguments" [] []

end Turn

/-- A request of the session that is not uploading. -/
def ownedIdle (key : Nat) (uploads : List UInt8 → Option UploadData) (name : List UInt8) : Bool :=
  match uploads name with
  | some request => request.outputbuffer = some key ∧ request.uploading = false
  | none => false

/-- Erase the requests of these names. -/
def eraseAll (uploads : List UInt8 → Option UploadData) (names : List UInt8 → Bool) :
    List UInt8 → Option UploadData :=
  fun name => if names name then none else uploads name

/-- `[0-9]+`. -/
def isNumber (text : String) : Bool := text ≠ "" ∧ text.toList.all Char.isDigit

/-- `stol` of a number. It throws where this is `none`. -/
def stol (text : String) : Option Nat :=
  let n := text.toList.foldl (fun n c => 10 * n + (c.toNat - '0'.toNat)) 0
  if n < 9223372036854775808 then some n else none

namespace Turn

def uploadfile (t : Turn) (r : Request) : Turn :=
  let data := [("state", "request")]
  match r.arg "uploadfilename", r.arg "destinationfilename", r.arg "destinationpath",
    r.arg "filesize" with
  | some name, some destinationFileName, some destinationPath, some filesize =>
      if isNumber filesize then
        let owned := ownedIdle t.key t.uploads
        let t := { t with uploads := eraseAll t.uploads owned }
        let t := (t.act (.uploadfile t.key)).act (.erased owned)
        match stol filesize with
        | none => t
        | some fileSize =>
            let request : UploadData :=
              { requestId := r.id, outputbuffer := some t.key, destinationFileName,
                destinationPath, fileSize := UInt64.ofNat fileSize }
            -- `message = ""`: the text that the loop runs over, not the message of the request
            let t := { t with
              uploads := fun n => if n = bytesOf name then some request else t.uploads n
              ended := true }
            let accepted : Act :=
              .accepted t.key (bytesOf name) t.session.authorized t.session.authorizationLevel
            (t.act accepted).respond r "success" "" data []
      else
        t.respond r "failed" "Upload file failed, invalid filesize argument" data []
  | _, _, _, _ => t.respond r "failed" "Upload file failed, missing command arguments" data []

def plugininstall (t : Turn) (r : Request) (w : World) : Turn :=
  match r.arg "pluginfile" with
  | some pluginfile =>
      (t.call (.pluginInstall (w.downloadPath ++ "/" ++ pluginfile) "/var/www/plugins")).report r
        w.rc "Plugin install failed"
  | none => t

def pluginuninstall (t : Turn) (r : Request) (w : World) : Turn :=
  match r.arg "plugin" with
  | some plugin => (t.call (.pluginRemove plugin)).report r w.rc "Plugin uninstall failed"
  | none => t

/-- The callback returns. -/
def leave (t : Turn) : Turn := { t with ended := true }

def savestate (t : Turn) (r : Request) (w : World) : Turn :=
  let passphrase := r.argD "passphrase"
  if passphrase = "" then
    (t.respond r "failed" "Missing passphrase" [] []).leave
  else
    let t := t.call (.saveState passphrase)
    if w.rc then
      match w.backup with
      | .noFileName => t
      | .unreadable => t.respond r "failed" "Backup file could not be read" [] []
      | .content encoded =>
          t.respond r "success" "Backup completed" [("fileBuffer", encoded)] []
    else
      t.respond r "failed" "Backup failed" [] []

def uploadstate (t : Turn) (r : Request) (w : World) : Turn :=
  match r.arg "statefile" with
  | none => (t.respond r "failed" "Missing statefile" [] []).leave
  | some fileName =>
      let passphrase := r.argD "passphrase"
      if fileName = "" then
        (t.respond r "failed" "Empty statefile" [] []).leave
      else if passphrase = "" then
        (t.respond r "failed" "Missing passphrase" [] []).leave
      else
        let t := t.call (.uploadState (w.downloadPath ++ "/STATE/" ++ fileName) passphrase)
        if w.rc then t.respond r "success" "State restore completed" [] []
        else t.respond r "failed" "State restore failed" [] []

/-- The commands of an authorised session. -/
def execute (t : Turn) (r : Request) (w : World) : CommandName → Turn
  | .enable => t.enable r
  | .disable => t.disable r
  | .set => t.set r
  | .logout => t.logout r
  | .clearlog => t.clearlog r w
  | .userlist => t.userlist r w
  | .useradd => t.useradd r w
  | .userupdate => t.userupdate r w
  | .userdelete => t.userdelete r w
  | .uploadfile => t.uploadfile r
  | .plugininstall => t.plugininstall r w
  | .pluginuninstall => t.pluginuninstall r w
  | .savestate => t.savestate r w
  | .uploadstate => t.uploadstate r w
  | .login => t

/-! ## Login -/

/-- The session is authorised, once for every row that has the password. Without a row of the very
name there is no level, and `stoi` throws. -/
def authorize (t : Turn) (r : Request) (own : Option User) : List User → Turn
  | [] => t
  | _ :: rows =>
      match own with
      | none =>
          let t := t.respond r "success" "" [] []
          { t with session := { t.session with authorized := true } }
      | some u =>
          let t := t.respond r "success" "" [("level", toString u.accessLevel)] []
          authorize { t with session := { t.session with
            authorized := true, authorizationLevel := u.accessLevel } } r own rows

/-- Of the rows that the query for a name returns, the last that has the very name. -/
def namedUser (o : Outside) (users : List User) (user : String) : Option User :=
  ((users.filter fun u => o.sqlEq u.username user).filter fun u => u.username = user).getLast?

/-- The rows that the query for the hash returns and that have the stored password. -/
def matchingRows (o : Outside) (w : World) (password stored : String) : List User :=
  if password ≠ "" ∧ w.hashedInfoOk = true then
    (w.usersAtHash.filter fun u => o.sqlEq u.password (o.sha2 password)).filter
      fun u => u.password = stored
  else []

def login (o : Outside) (t : Turn) (r : Request) (w : World) : Turn :=
  match r.arg "user", r.arg "password" with
  | some user, some password =>
      let t := (t.call (.userInfo user)).act (.login t.key user password w.users)
      if user ≠ "" ∧ w.userInfoOk = true then
        if (w.users.filter fun u => o.sqlEq u.username user).isEmpty then
          t.respond r "failed" "Invalid user name" [] []
        else
          let own := namedUser o w.users user
          let data := (own.map fun u => ("level", toString u.accessLevel)).toList
          let t := t.call (.hashedInfo password)
          match matchingRows o w password ((own.map User.password).getD "") with
          | [] => t.respond r "failed" "Invalid user name or password" data []
          | row :: rows => t.authorize r own (row :: rows)
      else
        t.respond r "failed" "Cannot get user info" [] []
  | _, _ => t

/-! ## Messages -/

/-- Handle a request, if the session is authorised for it. -/
def handleRequest (o : Outside) (t : Turn) (r : Request) (w : World) : Turn :=
  match CommandName.ofText r.command with
  | none => t
  | some c =>
      if t.session.authorized then
        if t.session.authorizationLevel ≥ c.demands ∨ c = .logout then t.execute r w c else t
      else if c = .login then
        t.login o r w
      else
        t

/-- The text of a message: the buffer is read as a string that ends at its first zero. -/
def messageText (buffer : List UInt8) : List UInt8 := buffer.takeWhile fun b => b ≠ 0

/-- Handle the message in the buffer. -/
def handleMessage (o : Outside) (t : Turn) (w : World) : Turn :=
  let text := messageText t.session.buffer
  let t := { t with session := { t.session with parsed := t.session.parsed ++ [text] } }
  match (o.readJson text).bind Request.ofPtree with
  | none => t
  | some r => t.handleRequest o r w

/-- One round of the loop over the bytes. -/
def receiveByte (o : Outside) (w : World) (t : Turn) (b : UInt8) : Turn :=
  if b = 0x02 then
    { t with session := { t.session with buffer := [] } }
  else if b = 0x03 then
    if t.session.buffer.length > 0 then
      if t.session.buffer.length ≥ readBufferSize then t else t.handleMessage o w
    else t
  else if t.session.buffer.length ≥ readBufferSize then
    t
  else
    { t with session := { t.session with buffer := t.session.buffer ++ [b] } }

/-- The loop, with the answers of `TmxControl` for the message that ends at each byte. -/
def receiveBytes (o : Outside) (worlds : Nat → World) : Turn → List UInt8 → Turn
  | t, [] => t
  | t, b :: rest =>
      if t.ended then t
      else receiveBytes o (fun i => worlds (i + 1)) (t.receiveByte o (worlds 0) b) rest

end Turn

end V2XHub.Command
