import V2XHub.Lib.History

/-!
# Requests to the command plugin

The admin portal talks to the command plugin over websockets. A request is a JSON text with a
command, an id and arguments; what it may do depends on the level the session is authorised at.

This module has the requests, the commands with the level each demands, the calls of `TmxControl`
that carry them out, and the responses.
-/

namespace V2XHub.Command

open V2XHub.Lib

/-! ## Property trees -/

/-- `boost::property_tree::ptree`. -/
inductive Ptree where
  | node (data : String) (children : List (String × Ptree))

namespace Ptree

def data : Ptree → String
  | node data _ => data

def children : Ptree → List (String × Ptree)
  | node _ children => children

/-- `get_child`. It throws where this is `none`. -/
def getChild (t : Ptree) (key : String) : Option Ptree :=
  (t.children.find? fun child => child.1 = key).map Prod.snd

/-- `get<string>`. -/
def getString (t : Ptree) (key : String) : Option String :=
  (t.getChild key).map data

end Ptree

/-! ## Commands -/

/-- `AuthorizationLevels`. -/
def readOnly : Int := 1
def applicationAdministrator : Int := 2
def systemAdministrator : Int := 3

inductive CommandName where
  | enable
  | disable
  | set
  | logout
  | clearlog
  | userlist
  | useradd
  | userupdate
  | userdelete
  | uploadfile
  | plugininstall
  | pluginuninstall
  | savestate
  | uploadstate
  | login
  deriving DecidableEq, Repr

namespace CommandName

def text : CommandName → String
  | enable => "enable"
  | disable => "disable"
  | set => "set"
  | logout => "logout"
  | clearlog => "clearlog"
  | userlist => "userlist"
  | useradd => "useradd"
  | userupdate => "userupdate"
  | userdelete => "userdelete"
  | uploadfile => "uploadfile"
  | plugininstall => "plugininstall"
  | pluginuninstall => "pluginuninstall"
  | savestate => "savestate"
  | uploadstate => "uploadstate"
  | login => "login"

def all : List CommandName :=
  [enable, disable, set, logout, clearlog, userlist, useradd, userupdate, userdelete, uploadfile,
    plugininstall, pluginuninstall, savestate, uploadstate, login]

def ofText (command : String) : Option CommandName :=
  all.find? fun c => c.text = command

/-- The level a session must be authorised at. -/
def demands : CommandName → Int
  | enable | disable | set | plugininstall | pluginuninstall => applicationAdministrator
  | clearlog | userlist | useradd | userupdate | userdelete | uploadfile | savestate
  | uploadstate => systemAdministrator
  | logout | login => readOnly

end CommandName

/-! ## Requests -/

structure Request where
  command : String
  id : String
  args : List (String × String)
  deriving DecidableEq, Repr

namespace Request

/-- The request in a message, if it is one. Everything that throws on the way leaves the message
without effect. -/
def ofPtree (pt : Ptree) : Option Request := do
  let header ← pt.getChild "header"
  let msgType ← header.getString "type"
  let msgSubtype ← header.getString "subtype"
  if msgType = "Command" ∧ msgSubtype = "Execute" then
    let payload ← pt.getChild "payload"
    let command ← payload.getString "command"
    let id ← payload.getString "id"
    let args :=
      match payload.getChild "args" with
      | some args => args.children.map fun arg => (arg.1, arg.2.data)
      | none => []
    return { command, id, args }
  else
    none

/-- `argsList.find`: of arguments with one name the last. -/
def arg (r : Request) (key : String) : Option String :=
  (latest Prod.fst key r.args).map Prod.snd

/-- `argsList[key]`. -/
def argD (r : Request) (key : String) : String := (r.arg key).getD ""

end Request

/-! ## Passwords -/

/-- `[-!@#$%^&*+=<>?]`. -/
def isSymbol (c : Char) : Bool := c ∈ "-!@#$%^&*+=<>?".toList

/-- A new password has eight or more valid characters and one of each kind; else the reasons. An
invalid character in a password that is long enough has no text. -/
def passwordErrors (password : String) : List String :=
  let chars := password.toList
  let valid := chars.all fun c => isSymbol c || c.isDigit || c.isLower || c.isUpper
  (if valid ∧ password.utf8ByteSize ≥ 8 then []
    else if password.utf8ByteSize < 8 then [" (Invalid Length)", " (Invalid Character)"]
    else [""]) ++
  (if chars.any isSymbol then [] else [" (No Symbol)"]) ++
  (if chars.any Char.isDigit then [] else [" (No Number)"]) ++
  (if chars.any Char.isLower then [] else [" (No Lower Case Letter)"]) ++
  (if chars.any Char.isUpper then [] else [" (No Upper Case Letter)"])

/-! ## Effects -/

/-- A call of `TmxControl` with the options that were set for it. -/
inductive ControlCall where
  | enable (plugin : String)
  | disable (plugin : String)
  | maxMessageInterval (plugin value : String)
  | setSystem (plugin key value defaultValue description : String)
  | set (plugin key value defaultValue description : String)
  | clearEventLog
  | allUsersInfo
  | userAdd (username password accessLevel : String)
  | userUpdate (username : String) (password accessLevel : Option String)
  | userDelete (username : String)
  | pluginInstall (pluginInstall pluginDirectory : String)
  | pluginRemove (plugin : String)
  | saveState (passphrase : String)
  | uploadState (filePath passphrase : String)
  | userInfo (username : String)
  | hashedInfo (password : String)
  deriving DecidableEq, Repr

namespace ControlCall

/-- The command the call is for, unless it is a query. -/
def changes : ControlCall → Option CommandName
  | enable _ => some .enable
  | disable _ => some .disable
  | maxMessageInterval _ _ => some .set
  | setSystem _ _ _ _ _ => some .set
  | set _ _ _ _ _ => some .set
  | clearEventLog => some .clearlog
  | allUsersInfo => none
  | userAdd _ _ _ => some .useradd
  | userUpdate _ _ _ => some .userupdate
  | userDelete _ => some .userdelete
  | pluginInstall _ _ => some .plugininstall
  | pluginRemove _ => some .pluginuninstall
  | saveState _ => some .savestate
  | uploadState _ _ => some .uploadstate
  | userInfo _ => none
  | hashedInfo _ => none

end ControlCall

/-- What `BuildCommandResponse` is given. -/
structure Response where
  id : String
  command : String
  status : String
  reason : String
  data : List (String × String)
  arrayData : List (String × String)
  deriving DecidableEq, Repr

end V2XHub.Command
