import V2XHub.Lib.Run

/-!
# The database connection pool

A `DbConnection` holds a session with the server through a shared pointer. To copy one logs in anew,
to assign one shares the session, and to destroy one closes the session even if others share it. The
pool is a vector of them, and takes an element for free if nobody else shares its session.

Here a session is a number, its place in the list of all that were ever opened, and a use count is
the number of objects that hold it. What a compiler may choose (whether a returned local is built in
place) and what a server may do (refuse a login or a database) are in the `Environment`.
-/

namespace V2XHub.Tmx

open V2XHub.Lib

/-! ## Sessions -/

structure DbConnectionInformation where
  url : String := ""
  username : String := ""
  password : String := ""
  db : String := ""
  deriving DecidableEq

/-- An `sql::Connection`: what it is logged in to, and the database in use. -/
structure SqlConnection where
  url : String
  username : String
  password : String
  schema : Option String := none
  closed : Bool := false
  deriving DecidableEq

structure Environment where
  /-- `return local;` does not copy the local -/
  elides : Bool
  /-- `max_size` of the vector -/
  maxSize : Nat
  /-- whether the server accepts the login that would open the given session -/
  connects : Nat → String → String → String → Bool
  /-- whether the server accepts `USE db` in the given session -/
  executes : Nat → String → Bool

namespace SqlConnection

def isClosed (sessions : List SqlConnection) (p : Nat) : Bool :=
  match sessions[p]? with
  | some c => c.closed
  | none => true

def close (sessions : List SqlConnection) (p : Nat) : List SqlConnection :=
  sessions.modify p fun c => { c with closed := true }

end SqlConnection

/-! ## `DbConnection` -/

structure DbConnection where
  connInfo : DbConnectionInformation := {}
  connection : Option Nat := none
  oldInfo : DbConnectionInformation := {}
  deriving DecidableEq

namespace DbConnection

open SqlConnection

def isConnected (sessions : List SqlConnection) (o : DbConnection) : Bool :=
  match o.connection with
  | none => false
  | some p => !isClosed sessions p

/-- `~DbConnection`. -/
def destroy (sessions : List SqlConnection) (o : DbConnection) : List SqlConnection :=
  match o.connection with
  | none => sessions
  | some p => if isClosed sessions p then sessions else close sessions p

section

variable (env : Environment)

/-- `SetDatabase`; there is no object left if it throws. -/
def setDatabase (sessions : List SqlConnection) (o : DbConnection) (db : String) :
    List SqlConnection × Option DbConnection :=
  let o' := { o with connInfo.db := db, oldInfo.db := db }
  match o.connection with
  | none => (sessions, some o')
  | some p =>
      if isClosed sessions p = false ∧ db ≠ "" ∧ db ≠ o.oldInfo.db then
        if env.executes p db then
          (sessions.modify p fun c => { c with schema := some db }, some o')
        else (sessions, none)
      else (sessions, some o')

def reconnect (sessions : List SqlConnection) (o : DbConnection) :
    List SqlConnection × Option DbConnection :=
  let info := o.connInfo
  if isConnected sessions o ∧ o.oldInfo.url = info.url ∧ o.oldInfo.username = info.username ∧
      o.oldInfo.password = info.password then
    (sessions, some o)
  else
    let p := sessions.length
    if env.connects p info.url info.username info.password then
      let opened := sessions ++ [⟨info.url, info.username, info.password, none, false⟩]
      match setDatabase env opened { o with connection := some p } info.db with
      | (sessions', none) => (sessions', none)
      | (sessions', some o') =>
          (sessions', some
            { o' with
              oldInfo.url := info.url, oldInfo.username := info.username,
              oldInfo.password := info.password })
    -- a refused login is a session that was never open
    else (sessions ++ [⟨info.url, info.username, info.password, none, true⟩], none)

/-- `Init`, on an object whose other members are as constructed. -/
def init (sessions : List SqlConnection) (connection : Option Nat)
    (url username password db : String) : List SqlConnection × Option DbConnection :=
  reconnect env sessions
    { connInfo :=
        { url := url
          username := if username = "" then "IVP" else username
          password := if password = "" then "" else password
          db := db }
      connection := connection }

/-- The constructor from a URL. -/
def create (sessions : List SqlConnection) (url username password db : String) :
    List SqlConnection × Option DbConnection :=
  init env sessions none url username password db

/-- The copy constructor. -/
def copy (sessions : List SqlConnection) (o : DbConnection) :
    List SqlConnection × Option DbConnection :=
  init env sessions o.connection o.connInfo.url o.connInfo.username o.connInfo.password
    o.connInfo.db

/-- All elements of a vector are copied. If one copy throws, those already made are destroyed. -/
def copyAll (sessions : List SqlConnection) :
    List DbConnection → List SqlConnection × Option (List DbConnection)
  | [] => (sessions, some [])
  | o :: rest =>
      match copy env sessions o with
      | (sessions', none) => (sessions', none)
      | (sessions', some o') =>
          match copyAll sessions' rest with
          | (sessions'', none) => (destroy sessions'' o', none)
          | (sessions'', some rest') => (sessions'', some (o' :: rest'))

end

end DbConnection

/-! ## The pool -/

/-- The arguments of a call, and the URL of the pool object it is made on. -/
structure Request where
  connectStr : String
  connectionUrl : String := ""
  username : String := ""
  password : String := ""
  db : String := ""
  deriving DecidableEq

namespace Request

def url (r : Request) : String :=
  if r.connectionUrl = "" then r.connectStr else r.connectionUrl

/-- The user that is asked for, or the default. -/
def user (r : Request) : String :=
  if r.username = "" then "IVP" else r.username

/-- The database that is asked for, or none. -/
def schema (r : Request) : Option String :=
  if r.db = "" then none else some r.db

end Request

/-- A returned object that is alive, with the call that it was returned from. -/
structure Client where
  object : DbConnection
  request : Request
  deriving DecidableEq

structure DbConnectionPool where
  pool : List DbConnection := []
  capacity : Nat := 0
  clients : List Client := []
  sessions : List SqlConnection := []
  deriving DecidableEq

namespace DbConnectionPool

open SqlConnection

/-- `use_count` of the pointer of an object. -/
def useCount (s : DbConnectionPool) (o : DbConnection) : Nat :=
  match o.connection with
  | none => 0
  | some p =>
      s.pool.countP (fun e => e.connection = some p) +
        s.clients.countP fun c => c.object.connection = some p

def unusedOpen (s : DbConnectionPool) : Option Nat :=
  s.pool.findIdx? fun o => s.useCount o ≤ 1 ∧ o.isConnected s.sessions

def firstClosed (s : DbConnectionPool) : Option Nat :=
  s.pool.findIdx? fun o => s.useCount o ≤ 1 ∧ ¬ o.isConnected s.sessions

/-- The element that a call takes. -/
def unused (s : DbConnectionPool) : Option Nat :=
  s.unusedOpen.orElse fun _ => s.firstClosed

section

variable (env : Environment)

/-- An element is copied, the copy is assigned to it, and the copy is returned. -/
def take (s : DbConnectionPool) (i : Nat) (o : DbConnection) :
    DbConnectionPool × Option DbConnection :=
  match o.copy env s.sessions with
  | (sessions, none) => ({ s with sessions := sessions }, none)
  | (sessions, some newConn) =>
      let s' := { s with pool := s.pool.set i newConn, sessions := sessions }
      if env.elides then (s', some newConn)
      else
        -- the returned object is a copy, and the local is destroyed
        match newConn.copy env sessions with
        | (sessions', result) => ({ s' with sessions := newConn.destroy sessions' }, result)

/-- `emplace_back`: with no room left the elements are copied and the old ones are destroyed. -/
def emplaceBack (s : DbConnectionPool) (r : Request) : DbConnectionPool × Option DbConnection :=
  match DbConnection.create env s.sessions r.url r.username r.password r.db with
  | (sessions, none) => ({ s with sessions := sessions }, none)
  | (sessions, some added) =>
      if s.pool.length < s.capacity then
        ({ s with pool := s.pool ++ [added], sessions := sessions }, some added)
      else
        match DbConnection.copyAll env sessions s.pool with
        | (sessions', none) => ({ s with sessions := added.destroy sessions' }, none)
        | (sessions', some copies) =>
            ({ s with
                pool := copies ++ [added]
                capacity := s.pool.length + max s.pool.length 1
                sessions := s.pool.foldl DbConnection.destroy sessions' },
              some added)

/-- A new element, and a copy of it for the caller. -/
def add (s : DbConnectionPool) (r : Request) : DbConnectionPool × Option DbConnection :=
  if env.maxSize ≤ s.pool.length then (s, none)
  else
    match s.emplaceBack env r with
    | (s', none) => (s', none)
    | (s', some added) =>
        match added.copy env s'.sessions with
        | (sessions, result) => ({ s' with sessions := sessions }, result)

/-- `Connection`, with no object if it throws. -/
def connection (s : DbConnectionPool) (r : Request) : DbConnectionPool × Option DbConnection :=
  match s.unused with
  | none => s.add env r
  | some i =>
      match s.pool[i]? with
      | none => (s, none)
      | some o => s.take env i o

/-- `Release`; every element has a session, as a constructor that opens none throws. -/
def release (s : DbConnectionPool) : DbConnectionPool :=
  { s with
    sessions := s.pool.foldl
      (fun sessions o =>
        match o.connection with
        | none => sessions
        | some p => if s.useCount o ≤ 1 then close sessions p else sessions)
      s.sessions }

inductive Event where
  | connection (r : Request)
  /-- the `i`-th of the returned objects that are alive is destroyed -/
  | destroy (i : Nat)
  | release
  deriving DecidableEq

def step (s : DbConnectionPool) : Event → Option DbConnectionPool
  | .connection r =>
      match s.connection env r with
      | (s', none) => some s'
      | (s', some o) => some { s' with clients := s'.clients ++ [⟨o, r⟩] }
  | .destroy i =>
      match s.clients[i]? with
      | none => none
      | some c =>
          some { s with
            clients := s.clients.eraseIdx i
            sessions := c.object.destroy s.sessions }
  | .release => some s.release

end

end DbConnectionPool

end V2XHub.Tmx
