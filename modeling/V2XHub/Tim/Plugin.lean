import V2XHub.Lib.Run

/-!
# Broadcasting a traveler information message

A TIM comes by a POST request or from a file that the configuration names. The main loop reads a new
file in its outer loop. Its inner loop tests whether the TIM is active, and broadcasts it under a
lock for as long as that is the case.

The steps are those that other threads can come between: the request and the configuration update,
the test of the file flag, the locked read, the activity test and the locked broadcast.
-/

namespace V2XHub.Tim

open V2XHub.Lib

/-! ## Activity -/

/-- How `Main` ends. -/
inductive Failure where
  | exception (what : String)
  /-- a null pointer is read -/
  | crash

structure DataFrame where
  /-- minute of the year -/
  startTime : Int
  startYear : Option Int
  /-- minutes -/
  durationTime : Int

/-- A `TimMessage`, which is decoded when its data is asked for. -/
structure TimMessage where
  dataFrames : Except String (List DataFrame)

/-- `timegm` at the start of a year. -/
def timegm (year : Int) : Int :=
  (365 * (year - 1970) + (year - 1969) / 4 - (year - 1901) / 100 + (year - 1601) / 400) * 86400

def convertTimTime (year minuteOfYear : Int) : Int :=
  timegm (year.bmod 4294967296) + minuteOfYear * 60

/-- `isTimActive` of the times. -/
def isActiveAt (timStartTime timStopTime currentTime timDuration : Int) : Except Failure Bool :=
  if timDuration = 32000 then .ok (timStartTime ≤ currentTime)
  else if timDuration > 32000 then
    .error (.exception ("TIM duration exceeded maximum of 32000 minutes : " ++
      toString timDuration ++ " minutes!"))
  else .ok (timStartTime ≤ currentTime ∧ currentTime ≤ timStopTime)

def isTimActive (timMsg : TimMessage) (curTimeUTC : Int) : Except Failure Bool :=
  match timMsg.dataFrames with
  | .error what => .error (.exception what)
  | .ok [] => .error .crash
  | .ok (frame :: _) =>
      match frame.startYear with
      | none => .error .crash
      | some startYear =>
          if frame.startTime ≥ 527040 then .ok false
          else
            let startTimeUTC := convertTimTime startYear frame.startTime
            let stopTimeUTC := startTimeUTC + 60 * frame.durationTime
            isActiveAt startTimeUTC stopTimeUTC curTimeUTC frame.durationTime

/-- What stands at a path. -/
inductive File where
  | missing
  | closed (error : String)
  | text (contents : String)

/-- `readTimXml` is the XML reader. -/
def readTimFile (readTimXml : String → Except String TimMessage) (filePath : String) :
    File → Except String TimMessage
  | .missing => .error ("File path " ++ filePath ++ " does not exist!")
  | .closed error => .error ("File " ++ filePath ++ " failed to open. System Error : " ++ error)
  | .text contents => readTimXml contents

/-! ## The plugin -/

inductive PluginState where
  | disconnected
  | connected
  | registered
  | error
  deriving DecidableEq

/-- Where the main loop is: before the test of the file flag, the locked read, the activity test or
the locked broadcast. -/
inductive Pc where
  | outer
  | reading
  | testing
  | broadcasting
  | ended
  deriving DecidableEq

/-- A TIM and the place in the order of supplies at which it came. -/
structure Supplied where
  serial : Nat
  timMsg : TimMessage

/-- `TimPlugin`, and what has been supplied. All supplies are numbered, those by file with the
update that names it. -/
structure TimPlugin where
  timMsgPtr : Option Supplied := none
  timFile : String := ""
  isTimFileNew : Bool := false
  isTimUpdated : Bool := false
  pc : Pc := .outer
  /-- the number of supplies -/
  supplied : Nat := 0
  /-- the update that set `timFile` -/
  fileSerial : Nat := 0
  /-- the first update since the last POST whose file has not been read -/
  waiting : Option Nat := none
  /-- the number of supplies at the start of the outer and of the inner iteration -/
  outerStart : Nat := 0
  innerStart : Nat := 0
  /-- the supplies before this one count: up to the last POST, and up to the last file for which
  there was a full iteration -/
  due : Nat := 0
  /-- the results of the activity test, newest first -/
  tested : List (Nat × Bool) := []

namespace TimPlugin

/-- What is broadcast is the latest supply that counts, or a later one, and was active when it was
tested last. -/
structure Fresh (s : TimPlugin) (tim : Supplied) : Prop where
  latest : s.due ≤ tim.serial + 1
  active : s.tested.lookup tim.serial = some true

def updateConfigSettings (s : TimPlugin) (timFile : String) (present : Bool) : TimPlugin :=
  if present then
    { s with
      timFile := timFile
      isTimFileNew := true
      supplied := s.supplied + 1
      fileSerial := s.supplied
      waiting := some (s.waiting.getD s.supplied) }
  else { s with timFile := timFile }

/-- The end of an iteration of the outer loop. -/
def endOuter (s : TimPlugin) : TimPlugin :=
  { s with pc := .outer, due := max s.due s.outerStart }

/-- The start of an iteration of the outer loop. -/
def checkFile (s : TimPlugin) (state : PluginState) : TimPlugin :=
  let s := { s with outerStart := s.supplied }
  match state with
  | .error => { s with pc := .ended }
  | .registered => { s with pc := if s.isTimFileNew then .reading else .testing }
  | _ => s.endOuter

/-- The condition of the inner loop. -/
def testActive (s : TimPlugin) (now : Int) : TimPlugin :=
  let s := { s with innerStart := s.supplied }
  match s.timMsgPtr with
  | none => s.endOuter
  | some tim =>
      match isTimActive tim.timMsg now with
      | .error _ => { s with pc := .ended }
      | .ok active =>
          let s := { s with tested := (tim.serial, active) :: s.tested }
          if active then { s with pc := .broadcasting } else s.endOuter

/-- The body of the inner loop. Encoding the message may throw. -/
def broadcastTim (s : TimPlugin) (encoded : Bool) : TimPlugin :=
  let s := { s with isTimUpdated := false }
  if encoded then { s with pc := .testing, due := max s.due s.innerStart }
  else { s with pc := .ended }

section

variable (readTimXml : String → Except String TimMessage)

/-- `TimRequestHandler`. A body that is empty or not read is refused. -/
def timRequestHandler (s : TimPlugin) (body : String) : TimPlugin :=
  if body = "" then s
  else
    match readTimXml body with
    | .error _ => s
    | .ok timMsg =>
        { s with
          timMsgPtr := some ⟨s.supplied, timMsg⟩
          isTimUpdated := true
          supplied := s.supplied + 1
          waiting := none
          due := s.supplied + 1 }

/-- The locked read of a new file. -/
def readFile (s : TimPlugin) (file : File) : TimPlugin :=
  let s := { s with isTimFileNew := false }
  match readTimFile readTimXml s.timFile file with
  | .error _ => { s with pc := .ended }
  | .ok timMsg =>
      { s with timMsgPtr := some ⟨s.fileSerial, timMsg⟩, waiting := none, pc := .testing }

inductive Event where
  | post (body : String)
  /-- an update that names an existing file -/
  | updateConfig (timFile : String)
  | check (state : PluginState)
  | read (file : File)
  | test (now : Int)
  | broadcast (encoded : Bool)

def step (s : TimPlugin) : Event → Option TimPlugin
  | .post body => some (s.timRequestHandler readTimXml body)
  | .updateConfig timFile => some (s.updateConfigSettings timFile true)
  | .check state => if s.pc = .outer then some (s.checkFile state) else none
  | .read file => if s.pc = .reading then some (s.readFile readTimXml file) else none
  | .test now => if s.pc = .testing then some (s.testActive now) else none
  | .broadcast encoded => if s.pc = .broadcasting then some (s.broadcastTim encoded) else none

/-- The TIM that a step broadcasts. -/
def broadcastOf (s : TimPlugin) : Event → Option Supplied
  | .broadcast true => s.timMsgPtr
  | _ => none

end

end TimPlugin

end V2XHub.Tim
