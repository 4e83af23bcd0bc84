import Mathlib.Data.List.AList

/-!
# Traffic control messages awaiting acknowledgement

CARMA Cloud answers a vehicle's request with traffic control messages (TCMs). The plugin broadcasts
a TCM when it arrives and keeps it in `_not_ACK_TCMs` until a vehicle acknowledges it; a timer
thread rebroadcasts what is kept, a bounded number of times, and gives up after a time-out.

Three containers, three keys. A TCM is identified by its request id and its `msgnum`; broadcast
counters are kept per request id and payload; the time-out runs per request id, from the first
iteration of the timer that met the id. One answer of the cloud has several TCMs of one request id,
and they need not arrive together.

Arrivals, acknowledgements and the loop of the timer hold the lock. The size check in front of the
loop does not, so it is a step of its own.
-/

namespace V2XHub.CarmaCloud

/-- `std::multimap::insert`: behind the entries with an equal key. -/
def multimapInsert {α : Type} (k : String) (v : α) : List (String × α) → List (String × α)
  | [] => [(k, v)]
  | e :: es => if k < e.1 then (k, v) :: e :: es else e :: multimapInsert k v es

@[simp] theorem mem_multimapInsert {α : Type} {k : String} {v : α} {l : List (String × α)}
    {e : String × α} : e ∈ multimapInsert k v l ↔ e = (k, v) ∨ e ∈ l := by
  induction l with
  | nil => simp [multimapInsert]
  | cons d l ih =>
      unfold multimapInsert
      split
      · simp
      · simp only [List.mem_cons, ih]
        tauto

/-- `tsm5EncodedMessage`. -/
structure Tcm where
  payload : String
  /-- The `msgnum` of the decoded message; `none` when it does not decode. -/
  msgnum : Option Int
  deriving DecidableEq, Repr

structure Tracked where
  tcm : Tcm
  /-- When the first iteration that saw this TCM began. The code does not know. -/
  firstSeen : Option Int := none
  deriving DecidableEq, Repr

structure TcmBroadcastMetadata where
  tcmHex : String
  numOfTimes : Int
  deriving DecidableEq, Repr

structure Config where
  /-- `_TCMRepeatedlyBroadcastTimeOut`, in milliseconds -/
  timeOut : UInt16
  /-- `_TCMRepeatedlyBroadCastTotalTimes` -/
  totalTimes : Int
  deriving DecidableEq, Repr

/-! ## The broadcast counters -/

/-- The loop of `IsSkipBroadcastCurTCM` runs over all entries of the request id, and on those with
this payload either asks for the skip or counts up. -/
def countUp (total : Int) (reqid payload : String) (e : String × TcmBroadcastMetadata) :
    String × TcmBroadcastMetadata :=
  if e.1 = reqid ∧ e.2.tcmHex = payload ∧ e.2.numOfTimes < total then
    (e.1, { e.2 with numOfTimes := e.2.numOfTimes + 1 })
  else e

/-- `IsSkipBroadcastCurTCM`: whether to skip, and the counters afterwards. -/
def isSkipBroadcastCurTcm (total : Int) (times : List (String × TcmBroadcastMetadata))
    (reqid payload : String) : Bool × List (String × TcmBroadcastMetadata) :=
  if total = 0 then (true, times)
  else
    let isTcmHexFound := times.any (fun e => e.1 = reqid && e.2.tcmHex = payload)
    let isSkipCurTcm := times.any
      (fun e => e.1 = reqid && e.2.tcmHex = payload && total ≤ e.2.numOfTimes)
    let counted := times.map (countUp total reqid payload)
    if isTcmHexFound then (isSkipCurTcm, counted)
    else (isSkipCurTcm, multimapInsert reqid ⟨payload, 1⟩ counted)

/-! ## One iteration of the timer -/

/-- What the timer does. -/
inductive Logged
  | rebroadcast (reqid payload : String)
  /-- The counters of the request id are erased after its time-out. -/
  | cleared (reqid : String)
  /-- The counters are cleared, no TCM being tracked. -/
  | clearedAll
  deriving DecidableEq, Repr

/-- What the loop over the TCMs changes. -/
structure Pass where
  startingTime : AList (fun _ : String => Int)
  broadcastTimes : List (String × TcmBroadcastMetadata)
  /-- newest first -/
  log : List Logged
  expired : List String := []

def Pass.rebroadcast (cfg : Config) (p : Pass) (reqid payload : String) : Pass :=
  let (skip, times) := isSkipBroadcastCurTcm cfg.totalTimes p.broadcastTimes reqid payload
  if skip then { p with broadcastTimes := times }
  else { p with broadcastTimes := times, log := .rebroadcast reqid payload :: p.log }

/-- The loop's body, for a TCM met at `curTime`. -/
def Pass.visit (cfg : Config) (p : Pass) (reqid payload : String) (curTime : Int) : Pass :=
  match p.startingTime.lookup reqid with
  | none =>
      Pass.rebroadcast cfg { p with startingTime := p.startingTime.insert reqid curTime } reqid
        payload
  | some start =>
      if curTime - start > (cfg.timeOut.toNat : Int) then
        { p with expired := p.expired.insert reqid }
      else p.rebroadcast cfg reqid payload

/-- The loop; the clock is read for each TCM. -/
def Pass.visitAll (cfg : Config) (clock : Nat → Int) : Nat → List (String × Tracked) → Pass → Pass
  | _, [], p => p
  | k, (reqid, t) :: ts, p =>
      visitAll cfg clock (k + 1) ts (p.visit cfg reqid t.tcm.payload (clock k))

/-! ## The plugin -/

inductive Cause
  | acknowledged (reqid : String) (msgnum : Int)
  | timedOut (time : Int)
  deriving DecidableEq, Repr

/-- A TCM that is no longer tracked, and why. -/
structure Removal where
  reqid : String
  tracked : Tracked
  cause : Cause
  deriving DecidableEq, Repr

inductive TimerPhase
  | sleeping
  /-- `_not_ACK_TCMs->size() > 0` was true -/
  | foundTcms
  /-- it was false -/
  | foundNone
  deriving DecidableEq, Repr

structure Plugin where
  notAckTcms : List (String × Tracked) := []
  startingTime : AList (fun _ : String => Int) := ∅
  broadcastTimes : List (String × TcmBroadcastMetadata) := []
  timer : TimerPhase := .sleeping
  now : Int := 0
  removals : List Removal := []
  /-- newest first -/
  log : List Logged := []

inductive Event
  /-- `CARMAResponseHandler`, for one TCM of an answer -/
  | arrive (reqid : String) (tcm : Tcm)
  /-- `HandleMobilityOperationMessage`; `none` for a `msgnum` that `stol` does not read -/
  | acknowledge (reqid : String) (msgnum : Option Int)
  /-- the timer's size check -/
  | wake
  /-- the rest of the timer's iteration, with the clock as it is read -/
  | iterate (clock : Nat → Int)

namespace Plugin

def arrive (s : Plugin) (reqid : String) (tcm : Tcm) : Plugin :=
  if reqid.length > 0 then { s with notAckTcms := multimapInsert reqid { tcm := tcm } s.notAckTcms }
  else s

/-- The loop over `equal_range`: the first TCM with the `msgnum` is taken out. A TCM that does not
decode ends the loop. -/
def takeOut (reqid : String) (msgnum : Int) :
    List (String × Tracked) → Option Tracked × List (String × Tracked)
  | [] => (none, [])
  | (id, t) :: ts =>
      if id = reqid then
        match t.tcm.msgnum with
        | none => (none, (id, t) :: ts)
        | some n =>
            if n = msgnum then (some t, ts)
            else ((takeOut reqid msgnum ts).1, (id, t) :: (takeOut reqid msgnum ts).2)
      else ((takeOut reqid msgnum ts).1, (id, t) :: (takeOut reqid msgnum ts).2)

def acknowledge (s : Plugin) (reqid : String) (msgnum : Int) : Plugin :=
  let (removed, kept) := takeOut reqid msgnum s.notAckTcms
  { s with
    notAckTcms := kept
    removals := removed.toList.map (⟨reqid, ·, .acknowledged reqid msgnum⟩) ++ s.removals }

/-- A TCM the iteration sees. -/
def see (time : Int) (e : String × Tracked) : String × Tracked :=
  (e.1, { e.2 with firstSeen := some (e.2.firstSeen.getD time) })

/-- The state the loop starts from. -/
def pass (s : Plugin) : Pass where
  startingTime := s.startingTime
  broadcastTimes := s.broadcastTimes
  log := s.log

/-- The loop, and the clean-up of the ids that expired in it. -/
def iterate (cfg : Config) (s : Plugin) (clock : Nat → Int) : Plugin :=
  let seen := s.notAckTcms.map (see (clock 0))
  let p := s.pass.visitAll cfg clock 0 s.notAckTcms
  let time := clock s.notAckTcms.length
  { notAckTcms := seen.filter (fun e => e.1 ∉ p.expired)
    startingTime := p.expired.foldl (fun m id => m.erase id) p.startingTime
    broadcastTimes := p.broadcastTimes.filter (fun e => e.1 ∉ p.expired)
    timer := .sleeping
    now := time
    removals := (seen.filter (fun e => e.1 ∈ p.expired)).map (fun e => ⟨e.1, e.2, .timedOut time⟩)
      ++ s.removals
    log := p.expired.foldl (fun log id => .cleared id :: log) p.log }

/-- The clock does not run backwards: not since the last iteration, and not in this one. -/
def clockRuns (s : Plugin) (clock : Nat → Int) : Bool :=
  s.now ≤ clock 0 && (List.range s.notAckTcms.length).all (fun k => clock k ≤ clock (k + 1))

def step (cfg : Config) (s : Plugin) : Event → Option Plugin
  | .arrive reqid tcm => some (s.arrive reqid tcm)
  | .acknowledge _ none => some s
  | .acknowledge reqid (some msgnum) => some (s.acknowledge reqid msgnum)
  | .wake =>
      if s.timer = .sleeping then
        some { s with timer := if s.notAckTcms.length > 0 then .foundTcms else .foundNone }
      else none
  | .iterate clock =>
      if s.clockRuns clock then
        match s.timer with
        | .sleeping => none
        | .foundTcms => some (s.iterate cfg clock)
        | .foundNone =>
            some { s with
              startingTime := ∅, broadcastTimes := [], log := .clearedAll :: s.log
              timer := .sleeping, now := clock 0 }
      else none

end Plugin

end V2XHub.CarmaCloud
