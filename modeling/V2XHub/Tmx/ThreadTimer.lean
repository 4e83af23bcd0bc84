import V2XHub.Lib.Run

/-!
# The thread timer

One thread calls the tick functions that are due, pass after pass. For each it takes a copy of the
data under the lock, reads the clock, calls the function without the lock and then writes the time
back, so other threads can add ticks, change frequencies and trigger ticks at any point between.

Times are in nanoseconds, frequencies and delays in milliseconds. The log has, newest first, what
can be seen from the outside.
-/

namespace V2XHub.Tmx

open V2XHub.Lib

/-- Milliseconds in the unit of the clock. -/
def ns (ms : Int) : Int := ms * 1000000

/-- `PeriodicTickData` without the function. -/
structure PeriodicTickData where
  frequency : Int
  startDelay : Int
  /-- a `time_point` is initially the epoch of the clock -/
  lastTickTime : Int := 0
  /-- the time at which the tick was added, which the code does not keep -/
  addedAt : Int
  deriving DecidableEq

/-- The test before a call; `duration_cast` rounds toward zero. -/
def PeriodicTickData.due (t : PeriodicTickData) (now : Int) : Bool :=
  0 < t.frequency ∧ t.frequency ≤ (now - t.lastTickTime).tdiv 1000000

/-- Where the thread is in `DoWork`. -/
inductive TimerPhase where
  | notStarted
  /-- the start time is read, the initial times are not set -/
  | starting (startTime : Int)
  /-- between two passes -/
  | sleeping
  /-- at the top of the loop over the ticks -/
  | looking (index : Nat)
  /-- with a copy of the tick -/
  | copied (index : Nat) (tick : PeriodicTickData)
  /-- in the function, or after it -/
  | calling (index : Nat) (now : Int)
  deriving DecidableEq

inductive TimerEntry where
  | added (id : Nat) (time startDelay : Int)
  | started (time : Int)
  | triggered (id : Nat) (frequency : Int)
  | passBegun
  | passEnded
  /-- the function was called after a check of this frequency -/
  | called (id : Nat) (time frequency : Int)
  deriving DecidableEq

structure ThreadTimer where
  periodicTicks : List PeriodicTickData := []
  phase : TimerPhase := .notStarted
  /-- the last time that anyone has read -/
  clock : Int := 0
  startTime : Option Int := none
  log : List TimerEntry := []
  deriving DecidableEq

namespace ThreadTimer

inductive Event where
  | addPeriodicTick (frequency startDelay now : Int)
  | changeFrequency (id : Nat) (frequency : Int)
  | triggerNow (id : Nat) (now : Int)
  | start (now : Int)
  | setInitialTimes
  | beginPass
  /-- the tick is copied, or the pass ends as there is none -/
  | copyTick
  | check (now : Int)
  | writeBack
  deriving DecidableEq

/-- The tick as it is when the thread starts. -/
def initialTick (startTime : Int) (t : PeriodicTickData) : PeriodicTickData :=
  { t with lastTickTime := startTime - ns t.frequency + ns t.startDelay }

def step (s : ThreadTimer) : Event → Option ThreadTimer
  | .addPeriodicTick frequency startDelay now =>
      if s.clock ≤ now then
        some { s with
          clock := now
          periodicTicks := s.periodicTicks ++ [⟨frequency, startDelay, 0, now⟩]
          log := .added s.periodicTicks.length now startDelay :: s.log }
      else none
  | .changeFrequency id frequency =>
      -- an invalid id is an exception
      some { s with
        periodicTicks := s.periodicTicks.modify id fun t => { t with frequency := frequency } }
  | .triggerNow id now =>
      match s.periodicTicks[id]? with
      | none => some s
      | some t =>
          if s.clock ≤ now then
            some { s with
              clock := now
              periodicTicks := s.periodicTicks.modify id fun t =>
                { t with lastTickTime := now - ns t.frequency }
              log := .triggered id t.frequency :: s.log }
          else none
  | .start now =>
      if s.phase = .notStarted ∧ s.clock ≤ now then
        some { s with
          clock := now
          phase := .starting now
          startTime := some now
          log := .started now :: s.log }
      else none
  | .setInitialTimes =>
      match s.phase with
      | .starting startTime =>
          some { s with
            periodicTicks := s.periodicTicks.map (initialTick startTime)
            phase := .sleeping }
      | _ => none
  | .beginPass =>
      match s.phase with
      | .sleeping => some { s with phase := .looking 0, log := .passBegun :: s.log }
      | _ => none
  | .copyTick =>
      match s.phase with
      | .looking index =>
          match s.periodicTicks[index]? with
          | some t => some { s with phase := .copied index t }
          | none => some { s with phase := .sleeping, log := .passEnded :: s.log }
      | _ => none
  | .check now =>
      match s.phase with
      | .copied index t =>
          if s.clock ≤ now then
            if t.due now then
              some { s with
                clock := now
                phase := .calling index now
                log := .called index now t.frequency :: s.log }
            else some { s with clock := now, phase := .looking (index + 1) }
          else none
      | _ => none
  | .writeBack =>
      match s.phase with
      | .calling index now =>
          some { s with
            periodicTicks := s.periodicTicks.modify index fun t => { t with lastTickTime := now }
            phase := .looking (index + 1) }
      | _ => none

end ThreadTimer

end V2XHub.Tmx
