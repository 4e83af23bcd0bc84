import V2XHub.Lib.Log
import V2XHub.Lib.Run

/-!
# The queues of a plugin connection

The receiver thread of a `PluginConnection` puts each message it can parse on one of two queues, and
one processor thread for each queue takes them off. A queue holds 50 messages; one more overwrites
the oldest. A processor sleeps on an auto-reset event, which the receiver sets after each push. When
the connection ends, the receiver stops both threads and destroys what is left.

The locked sections are single steps, and the three threads take them in any order. The history of a
queue, newest entry first, is what has happened to its messages, which have numbers for names.
-/

namespace V2XHub.Tmx

open V2XHub.Lib

/-! ## One queue and its processor thread -/

/-- What the processor thread does next. -/
inductive ProcessorPhase where
  /-- the test of the loop -/
  | testing
  /-- `WaitOne` -/
  | waiting
  /-- the locked section -/
  | taking
  | processing (msg : Nat)
  /-- `ivpMsg_destroy` -/
  | destroying (msg : Nat)
  | exited
  deriving DecidableEq

inductive QueueEntry where
  | arrived (msg : Nat)
  | popped (msg : Nat)
  /-- its processing has ended -/
  | processed (msg : Nat)
  | destroyed (msg : Nat)
  /-- the connection was found closed -/
  | closed
  deriving DecidableEq

structure MessageQueue where
  queue : List Nat := []
  /-- the flag of the `AutoResetEvent` -/
  flag : Bool := false
  interrupted : Bool := false
  messageWaiting : Bool := false
  phase : ProcessorPhase := .testing
  history : List QueueEntry := []
  deriving DecidableEq

namespace MessageQueue

/-- `push_back`, after the message that it overwrites was destroyed. -/
def push (q : MessageQueue) (msg : Nat) : MessageQueue :=
  match q.queue with
  | [] => { q with queue := [msg] }
  | front :: rest =>
      if q.queue.length = 50 then
        { q with queue := rest ++ [msg], history := .destroyed front :: q.history }
      else { q with queue := q.queue ++ [msg] }

/-- The loop over the messages that are left. -/
def destroyAll : List Nat → List QueueEntry → List QueueEntry
  | [], history => history
  | msg :: rest, history => destroyAll rest (.destroyed msg :: history)

def clear (q : MessageQueue) : MessageQueue :=
  { q with queue := [], history := destroyAll q.queue q.history }

/-- The next step of `fastProcessorThread` or `slowProcessorThread`, if it is not blocked. -/
def processorStep (q : MessageQueue) : Option MessageQueue :=
  match q.phase with
  | .testing =>
      if q.interrupted then some { q with phase := .exited }
      else if q.messageWaiting then some { q with phase := .taking }
      else some { q with phase := .waiting }
  | .waiting =>
      -- waiting resets the flag
      if q.flag then some { q with flag := false, phase := .taking } else none
  | .taking =>
      match q.queue with
      -- `messageWaiting` keeps its value
      | [] => some { q with phase := .testing }
      | msg :: rest =>
          some { q with
            queue := rest
            messageWaiting := !rest.isEmpty
            phase := .processing msg
            history := .popped msg :: q.history }
  | .processing msg =>
      some { q with phase := .destroying msg, history := .processed msg :: q.history }
  | .destroying msg =>
      some { q with phase := .testing, history := .destroyed msg :: q.history }
  | .exited => none

end MessageQueue

/-! ## The connection -/

inductive MessageKind where
  | registration
  | subscribe
  | config
  | status
  | eventLog
  | other
  deriving DecidableEq

/-- The queues differ in the messages they are for. -/
inductive Speed where
  | fast
  | slow
  deriving DecidableEq

/-- Status and event log messages may take some time. -/
def MessageKind.speed : MessageKind → Speed
  | .status | .eventLog => .slow
  | _ => .fast

/-- What the receiver does to a queue when the connection was closed. -/
inductive CloseAction where
  | interrupt (speed : Speed)
  | set (speed : Speed)
  | join (speed : Speed)
  | clear (speed : Speed)
  deriving DecidableEq

def closeActions : List CloseAction :=
  [.interrupt .fast, .interrupt .slow, .set .fast, .set .slow, .join .fast, .join .slow,
    .clear .fast, .clear .slow]

inductive ReceivePhase where
  /-- before the next message -/
  | receiving
  /-- with a parsed message, before the lock -/
  | received (speed : Speed) (msg : Nat)
  /-- before `Set` -/
  | pushed (speed : Speed)
  /-- the connection was closed, and this is left to do -/
  | closing (todo : List CloseAction)
  deriving DecidableEq

structure ConnectionQueues where
  receiver : ReceivePhase := .receiving
  queues : Speed → MessageQueue := fun _ => {}
  nextMessage : Nat := 0

namespace ConnectionQueues

def setQueue (s : ConnectionQueues) (speed : Speed) (q : MessageQueue) : ConnectionQueues :=
  { s with queues := fun k => if k = speed then q else s.queues k }

/-- One of the actions at the end; `join` waits until the thread has left. -/
def closeAction (s : ConnectionQueues) : CloseAction → Option ConnectionQueues
  | .interrupt speed => some (s.setQueue speed { s.queues speed with interrupted := true })
  | .set speed => some (s.setQueue speed { s.queues speed with flag := true })
  | .join speed => if (s.queues speed).phase = .exited then some s else none
  | .clear speed => some (s.setQueue speed (s.queues speed).clear)

inductive Event where
  /-- the next message is parsed, or cannot be -/
  | receive (kind : Option MessageKind)
  | push
  | set
  /-- `recv` finds the connection closed -/
  | close
  /-- the next of the actions at the end -/
  | closeAction
  /-- a step of a processor thread -/
  | processor (speed : Speed)
  deriving DecidableEq

def step (s : ConnectionQueues) : Event → Option ConnectionQueues
  | .receive none => if s.receiver = .receiving then some s else none
  | .receive (some kind) =>
      if s.receiver = .receiving then
        let q := s.queues kind.speed
        some { s.setQueue kind.speed { q with history := .arrived s.nextMessage :: q.history } with
          receiver := .received kind.speed s.nextMessage
          nextMessage := s.nextMessage + 1 }
      else none
  | .push =>
      match s.receiver with
      | .received speed msg =>
          some { s.setQueue speed ((s.queues speed).push msg) with receiver := .pushed speed }
      | _ => none
  | .set =>
      match s.receiver with
      | .pushed speed =>
          some { s.setQueue speed { s.queues speed with flag := true } with
            receiver := .receiving }
      | _ => none
  | .close =>
      if s.receiver = .receiving then
        some { s with
          receiver := .closing closeActions
          queues := fun k => { s.queues k with history := .closed :: (s.queues k).history } }
      else none
  | .closeAction =>
      match s.receiver with
      | .closing (a :: todo) =>
          (s.closeAction a).map fun s' => { s' with receiver := .closing todo }
      | _ => none
  | .processor speed => (s.queues speed).processorStep.map fun q => s.setQueue speed q

end ConnectionQueues

end V2XHub.Tmx
