import ClusterSingleton.Time
import ClusterSingleton.Uuid

/-!
# Managed units

One incarnation of the unit that the cluster keeps unique. What it does is given by a `Behaviour`;
what it has done can be read from its log. A unit runs until it has to wait: for time to pass, for a
message or for the request to end.
-/

namespace ClusterSingleton

/-- What a unit does once it runs. One that reads its messages ends at one of the `last` ones; messages
are the texts of JSON values. -/
inductive Behaviour : Type where
  /-- It ends at once. -/
  | returns
  /-- It ends at once with an error. -/
  | fails
  /-- It breaks down at once. -/
  | panics
  /-- It works for some milliseconds and ends. -/
  | timed (ms : Nat)
  /-- It ends when it is asked to, and reads no messages. -/
  | waits
  /-- It works for some milliseconds and then reads its messages. -/
  | busy (ms : Nat) (last : List String)
  /-- It reads its messages, and ends when it is asked to. -/
  | reads (last : List String)
  /-- It reads its messages and goes on when it is asked to end. -/
  | ignores (last : List String)
  /-- It reads its messages, and needs some milliseconds to end when it is asked to. -/
  | drains (ms : Nat) (last : List String)
deriving DecidableEq, Repr

/-- The messages that make a unit end. -/
def Behaviour.last : Behaviour → List String
  | busy _ last => last
  | reads last => last
  | ignores last => last
  | drains _ last => last
  | _ => []

/-- What a unit leaves in its log. -/
inductive LogLine : Type where
  | started (name : String)
  | elapsed
  | awake
  | drained
  /-- The request to end, seen by a unit that waited for nothing else. -/
  | terminated (signal : String)
  /-- The request to end, seen between messages. -/
  | terminate (signal : String)
  | message (text : String)
  /-- The unit has ended, in whatever way. -/
  | dropped
deriving DecidableEq, Repr

inductive Stage : Type where
  /-- It was started and has not run yet. -/
  | created
  | sleeping (due : Nat)
  /-- It waits for messages or for the request to end. -/
  | awaiting
  | ended
deriving DecidableEq, Repr

structure ManagedUnit : Type where
  id : UnitId
  behaviour : Behaviour
  stage : Stage
  /-- The messages that it has not read. -/
  mailbox : List String
  /-- The request to end that it has not seen. -/
  signal : Option String
  /-- It is to be stopped before it does anything more. -/
  aborted : Bool
deriving DecidableEq, Repr

namespace ManagedUnit

def create (id : UnitId) (behaviour : Behaviour) : ManagedUnit :=
  ⟨id, behaviour, .created, [], none, false⟩

/-- How many messages wait to be read at most. -/
def mailboxCapacity : Nat := 256

def isEnded (u : ManagedUnit) : Bool := u.stage == .ended

/-- Whether the unit begins if it is run. -/
def begins (u : ManagedUnit) : Bool := u.stage == .created && !u.aborted

/-- Whether the unit has begun and not ended. -/
def isAlive (u : ManagedUnit) : Bool := u.stage != .created && !u.isEnded

def readsMessages (u : ManagedUnit) : Bool :=
  match u.behaviour with
  | .busy _ _ => true
  | .reads _ => true
  | .ignores _ => true
  | .drains _ _ => true
  | _ => false

/-- Whether the unit has something to do. -/
def isReady (u : ManagedUnit) (now : Nat) : Bool :=
  match u.stage with
  | .ended => false
  | .created => true
  | .sleeping due => u.aborted || decide (due ≤ now)
  | .awaiting => u.aborted || u.signal.isSome || (u.readsMessages && !u.mailbox.isEmpty)

/-- When the unit wakes up, if it sleeps. -/
def nextDue? (u : ManagedUnit) : Option Nat :=
  match u.stage with
  | .sleeping due => some due
  | _ => none

/-- Ends; what follows `lines` in the log is the end. -/
def finish (u : ManagedUnit) (lines : List LogLine) : ManagedUnit × List LogLine :=
  ({ u with stage := .ended, mailbox := [], signal := none }, lines ++ [.dropped])

def sleep (u : ManagedUnit) (now ms : Nat) : ManagedUnit :=
  { u with stage := .sleeping (Duration.ceilMilli (now + Duration.ofMillis ms)) }

/-- The messages up to one of the last ones, and those after it. -/
def splitLast (last : List String) : List String → List String × Option (List String)
  | [] => ([], none)
  | m :: ms =>
      if last.contains m then ([m], some ms)
      else
        let r := splitLast last ms
        (m :: r.1, r.2)

/-- Reads messages until there are none or one makes the unit end. -/
def read (u : ManagedUnit) : ManagedUnit × List LogLine :=
  let r := splitLast u.behaviour.last u.mailbox
  let lines := r.1.map LogLine.message
  match r.2 with
  | some _ => u.finish lines
  | none => ({ u with stage := .awaiting, mailbox := [] }, lines)

/-- Sees to the request to end, which goes before all messages, and then to the messages. -/
def listen (u : ManagedUnit) (now : Nat) : ManagedUnit × List LogLine :=
  match u.signal with
  | none => u.read
  | some s =>
      match u.behaviour with
      | .ignores _ =>
          let r := { u with signal := none }.read
          (r.1, .terminate s :: r.2)
      | .drains ms _ => ({ u with signal := none }.sleep now ms, [.terminate s])
      | _ => u.finish [.terminate s]

/-- Waits for the request to end and for nothing else. -/
def attend (u : ManagedUnit) : ManagedUnit × List LogLine :=
  match u.signal with
  | none => ({ u with stage := .awaiting }, [])
  | some s => u.finish [.terminated s]

/-- What a unit does first. -/
def begin (u : ManagedUnit) (now : Nat) : ManagedUnit × List LogLine :=
  match u.behaviour with
  | .returns => u.finish []
  | .fails => u.finish []
  | .panics => u.finish []
  | .timed ms => (u.sleep now ms, [])
  | .busy ms _ => (u.sleep now ms, [])
  | .waits => u.attend
  | _ => u.listen now

/-- What a unit does when it wakes up. -/
def wake (u : ManagedUnit) (now : Nat) : ManagedUnit × List LogLine :=
  match u.behaviour with
  | .busy _ _ =>
      let r := u.listen now
      (r.1, .awake :: r.2)
  | .drains _ _ => u.finish [.drained]
  | _ => u.finish [.elapsed]

/-- Runs a unit of a supervisor of the given name until it has to wait; returns what it logs. -/
def run (u : ManagedUnit) (name : String) (now : Nat) : ManagedUnit × List LogLine :=
  if u.isEnded then (u, [])
  else if u.aborted then u.finish []
  else
    match u.stage with
    | .created =>
        let r := u.begin now
        (r.1, .started name :: r.2)
    | .sleeping due => if due ≤ now then u.wake now else (u, [])
    | .awaiting => if u.behaviour = .waits then u.attend else u.listen now
    | .ended => (u, [])

end ManagedUnit

end ClusterSingleton
