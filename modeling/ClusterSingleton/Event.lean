import ClusterSingleton.Message
import ClusterSingleton.Uuid
import ClusterSingleton.Address

/-!
# Events and effects

A coordinator reacts to an `Event` and asks for `Effect`s. Nothing is performed here: an effect is a
request to whoever runs the coordinator.
-/

namespace ClusterSingleton

inductive Event : Type where
  /-- The node itself came up. -/
  | startNotifier
  /-- The first word of the notifier: the oldest member, and whether nobody is about to leave. -/
  | initialOldest (oldest : Option Address) (safe : Bool)
  | oldestChanged (oldest : Option Address)
  | peer (sender : Address) (message : Message)
  | handOverRetry (count : UInt32)
  | takeOverRetry (count : UInt32)
  | memberExited (address : Address)
  | memberRemoved (address : Address)
  /-- The removal margin of a removed member has passed. -/
  | delayedMemberRemoved (address : Address)
  | unitTerminated (unit : UnitId)
  | currentClusterState
  | clusterShutdown
  | cleanup
deriving DecidableEq, Repr

def Event.name : Event → String
  | startNotifier => "StartNotifier"
  | initialOldest _ _ => "InitialOldest"
  | oldestChanged _ => "OldestChanged"
  | peer _ message => message.label
  | handOverRetry _ => "HandOverRetry"
  | takeOverRetry _ => "TakeOverRetry"
  | memberExited _ => "MemberExited"
  | memberRemoved _ => "MemberRemoved"
  | delayedMemberRemoved _ => "DelayedMemberRemoved"
  | unitTerminated _ => "UnitTerminated"
  | currentClusterState => "CurrentClusterState"
  | clusterShutdown => "ClusterShutdown"
  | cleanup => "Cleanup"

/-- The timers that can be cancelled; starting one replaces its predecessor. -/
inductive TimerKey : Type where
  | handOverRetry
  | takeOverRetry
  | cleanup
deriving DecidableEq, Repr

namespace TimerKey

def all : List TimerKey := [handOverRetry, takeOverRetry, cleanup]

def name : TimerKey → String
  | handOverRetry => "HandOverRetry"
  | takeOverRetry => "TakeOverRetry"
  | cleanup => "Cleanup"

def ofName? (s : String) : Option TimerKey := all.find? (fun k => k.name == s)

end TimerKey

inductive Effect : Type where
  | startNotifier
  /-- One more change of the oldest member is welcome. -/
  | requestNextOldest
  | send (target : Address) (message : Message)
  | startUnit (unit : UnitId)
  | terminateUnit (unit : UnitId)
  | startTimer (key : TimerKey) (event : Event) (after : Nat)
  | cancelTimer (key : TimerKey)
  /-- A timer that nothing can cancel. -/
  | scheduleOnce (event : Event) (after : Nat)
deriving DecidableEq, Repr

/-- The message that an effect sends, with its addressee. -/
def Effect.sent? : Effect → Option (Address × Message)
  | send target message => some (target, message)
  | _ => none

end ClusterSingleton
