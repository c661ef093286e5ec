import ClusterSingleton.Address
import ClusterSingleton.Uuid

/-!
# States of a coordinator

`State` names where a coordinator stands, `Phase` adds what it has to remember there.
-/

namespace ClusterSingleton

inductive State : Type where
  /-- Nothing is known of the cluster yet. -/
  | start
  /-- Another node is responsible for the unit. -/
  | younger
  /-- The previous oldest has yet to hand the unit over. -/
  | becomingOldest
  /-- The node hosts the unit. -/
  | oldest
  /-- The node still hosts the unit, but a new oldest was announced. -/
  | wasOldest
  /-- The unit was told to end, and the new oldest will hear of its end. -/
  | handingOver
  /-- The unit was told to end, and nobody will take it over. -/
  | stopping
  /-- The node has left and waits to be removed. -/
  | ended
deriving DecidableEq, Repr

namespace State

def all : List State :=
  [start, younger, becomingOldest, oldest, wasOldest, handingOver, stopping, ended]

/-- Whether a unit may be alive in the state. -/
def hostsUnit : State → Bool
  | oldest => true
  | wasOldest => true
  | handingOver => true
  | stopping => true
  | _ => false

/-- The number that the state gauge shows. -/
def code : State → Nat
  | start => 0
  | younger => 1
  | becomingOldest => 2
  | oldest => 3
  | wasOldest => 4
  | handingOver => 5
  | stopping => 6
  | ended => 7

def tag : State → String
  | start => "START"
  | younger => "YOUNGER"
  | becomingOldest => "BECOMING_OLDEST"
  | oldest => "OLDEST"
  | wasOldest => "WAS_OLDEST"
  | handingOver => "HANDING_OVER"
  | stopping => "STOPPING"
  | ended => "END"

/-- The name in texts for people. -/
def label : State → String
  | start => "Start"
  | younger => "Younger"
  | becomingOldest => "BecomingOldest"
  | oldest => "Oldest"
  | wasOldest => "WasOldest"
  | handingOver => "HandingOver"
  | stopping => "Stopping"
  | ended => "End"

def ofTag? (s : String) : Option State := all.find? (fun x => x.tag == s)

end State

inductive Phase : Type where
  | start
  | younger (oldest : Option Address)
  | becomingOldest (previous : Option Address)
  | oldest (unit : UnitId) (unitEnded : Bool)
  | wasOldest (unit : UnitId) (unitEnded : Bool) (newOldest : Option Address)
  | handingOver (unit : UnitId) (target : Option Address)
  | stopping (unit : UnitId)
  | ended
deriving DecidableEq, Repr

namespace Phase

def state : Phase → State
  | start => .start
  | younger _ => .younger
  | becomingOldest _ => .becomingOldest
  | oldest _ _ => .oldest
  | wasOldest _ _ _ => .wasOldest
  | handingOver _ _ => .handingOver
  | stopping _ => .stopping
  | ended => .ended

/-- The unit that the phase knows, alive or not. -/
def unit? : Phase → Option UnitId
  | oldest unit _ => some unit
  | wasOldest unit _ _ => some unit
  | handingOver unit _ => some unit
  | stopping unit => some unit
  | _ => none

/-- The unit while it is hosted here and alive. -/
def activeUnit? : Phase → Option UnitId
  | oldest unit false => some unit
  | wasOldest unit false _ => some unit
  | _ => none

/-- The unit whose end was not seen yet, hosted or told to end. -/
def runningUnit? : Phase → Option UnitId
  | handingOver unit _ => some unit
  | stopping unit => some unit
  | phase => phase.activeUnit?

end Phase

end ClusterSingleton
