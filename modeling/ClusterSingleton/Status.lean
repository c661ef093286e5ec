import ClusterSingleton.Phase

/-!
# Status of a coordinator

What a coordinator shows of itself: its state, the unit it hosts, the reason why it is stuck, if it
is, and whether it has stopped.
-/

namespace ClusterSingleton

/-- A unit as others know it. -/
structure UnitRef : Type where
  unit : UnitId
  name : String
deriving DecidableEq, Repr

structure Status : Type where
  state : State
  unit : Option UnitRef
  stuck : Option String
  stopped : Bool
deriving DecidableEq, Repr

namespace Status

def initial : Status := ⟨.start, none, none, false⟩

/-- Whether a unit is hosted here. -/
def isActive (s : Status) : Bool := s.unit.isSome

end Status

end ClusterSingleton
