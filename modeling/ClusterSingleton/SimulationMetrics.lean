import ClusterSingleton.Metrics
import ClusterSingleton.UnitTracker

/-!
# Metrics of a simulation

What happened to the nodes, counted as it happens, and what the coordinators and the units have to
say in the end.
-/

namespace ClusterSingleton

structure SimulationMetrics : Type where
  joins : Nat
  leaves : Nat
  crashes : Nat
  /-- The hand-overs that were completed, of all coordinators. -/
  handOvers : Nat
  /-- The retries of both kinds, of all coordinators. -/
  retries : Nat
  stuck : Nat
  unitStarts : Nat
  /-- The most units that were alive at once. -/
  maxConcurrentUnits : Nat
  /-- How long each time without a unit lasted. -/
  gaps : List Nat
deriving DecidableEq, Repr

namespace SimulationMetrics

def zero : SimulationMetrics := ⟨0, 0, 0, 0, 0, 0, 0, 0, []⟩

def recordJoin (m : SimulationMetrics) : SimulationMetrics := { m with joins := m.joins + 1 }

def recordLeave (m : SimulationMetrics) : SimulationMetrics := { m with leaves := m.leaves + 1 }

def recordCrash (m : SimulationMetrics) : SimulationMetrics := { m with crashes := m.crashes + 1 }

/-- Takes over what was counted of the units. -/
def observeUnits (m : SimulationMetrics) (t : UnitTracker) : SimulationMetrics :=
  { m with unitStarts := t.started, maxConcurrentUnits := t.maxActive, gaps := t.gaps }

/-- Takes over the sums of what the coordinators have counted. -/
def observeCoordinators (m : SimulationMetrics) (all : List Metrics) : SimulationMetrics :=
  { m with
    handOvers := Metrics.total Metrics.handOversCompleted all
    retries := Metrics.total (fun c => c.handOverRetries + c.takeOverRetries) all
    stuck := Metrics.total Metrics.stuckTotal all }

/-- How long each time without a unit lasted, in whole milliseconds. -/
def gapMillis (m : SimulationMetrics) : List Nat := m.gaps.map Duration.millis

def maxGapMillis (m : SimulationMetrics) : Nat := m.gapMillis.foldl max 0

def averageGapMillis (m : SimulationMetrics) : Nat :=
  m.gapMillis.foldl (· + ·) 0 / m.gaps.length

/-- All figures under their names. -/
def figures (m : SimulationMetrics) : List (String × Nat) :=
  [("joins", m.joins), ("leaves", m.leaves), ("crashes", m.crashes),
    ("hand_overs", m.handOvers), ("retries", m.retries), ("stuck", m.stuck),
    ("unit_starts", m.unitStarts), ("max_concurrent_units", m.maxConcurrentUnits),
    ("windows", m.gaps.length), ("max_ms", m.maxGapMillis), ("average_ms", m.averageGapMillis)]

/-- Whether there was more than one unit at a time. -/
def isViolated (m : SimulationMetrics) : Bool := decide (1 < m.maxConcurrentUnits)

end SimulationMetrics

end ClusterSingleton
