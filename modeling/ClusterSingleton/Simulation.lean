import ClusterSingleton.Cluster
import ClusterSingleton.Scenario
import ClusterSingleton.SimulationMetrics

/-!
# Simulations

Runs scenarios, or random churn, on a simulated cluster, and counts what happens. An assertion waits
until it holds; a step that fails ends its scenario, and the simulation goes on from there.
-/

namespace ClusterSingleton

inductive SimulationError : Type where
  | cluster (e : ClusterError)
  | tooFewNodes (scenario : String) (needed : UInt64) (running : Nat)
  | noOldest
  | noNode
  /-- The condition did not come to hold; `hosts` showed a unit at the end. -/
  | assertionFailed (condition : Condition) (hosts : List String)
deriving DecidableEq, Repr

def SimulationError.message : SimulationError → String
  | cluster e => e.message
  | tooFewNodes scenario needed running =>
      "Scenario " ++ scenario ++ " needs " ++ toString needed.toNat ++ " nodes, "
        ++ toString running ++ " running"
  | noOldest => "No oldest node to target"
  | noNode => "No node to target"
  | assertionFailed condition hosts =>
      "Assertion failed: " ++ condition.label ++ " (hosts " ++ Text.quotedList hosts ++ ")"

structure Simulation : Type where
  /-- Waits are divided by it. -/
  speed : Float
  cluster : Cluster
  metrics : SimulationMetrics
  /-- The nodes that have left or crashed and not come back. -/
  departed : List String
  /-- The random numbers to come; zeros follow them. -/
  dice : List Nat

namespace Simulation

def create (settings : ClusterSettings) (speed : Float) (dice : List Nat) : Simulation :=
  ⟨speed, .create settings, .zero, [], dice⟩

/-- A random number below `n`. -/
def throw (s : Simulation) (n : Nat) : Nat × Simulation :=
  (s.dice.headD 0 % n, { s with dice := s.dice.tail })

/-- Waits until the cluster is as it should be, but no longer than a leave may take. -/
def waitFor (s : Simulation) (holds : Cluster → Bool) : Simulation × Bool :=
  let r := s.cluster.waitFor holds
  ({ s with cluster := r.1 }, r.2)

/-! ## Conditions -/

/-- Whether a condition holds now. -/
def holds (c : Cluster) : Condition → Bool
  | .singletonOn node => c.hosts == [node]
  | .singletonHosted => c.hosts.length == 1
  | .atMostOneUnit => decide (c.tracker.maxActive ≤ 1 ∧ c.tracker.active ≤ 1)
  | .handOversAtLeast count => decide (count.toNat ≤ c.handOvers)
  | .stateIs node state => c.stateOf node == some state

/-- Waits until a condition holds. That there was never more than one unit cannot come to hold, and
is not waited for. -/
def check (s : Simulation) (condition : Condition) : Simulation × Except SimulationError Unit :=
  let r :=
    if condition = .atMostOneUnit then (s, holds s.cluster condition)
    else s.waitFor (fun c => holds c condition)
  (r.1, if r.2 then .ok () else .error (.assertionFailed condition r.1.cluster.hosts))

/-! ## Steps -/

/-- Goes on from a step of the cluster; `count` counts it if it was done. -/
def record {α : Type} (s : Simulation) (r : Cluster × Except ClusterError α)
    (count : Simulation → Simulation) : Simulation × Except SimulationError Unit :=
  let moved := { s with cluster := r.1 }
  match r.2 with
  | .ok _ => (count moved, .ok ())
  | .error e => (moved, .error (.cluster e))

/-- Starts a node and waits until it knows its first state. -/
def join (s : Simulation) (node : String) : Simulation × Except SimulationError Unit :=
  s.record (s.cluster.start node) (fun s =>
    let joined :=
      { s with metrics := s.metrics.recordJoin, departed := s.departed.filter (· ≠ node) }
    (joined.waitFor (fun c => c.stateOf node != some .start)).1)

def leave (s : Simulation) (node : String) : Simulation × Except SimulationError Unit :=
  s.record (s.cluster.leave node) (fun s =>
    { s with metrics := s.metrics.recordLeave, departed := s.departed ++ [node] })

/-- The node that is meant by a target. -/
def resolve (s : Simulation) : NodeTarget → Simulation × Except SimulationError String
  | .named node => (s, .ok node)
  | .oldest =>
      (s, match s.cluster.oldest with | some node => .ok node | none => .error .noOldest)
  | .random =>
      let r := s.throw s.cluster.size
      match s.cluster.names[r.1]? with
      | some node => (r.2, .ok node)
      | none => (s, .error .noNode)

def crash (s : Simulation) (target : NodeTarget) : Simulation × Except SimulationError Unit :=
  match s.resolve target with
  | (s, .error e) => (s, .error e)
  | (s, .ok node) =>
      s.record (s.cluster.crash node) (fun s =>
        { s with metrics := s.metrics.recordCrash, departed := s.departed ++ [node] })

/-- Lets time pass: some milliseconds, divided by the speed and cut to whole ones. -/
def wait (s : Simulation) (millis : UInt64) : Simulation :=
  let d := Duration.ofMillis (millis.toFloat / s.speed).toUInt64.toNat
  { s with cluster := s.cluster.sleep d }

def step (s : Simulation) : ScenarioStep → Simulation × Except SimulationError Unit
  | .join node => s.join node
  | .leave node => s.leave node
  | .crash target => s.crash target
  | .wait millis => (s.wait millis, .ok ())
  | .assert condition => s.check condition

/-- Takes steps until one fails. -/
def runSteps (s : Simulation) : List ScenarioStep → Simulation × Except SimulationError Unit
  | [] => (s, .ok ())
  | x :: xs =>
      match s.step x with
      | (s, .ok _) => s.runSteps xs
      | (s, .error e) => (s, .error e)

/-! ## Runs -/

/-- Starts `count` nodes, from `node-1` on, and waits until the first one hosts the unit. -/
def populate (s : Simulation) (count : Nat) : Simulation × Except SimulationError Unit :=
  let joins := (List.range count).map (fun i => ScenarioStep.join ("node-" ++ toString (i + 1)))
  s.runSteps (joins ++ if count = 0 then [] else [.assert (.singletonOn "node-1")])

def runScenario (s : Simulation) (scenario : Scenario) :
    Simulation × Except SimulationError Unit :=
  if s.cluster.size < scenario.minNodes.toNat then
    (s, .error (.tooFewNodes scenario.name scenario.minNodes s.cluster.size))
  else s.runSteps scenario.steps

/-- What a round of churn does first: three times out of ten a crash, three times a leave, if a node
stays; else a node comes back. -/
def disturb (s : Simulation) : Simulation × Except SimulationError Unit :=
  let r := s.throw 10
  let s := r.2
  if 1 < s.cluster.size ∧ r.1 < 3 then s.crash .random
  else if 1 < s.cluster.size ∧ r.1 < 6 then
    let r := s.throw s.cluster.size
    match s.cluster.names[r.1]? with
    | some node => r.2.leave node
    | none => (s, .ok ())
  else
    let r := s.throw s.departed.length
    match s.departed[r.1]? with
    | some node => r.2.join node
    | none => (s, .ok ())

/-- A round of churn: it disturbs the cluster and sees that the unit is hosted. -/
def churn (s : Simulation) : Simulation × Except SimulationError Unit :=
  match s.disturb with
  | (s, .ok _) => if s.cluster.isEmpty then (s, .ok ()) else s.check .singletonHosted
  | (s, .error e) => (s, .error e)

def now (s : Simulation) : Nat := s.cluster.network.now

/-- Rounds of churn with waits between them, until the deadline. A round that has begun is gone
through; the wait after it is cut. -/
def runUntil (s : Simulation) (deadline : Nat) : Simulation × Except SimulationError Unit :=
  match s.churn with
  | (next, .error e) => (next, .error e)
  | (next, .ok _) =>
      let rested := next.wait 1000
      if s.now < rested.now ∧ rested.now < deadline then rested.runUntil deadline
      else ({ next with cluster := next.cluster.sleepUntil deadline }, .ok ())
termination_by deadline - s.now
decreasing_by
  rename_i h
  exact Nat.sub_lt_sub_left (Nat.lt_trans h.1 h.2) h.1

/-- Random churn for some time. -/
def run (s : Simulation) (d : Nat) : Simulation × Except SimulationError Unit :=
  s.runUntil (s.now + d)

/-- Takes the last figures and stops all nodes. -/
def finish (s : Simulation) : Simulation :=
  let counted := s.metrics.observeCoordinators s.cluster.metrics
  { s with
    metrics := counted.observeUnits s.cluster.tracker
    cluster := s.cluster.shutdown }

end Simulation

end ClusterSingleton
