import ClusterSingleton.Network

/-!
# Simulated clusters

Nodes with names, on a `Network` of their own. A node is started, leaves in an orderly way, or crashes;
each of them is a whole procedure that may take time. A name can be used again once its node is gone,
and every start has an address of its own.
-/

namespace ClusterSingleton

/-- What all nodes of a simulated cluster share. -/
structure ClusterSettings : Type where
  retryInterval : Nat
  minHandOverRetries : UInt32
  /-- The time between a crash and the removal of the member. -/
  failureMargin : Nat
  terminationSignal : TerminationSignal
  /-- How long each part of an orderly leave may take. -/
  leaveTimeout : Nat
  /-- How often a stuck coordinator is created anew. -/
  maxRestarts : Nat
deriving DecidableEq, Repr

namespace ClusterSettings

def default : ClusterSettings where
  retryInterval := Duration.ofMillis 200
  minHandOverRetries := 10
  failureMargin := Duration.ofSeconds 1
  terminationSignal := .graceful "hand-over"
  leaveTimeout := Duration.ofSeconds 10
  maxRestarts := 3

/-- The settings of a node at an address. -/
def forNode (s : ClusterSettings) (a : Address) : Settings :=
  let base := Settings.forNode a
  { node := { base.node with downRemovalMargin := s.failureMargin }
    singleton :=
      { base.singleton with
        unitName := "sim-singleton"
        retryInterval := s.retryInterval
        minHandOverRetries := s.minHandOverRetries
        terminationSignal := s.terminationSignal } }

end ClusterSettings

inductive ClusterError : Type where
  | alreadyRunning (name : String)
  | unknownNode (name : String)
  /-- The membership or the coordinator refused. -/
  | refused (e : Error)
deriving DecidableEq, Repr

def ClusterError.message : ClusterError → String
  | alreadyRunning name => "Node " ++ name ++ " is already running"
  | unknownNode name => "Unknown node: " ++ name
  | refused e => e.message

/-- A node that runs. -/
structure RunningNode : Type where
  name : String
  address : Address
  /-- Its place in the network. -/
  index : Nat
deriving DecidableEq, Repr

structure Cluster : Type where
  settings : ClusterSettings
  network : Network
  /-- The nodes that run, in the order of their starts. -/
  running : List RunningNode
  /-- The places of the nodes that have left or crashed. -/
  departed : List Nat
  nextPort : UInt16

namespace Cluster

def create (settings : ClusterSettings) : Cluster := ⟨settings, .empty, [], [], 2552⟩

def find? (c : Cluster) (name : String) : Option RunningNode :=
  c.running.find? (fun n => n.name == name)

/-- The names of the nodes that run, in order. -/
def names (c : Cluster) : List String :=
  (c.running.map RunningNode.name).mergeSort (fun a b => decide (a ≤ b))

def size (c : Cluster) : Nat := c.running.length

def isEmpty (c : Cluster) : Bool := c.running.isEmpty

/-- What the node at a place shows of itself. -/
def statusAt (c : Cluster) (index : Nat) : Status :=
  (c.network.nodes[index]?.map (fun n => n.coordinator.status)).getD .initial

def stateOf (c : Cluster) (name : String) : Option State :=
  (c.find? name).map (fun n => (c.statusAt n.index).state)

/-- The names of the nodes that show a unit. -/
def hosts (c : Cluster) : List String :=
  c.names.filter (fun name => (c.find? name).any (fun n => (c.statusAt n.index).isActive))

/-- The oldest node that runs, as the membership has it. -/
def oldest (c : Cluster) : Option String :=
  let up := Member.sortByAge (c.network.roster.members.filter (fun m => m.status = .up))
  up.findSome? (fun m => (c.running.find? (fun n => n.address = m.address)).map RunningNode.name)

def tracker (c : Cluster) : UnitTracker := c.network.tracker

/-- The metrics of all coordinators, past and present. -/
def metrics (c : Cluster) : List Metrics :=
  (c.running.map RunningNode.index ++ c.departed).filterMap (fun i =>
    c.network.nodes[i]?.map (fun n => n.coordinator.metrics))

/-- How many hand-overs were completed. -/
def handOvers (c : Cluster) : Nat := Metrics.total Metrics.handOversCompleted c.metrics

/-! ## Time -/

def sleepUntil (c : Cluster) (target : Nat) : Cluster :=
  { c with network := c.network.sleepUntil target }

/-- Sleeps for a time, whole milliseconds of it. -/
def sleep (c : Cluster) (d : Nat) : Cluster :=
  c.sleepUntil (Duration.ceilMilli (c.network.now + d))

/-- The time between two looks at a condition. -/
def pollInterval : Nat := Duration.ofMillis 10

/-- Looks at a condition so many times more; without success it sleeps until the deadline. -/
def poll (c : Cluster) (holds : Cluster → Bool) (deadline : Nat) : Nat → Cluster × Bool
  | 0 => if holds c then (c, true) else (c.sleepUntil deadline, false)
  | looks + 1 =>
      if holds c then (c, true)
      else (c.sleepUntil (c.network.now + pollInterval)).poll holds deadline looks

/-- Waits until a condition holds, but no longer than a leave may take; says whether it does. -/
def waitFor (c : Cluster) (holds : Cluster → Bool) : Cluster × Bool :=
  let timeout := Duration.ceilMilli c.settings.leaveTimeout
  c.poll holds (c.network.now + timeout) (timeout / pollInterval)

/-! ## Nodes -/

/-- The settings of the node that would start now. -/
def nextSettings (c : Cluster) (name : String) : Settings :=
  c.settings.forNode (.ofParts "sim" name c.nextPort)

/-- Starts a node and lets it join. The port is used up even if the coordinator refuses. -/
def start (c : Cluster) (name : String) : Cluster × Except ClusterError Address :=
  if (c.find? name).isSome then (c, .error (.alreadyRunning name))
  else
    let settings := c.nextSettings name
    let used := { c with nextPort := c.nextPort + 1 }
    match Coordinator.create settings (.ofSettings settings []) c.settings.maxRestarts with
    | .error e => (used, .error (.refused e))
    | .ok coordinator =>
        let a := coordinator.address
        let w := c.network.startNode coordinator
        ({ used with
            network := { w with roster := w.roster.join a .empty }
            running := c.running ++ [⟨name, a, c.network.nodes.length⟩] },
          .ok a)

/-- Takes a node out of those that run. -/
def take (c : Cluster) (n : RunningNode) : Cluster :=
  { c with running := c.running.filter (fun m => m.name ≠ n.name) }

/-- Whether a node has given away its unit, or never had one. -/
def isRelieved (n : RunningNode) (c : Cluster) : Bool :=
  let status := c.statusAt n.index
  status.stopped || !status.state.hostsUnit

/-- Waits for the coordinator of a node to finish, and stops it if it does not. -/
def awaitEnd (c : Cluster) (n : RunningNode) : Cluster :=
  let finished (w : Network) : Bool :=
    w.nodes[n.index]?.any (fun n => n.coordinator.progress.isFinished)
  let deadline := Duration.ceilMilli (c.network.now + c.settings.leaveTimeout)
  let w := c.network.runUntil finished deadline
  { c with network := if finished w then w.disconnect n.index else w.kill n.index }

/-- The node has left or crashed. -/
def depart (c : Cluster) (n : RunningNode) : Cluster :=
  { c with departed := c.departed ++ [n.index] }

/-- What is done to a cluster step by step. After a failure it is as the steps before left it. -/
abbrev Procedure : Type → Type := EStateM Error Cluster

def setRoster (c : Cluster) (m : Roster) : Cluster :=
  { c with network := { c.network with roster := m } }

/-- Changes the membership. -/
def changeRoster (f : Roster → Except Error Roster) : Procedure Unit := do
  match f (← get).network.roster with
  | .ok m => modify (·.setRoster m)
  | .error reason => throw reason

/-- Lets a node leave that does not count as running any more. It hands over first; a node without
others has nobody to hand over to. -/
def retire (n : RunningNode) : Procedure Unit := do
  changeRoster (·.leave n.address)
  modify fun c => if c.isEmpty then c else (c.waitFor (isRelieved n)).1
  changeRoster (·.remove n.address)
  modify fun c => (c.awaitEnd n).depart n

/-- Stops a node without a hand-over; its member is removed after the failure margin. -/
def fail (n : RunningNode) : Procedure Unit := do
  modify fun c => { c with network := c.network.kill n.index }
  changeRoster (·.down n.address)
  modify fun c => c.sleep c.settings.failureMargin
  changeRoster (·.remove n.address)
  modify fun c => c.depart n

/-- Takes a node out and goes on with it as `f` says. A node that was taken out stays out, whatever
comes of it. -/
def withoutNode (c : Cluster) (name : String) (f : RunningNode → Procedure Unit) :
    Cluster × Except ClusterError Unit :=
  match c.find? name with
  | none => (c, .error (.unknownNode name))
  | some n =>
      match (f n).run (c.take n) with
      | .ok _ c => (c, .ok ())
      | .error e c => (c, .error (.refused e))

/-- A node leaves in an orderly way. -/
def leave (c : Cluster) (name : String) : Cluster × Except ClusterError Unit :=
  c.withoutNode name retire

/-- A node crashes. -/
def crash (c : Cluster) (name : String) : Cluster × Except ClusterError Unit :=
  c.withoutNode name fail

/-- Stops all nodes. -/
def shutdown (c : Cluster) : Cluster :=
  let closed := { c.network with roster := c.network.roster.shutdown }
  { c with
    network := (c.running.foldl (fun w n => w.kill n.index) closed).settle
    running := []
    departed := c.departed ++ c.running.map RunningNode.index }

end Cluster

end ClusterSingleton
