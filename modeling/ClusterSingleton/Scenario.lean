import ClusterSingleton.Phase
import ClusterSingleton.Text.Quoted

/-!
# Scenarios

A scenario is a list of steps that disturb a simulated cluster or assert something of it. Four
scenarios are built in.
-/

namespace ClusterSingleton

/-- The node that a crash hits. -/
inductive NodeTarget : Type where
  | named (node : String)
  /-- The oldest node at the time of the crash. -/
  | oldest
  /-- A node drawn at random. -/
  | random
deriving DecidableEq, Repr

/-- What can be asserted of a cluster. -/
inductive Condition : Type where
  /-- The node hosts the unit, and no other does. -/
  | singletonOn (node : String)
  /-- One node hosts the unit. -/
  | singletonHosted
  /-- There never was more than one unit alive. -/
  | atMostOneUnit
  /-- That many hand-overs were completed. -/
  | handOversAtLeast (count : UInt64)
  | stateIs (node : String) (state : State)
deriving DecidableEq, Repr

/-- A condition as messages show it. -/
def Condition.label : Condition → String
  | singletonOn node => "SingletonOn \x7b node: " ++ Text.quoted node ++ " \x7d"
  | singletonHosted => "SingletonHosted"
  | atMostOneUnit => "AtMostOneUnit"
  | handOversAtLeast count => "HandOversAtLeast \x7b count: " ++ toString count.toNat ++ " \x7d"
  | stateIs node state =>
      "StateIs \x7b node: " ++ Text.quoted node ++ ", state: " ++ state.label ++ " \x7d"

inductive ScenarioStep : Type where
  /-- Starts a node, under a new address if it was there before. -/
  | join (node : String)
  /-- The node leaves in an orderly way. -/
  | leave (node : String)
  /-- The node stops without a word. -/
  | crash (target : NodeTarget)
  | wait (millis : UInt64)
  /-- Waits until the condition holds. -/
  | assert (condition : Condition)
deriving DecidableEq, Repr

structure Scenario : Type where
  name : String
  description : String
  /-- How many nodes must be running at the start. -/
  minNodes : UInt64
  steps : List ScenarioStep
deriving DecidableEq, Repr

namespace Scenario

/-! ## Built-in scenarios -/

/-- The oldest node hosts the unit and keeps it. -/
def singleNode : Scenario where
  name := "single-node"
  description := "Oldest node starts the singleton"
  minNodes := 1
  steps :=
    [ .assert (.singletonOn "node-1"),
      .wait 1000,
      .assert (.stateIs "node-1" .oldest),
      .assert .atMostOneUnit ]

/-- The oldest node leaves, and the next one takes over. -/
def gracefulHandOver : Scenario where
  name := "graceful-handover"
  description := "Oldest leaves and hands the singleton over"
  minNodes := 2
  steps :=
    [ .assert (.singletonOn "node-1"),
      .leave "node-1",
      .assert (.singletonOn "node-2"),
      .assert (.handOversAtLeast 1),
      .assert .atMostOneUnit ]

/-- The oldest node crashes, and the next one starts the unit after the removal margin. -/
def crashFailover : Scenario where
  name := "crash-failover"
  description := "Oldest crashes and the next oldest takes over"
  minNodes := 2
  steps :=
    [ .assert (.singletonOn "node-1"),
      .crash .oldest,
      .assert (.singletonOn "node-2"),
      .assert .atMostOneUnit ]

/-- A node leaves, another takes over, and the first comes back. -/
def restart (node successor : String) : List ScenarioStep :=
  [.leave node, .assert (.singletonOn successor), .join node]

/-- All nodes are restarted, the oldest first. -/
def rollingRestart : Scenario where
  name := "rolling-restart"
  description := "Restart all three nodes one after another"
  minNodes := 3
  steps :=
    restart "node-1" "node-2" ++ restart "node-2" "node-3" ++ restart "node-3" "node-1"
      ++ [.assert (.handOversAtLeast 3), .assert .atMostOneUnit]

def builtIn : List Scenario := [singleNode, gracefulHandOver, crashFailover, rollingRestart]

end Scenario

end ClusterSingleton
