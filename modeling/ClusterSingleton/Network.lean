import ClusterSingleton.Coordinator
import ClusterSingleton.Notifier
import ClusterSingleton.PeerRegistry
import ClusterSingleton.UnitTracker

/-!
# Networks of coordinators

Several coordinators with their units, notifiers and timers around one membership, on a clock that
only moves when it is told to. Whatever has something to do waits in a run queue: what became ready
first runs first, and runs until it has nothing left to do.
-/

namespace ClusterSingleton

/-- Where the messages to an address go: to a coordinator, or to a mailbox that only collects
them. -/
inductive Mailbox : Type where
  | node (index : Nat)
  | box (index : Nat)
deriving DecidableEq, Repr

structure Node : Type where
  coordinator : Coordinator
  /-- What the coordinator has asked of its notifier. -/
  calls : List Request
  /-- Whether its notifiers follow the membership; others are silent. -/
  follows : Bool
  notifier : Option Notifier
  forwarder : Option Forwarder

/-- Something that has something to do at a node. -/
inductive Task : Type where
  | unit (node : Nat) (id : UnitId)
  /-- The end of a unit is to be reported. -/
  | report (node : Nat) (id : UnitId)
  | forwarder (node : Nat)
  | notifier (node : Nat)
  | coordinator (node : Nat)
  | timers (node : Nat)
deriving DecidableEq, Repr

structure Network : Type where
  now : Nat
  roster : Roster
  registry : PeerRegistry Mailbox
  boxes : List Inbox
  nodes : List Node
  /-- The tasks that are ready, the next one first. -/
  queue : List Task
  /-- The units of all nodes. -/
  tracker : UnitTracker

namespace Node

def create (coordinator : Coordinator) (follows : Bool) : Node :=
  ⟨coordinator, [], follows, none, none⟩

def inbox (n : Node) : Inbox := n.coordinator.inbox

/-- The tasks of a node that are ready, by kind. -/
def unitTasks (n : Node) (i now : Nat) : List Task :=
  (n.coordinator.supervisor.ready now).map (.unit i)

def reportTasks (n : Node) (i : Nat) : List Task :=
  n.coordinator.supervisor.ended.map (.report i)

def forwarderTasks (n : Node) (i : Nat) (m : Roster) : List Task :=
  match n.forwarder with
  | some f => if f.isReady m n.inbox then [.forwarder i] else []
  | none => []

def notifierTasks (n : Node) (i : Nat) (m : Roster) : List Task :=
  match n.notifier with
  | some x => if x.isReady m n.inbox then [.notifier i] else []
  | none => []

def coordinatorTasks (n : Node) (i : Nat) : List Task :=
  if n.coordinator.isReady then [.coordinator i] else []

def timerTasks (n : Node) (i now : Nat) : List Task :=
  if (n.coordinator.desk.timers.due? now).isSome then [.timers i] else []

/-- Does what a coordinator asks of its notifier. -/
def heed (n : Node) (m : Roster) (r : Request) : Node :=
  let s := n.coordinator.settings
  match r with
  | .startNotifier =>
      { n with
        calls := n.calls ++ [r]
        notifier := if n.follows then some (.start s.node.address s.singleton.role m) else none }
  | .requestNext => { n with calls := n.calls ++ [r], notifier := n.notifier.map Notifier.request }
  | .dropNotifier =>
      { n with
        calls := n.calls ++ [r]
        notifier := none
        coordinator := n.coordinator.mapInbox (fun b => b.withdraw (· == .notifier)) }
  | .deliver _ _ => n

/-- Stops everything that runs at the node. -/
def kill (n : Node) : Node :=
  let c := n.coordinator.abort
  { n with
    coordinator := { c with supervisor := c.supervisor.abortAll }
    notifier := none
    forwarder := none }

end Node

namespace Network

def empty : Network := ⟨0, .empty, .empty, [], [], [], .empty⟩

def modifyNode (w : Network) (i : Nat) (f : Node → Node) : Network :=
  { w with nodes := w.nodes.modify i f }

def modifyBox (w : Network) (i : Nat) (f : Inbox → Inbox) : Network :=
  { w with boxes := w.boxes.modify i f }

/-- The inbox behind a mailbox. -/
def inbox? (w : Network) : Mailbox → Option Inbox
  | .node i => w.nodes[i]?.map Node.inbox
  | .box i => w.boxes[i]?

/-- What would become of a message to an address now; `none` if there is nobody. -/
def delivery? (w : Network) (a : Address) : Option Delivery :=
  ((w.registry.resolve? a).bind w.inbox?).map Inbox.delivery

/-- Whether there is a place in a mailbox. -/
def takes (w : Network) (mailbox : Mailbox) : Bool :=
  (w.inbox? mailbox).any (fun b => b.delivery == .delivered)

/-- Leaves an item in a mailbox, if there is a place. -/
def drop (w : Network) (mailbox : Mailbox) (item : Item) : Network :=
  match mailbox with
  | .node i =>
      w.modifyNode i (fun n => { n with coordinator := n.coordinator.mapInbox (·.offer item) })
  | .box i => w.modifyBox i (·.offer item)

/-- Delivers a message to whoever is found at the address. -/
def deliver (w : Network) (sender target : Address) (message : Message) : Network :=
  match w.registry.resolve? target with
  | some mailbox => w.drop mailbox (.peer sender message)
  | none => w

/-! ## Running -/

/-- All tasks that have something to do. -/
def ready (w : Network) : List Task :=
  let each (f : Node → Nat → List Task) : List Task :=
    w.nodes.zipIdx.flatMap (fun p => f p.1 p.2)
  each (fun n i => n.unitTasks i w.now) ++ each Node.reportTasks
    ++ each (fun n i => n.forwarderTasks i w.roster)
    ++ each (fun n i => n.notifierTasks i w.roster)
    ++ each Node.coordinatorTasks ++ each (fun n i => n.timerTasks i w.now)

/-- The run queue with those that have become ready at its end. -/
def refresh (w : Network) : List Task :=
  let ready := w.ready
  w.queue.filter ready.contains ++ ready.filter (fun t => !w.queue.contains t)

/-- Does what the coordinator of a node asks for. -/
def heed (w : Network) (i : Nat) (self : Address) (r : Request) : Network :=
  match r with
  | .deliver target message => w.deliver self target message
  | _ => w.modifyNode i (fun n => n.heed w.roster r)

def surroundings (w : Network) : Surroundings :=
  ⟨w.now, fun a => w.delivery? a == some .delivered⟩

/-- Lets a coordinator handle one item. What it sends to itself is judged by the inbox without
that item. -/
def runCoordinator (w : Network) (i : Nat) : Network :=
  match w.nodes[i]? with
  | none => w
  | some n =>
      let taken :=
        match n.inbox.receive? with
        | some (_, rest) =>
            w.modifyNode i (fun n =>
              { n with coordinator := n.coordinator.mapInbox (fun _ => rest) })
        | none => w
      let r := n.coordinator.step taken.surroundings
      r.2.foldl (fun w request => w.heed i n.coordinator.address request)
        (w.modifyNode i (fun n => { n with coordinator := r.1 }))

/-- Lets a unit run, and notes what has become of it. -/
def runUnit (w : Network) (i : Nat) (id : UnitId) : Network :=
  match w.nodes[i]? with
  | none => w
  | some n =>
      let ran := n.coordinator.runUnit w.now id
      let tracker :=
        match n.coordinator.supervisor.find? id, ran.supervisor.find? id with
        | some before, some after => w.tracker.follow w.now before after
        | _, _ => w.tracker
      { w.modifyNode i (fun n => { n with coordinator := ran }) with tracker := tracker }

/-- Runs a task once. -/
def runTask (w : Network) : Task → Network
  | .unit i id => w.runUnit i id
  | .report i id => w.modifyNode i (fun n => { n with coordinator := n.coordinator.reapUnit id })
  | .forwarder i =>
      w.modifyNode i (fun n =>
        match n.forwarder with
        | none => n
        | some f =>
            let r := f.step w.roster n.inbox
            { n with
              forwarder := some r.1
              coordinator := n.coordinator.mapInbox (fun _ => r.2) })
  | .notifier i =>
      w.modifyNode i (fun n =>
        match n.notifier with
        | none => n
        | some x =>
            let r := x.step w.roster n.inbox
            { n with
              notifier := some r.1
              coordinator := n.coordinator.mapInbox (fun _ => r.2) })
  | .coordinator i => w.runCoordinator i
  | .timers i => w.modifyNode i (fun n => { n with coordinator := n.coordinator.fireTimers w.now })

/-- Runs the next task; `none` if nothing is ready. A task stays the next one until it has nothing
left to do. -/
def step? (w : Network) : Option Network :=
  match w.refresh with
  | [] => none
  | t :: rest => some ({ w with queue := t :: rest }.runTask t)

/-- Runs until nothing is ready; `fuel` bounds the number of tasks that run. -/
def settleWithin (w : Network) : Nat → Network
  | 0 => w
  | fuel + 1 =>
      match w.step? with
      | some next => next.settleWithin fuel
      | none => { w with queue := [] }

/-- More tasks than any exchange at one instant needs. -/
def patience : Nat := 1000000

/-- Runs until nothing is ready. -/
def settle (w : Network) : Network := w.settleWithin patience

/-- When the next timer runs out or the next unit wakes up. -/
def nextDue? (w : Network) : Option Nat :=
  (w.nodes.filterMap (fun n => n.coordinator.nextDue?)).min?

/-- Lets time pass until `target`, and everything happen that happens before it. Once `done` holds
it goes on only until nothing is ready. -/
def runUntil (w : Network) (done : Network → Bool) (target : Nat) : Network :=
  if target ≤ w.now ∨ done w then w
  else
    let here := w.settle
    let next := (here.nextDue?).getD target
    if done here then here
    else if w.now < next ∧ next < target then runUntil { here with now := next } done target
    else { here with now := target }
termination_by target - w.now
decreasing_by
  rename_i h
  exact Nat.sub_lt_sub_left (Nat.lt_trans h.1 h.2) h.1

/-- Lets time pass until `target`, and everything happen that happens before it. -/
def sleepUntil (w : Network) (target : Nat) : Network := w.runUntil (fun _ => false) target

/-- Lets time pass, and everything happen that happens meanwhile. -/
def advance (w : Network) (d : Nat) : Network := (w.sleepUntil (w.now + d)).settle

/-! ## Nodes and peers -/

/-- Adds a mailbox that only collects, in place of any other at the address. -/
def addBox (w : Network) (a : Address) (capacity : Nat) : Network :=
  { w with
    boxes := w.boxes ++ [.empty capacity]
    registry := w.registry.register a (.box w.boxes.length) }

/-- Starts a coordinator that follows the membership and is registered at its address. -/
def startNode (w : Network) (c : Coordinator) : Network :=
  let node := { Node.create c true with forwarder := some (.start c.address w.roster) }
  { w with
    nodes := w.nodes ++ [node]
    registry := w.registry.register c.address (.node w.nodes.length) }

/-- The node that was started last at an address. -/
def indexOf? (w : Network) (a : Address) : Option Nat :=
  ((w.nodes.zipIdx.filter (fun p => p.1.coordinator.address == a)).getLast?).map Prod.snd

/-- Takes the node of an index out of the registry, and lets it hear nothing more. -/
def disconnect (w : Network) (i : Nat) : Network :=
  match w.nodes[i]? with
  | some n =>
      { w.modifyNode i (fun n => { n with forwarder := none }) with
        registry := w.registry.unregister n.coordinator.address }
  | none => w

/-- Stops the node of an index without a word. -/
def kill (w : Network) (i : Nat) : Network := (w.modifyNode i Node.kill).disconnect i

end Network

end ClusterSingleton
