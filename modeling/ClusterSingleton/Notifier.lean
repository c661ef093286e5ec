import ClusterSingleton.Inbox
import ClusterSingleton.Roster
import ClusterSingleton.OldestTracker

/-!
# Notifiers and forwarders

Two subscribers to the membership that write to the inbox of a coordinator. A `Notifier` tells it of
the oldest member, once for each credit; a `Forwarder` tells it of each event. Both wait in line when
the inbox is full, and hear nothing as long as they wait.
-/

namespace ClusterSingleton

open Roster (Reader)

/-! ## Notifiers -/

structure Notifier : Type where
  tracker : OldestTracker
  reader : Reader
  ended : Bool
deriving DecidableEq, Repr

namespace Notifier

/-- A notifier that starts from the present membership. -/
def start (self : Address) (role : Option String) (m : Roster) : Notifier :=
  ⟨(OldestTracker.create (some self) role).seed m.snapshot, m.reader, false⟩

def request (n : Notifier) : Notifier := { n with tracker := n.tracker.request }

/-- Whether the notifier has something to do. -/
def isReady (n : Notifier) (m : Roster) (b : Inbox) : Bool :=
  !n.ended && !b.isWaiting .notifier && (n.tracker.poll.1.isSome || m.hasNews n.reader)

/-- Hands out a notification, or else hears what comes next. When the stream is closed the
coordinator is told so. -/
def step (n : Notifier) (m : Roster) (b : Inbox) : Notifier × Inbox :=
  match n.tracker.poll with
  | (some e, tracker) =>
      ({ n with tracker := tracker, ended := b.closed }, b.send .notifier (.event e))
  | (none, _) =>
      let passed := { n with reader := m.pass n.reader }
      match m.hear n.reader with
      | .event e => ({ passed with tracker := n.tracker.observe e }, b)
      | .closed => ({ n with ended := true }, b.send .notifier (.event .clusterShutdown))
      | _ => (passed, b)

/-- Goes on until there is nothing to do; `fuel` bounds the number of steps. -/
def settle (n : Notifier) (m : Roster) (b : Inbox) : Nat → Notifier × Inbox
  | 0 => (n, b)
  | fuel + 1 =>
      if n.isReady m b then
        let r := n.step m b
        r.1.settle m r.2 fuel
      else (n, b)

/-- A number of steps that is enough: one for each event and one for each notification. -/
def load (n : Notifier) (m : Roster) : Nat :=
  2 * (m.published.length + n.tracker.pending.length + 2)

end Notifier

/-- A membership and an inbox that a notifier may write to. -/
structure NotifiedInbox : Type where
  roster : Roster
  inbox : Inbox
  notifier : Option Notifier
deriving DecidableEq, Repr

namespace NotifiedInbox

def empty (capacity : Nat) : NotifiedInbox := ⟨.empty, .empty capacity, none⟩

/-- Stops the notifier; what it has in line is lost. -/
def stop (x : NotifiedInbox) : NotifiedInbox :=
  { x with notifier := none, inbox := x.inbox.withdraw (· == .notifier) }

/-- Starts a notifier in place of any other. -/
def start (x : NotifiedInbox) (self : Address) (role : Option String) : NotifiedInbox :=
  { x.stop with notifier := some (.start self role x.roster) }

def request (x : NotifiedInbox) : NotifiedInbox :=
  { x with notifier := x.notifier.map Notifier.request }

/-- Lets the notifier go on until it has nothing to do. -/
def settle (x : NotifiedInbox) : NotifiedInbox :=
  match x.notifier with
  | none => x
  | some n =>
      let r := n.settle x.roster x.inbox (n.load x.roster)
      { x with notifier := some r.1, inbox := r.2 }

end NotifiedInbox

/-! ## Forwarders -/

structure Forwarder : Type where
  /-- The coordinator's own address. -/
  self : Address
  reader : Reader
  /-- What is still to be written to the inbox. -/
  outbox : List Item
  ended : Bool
deriving DecidableEq, Repr

namespace Forwarder

/-- What a coordinator is told of a membership event. A node that has come up itself starts its
notifier. -/
def itemsOf (self : Address) : ClusterEvent → List Item
  | .memberUp m => if m.address = self then [.event .startNotifier] else []
  | .memberExited m => [.event (.memberExited m.address)]
  | .memberRemoved m => [.event (.memberRemoved m.address)]
  | .currentState s =>
      let isUp : Bool :=
        match s.find? self with
        | some m => m.status == .up || m.status == .leaving
        | none => false
      .event .currentClusterState :: (if isUp then [.event .startNotifier] else [])

/-- A forwarder that begins with the present membership. -/
def start (self : Address) (m : Roster) : Forwarder :=
  ⟨self, m.reader, itemsOf self (.currentState m.snapshot), false⟩

/-- Whether the forwarder has something to do. -/
def isReady (f : Forwarder) (m : Roster) (b : Inbox) : Bool :=
  !f.ended && !b.isWaiting .forwarder && (!f.outbox.isEmpty || m.hasNews f.reader)

/-- Writes an item, or else hears what comes next. -/
def step (f : Forwarder) (m : Roster) (b : Inbox) : Forwarder × Inbox :=
  match f.outbox with
  | item :: rest => ({ f with outbox := rest, ended := b.closed }, b.send .forwarder item)
  | [] =>
      let passed := { f with reader := m.pass f.reader }
      match m.hear f.reader with
      | .event e => ({ passed with outbox := itemsOf f.self e }, b)
      | .closed => ({ f with ended := true }, b.send .forwarder (.event .clusterShutdown))
      | _ => (passed, b)

end Forwarder

end ClusterSingleton
