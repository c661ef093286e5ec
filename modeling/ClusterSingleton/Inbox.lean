import ClusterSingleton.Event

/-!
# Inboxes

A queue of bounded length with one receiver. Whoever cannot wait is turned away when the queue is
full; the others wait in line, and a place that becomes free goes to the first of them.
-/

namespace ClusterSingleton

/-- What a coordinator receives. -/
inductive Item : Type where
  | event (e : Event)
  | peer (sender : Address) (message : Message)
  /-- A timer has run out; the generation says which start of the timer it was. -/
  | timer (key : TimerKey) (generation : Nat) (event : Event)
deriving DecidableEq, Repr

/-- Who waits in line. -/
inductive Sender : Type where
  | timer (generation : Nat)
  | oneShot
  /-- The report that a unit has ended. -/
  | unit (id : UnitId)
  | notifier
  | forwarder
  | outside
deriving DecidableEq, Repr

/-- What becomes of an item whose sender does not wait. -/
inductive Delivery : Type where
  | delivered
  | full
  | closed
deriving DecidableEq, Repr

structure Inbox : Type where
  capacity : Nat
  queue : List Item
  /-- The line before a full queue. -/
  waiting : List (Sender × Item)
  /-- The receiver is gone. -/
  closed : Bool
deriving DecidableEq, Repr

namespace Inbox

def empty (capacity : Nat) : Inbox := ⟨capacity, [], [], false⟩

/-- Whether there is a free place. -/
def hasRoom (b : Inbox) : Bool := b.waiting.isEmpty && decide (b.queue.length < b.capacity)

/-- What would become of an item now. -/
def delivery (b : Inbox) : Delivery :=
  if b.closed then .closed else if b.hasRoom then .delivered else .full

/-- Queues an item if there is a place. -/
def offer (b : Inbox) (item : Item) : Inbox :=
  if b.delivery = .delivered then { b with queue := b.queue ++ [item] } else b

/-- Queues an item, in line if it must be. -/
def send (b : Inbox) (sender : Sender) (item : Item) : Inbox :=
  match b.delivery with
  | .delivered => { b with queue := b.queue ++ [item] }
  | .full => { b with waiting := b.waiting ++ [(sender, item)] }
  | .closed => b

/-- Lets the first in line have a free place. -/
def promote (b : Inbox) : Inbox :=
  match b.waiting with
  | [] => b
  | (_, item) :: rest =>
      if b.queue.length < b.capacity then { b with queue := b.queue ++ [item], waiting := rest }
      else b

/-- Takes the first item. -/
def receive? (b : Inbox) : Option (Item × Inbox) :=
  match b.queue with
  | [] => none
  | item :: rest => some (item, { b with queue := rest }.promote)

/-- Takes some of those in line out of it. -/
def withdraw (b : Inbox) (gone : Sender → Bool) : Inbox :=
  { b with waiting := b.waiting.filter (fun w => !gone w.1) }

def isWaiting (b : Inbox) (sender : Sender) : Bool := b.waiting.any (fun w => w.1 == sender)

/-- The receiver goes away: nothing is delivered any more. -/
def close (b : Inbox) : Inbox := { b with queue := [], waiting := [], closed := true }

/-- Everything that is queued or in line. -/
def contents (b : Inbox) : List Item := b.queue ++ b.waiting.map Prod.snd

/-- Takes everything that is queued or in line. -/
def drain (b : Inbox) : Inbox := { b with queue := [], waiting := [] }

end Inbox

end ClusterSingleton
