import ClusterSingleton.Error
import ClusterSingleton.Inbox

/-!
# Finding peers

Which mailbox belongs to the coordinator at an address. A blocked address cannot be reached, whether
it is registered or not.
-/

namespace ClusterSingleton

/-- A registry of mailboxes of type `α`. -/
structure PeerRegistry (α : Type) : Type where
  peers : List (Address × α)
  blocked : List Address
deriving DecidableEq, Repr

namespace Error

def mailboxFull (a : Address) : Error := channelClosed ("mailbox of " ++ a.text ++ " is full")

end Error

/-- What a sender learns of a message to the mailbox of a peer. -/
def Delivery.toResult (a : Address) : Delivery → Except Error Unit
  | .delivered => .ok ()
  | .full => .error (.mailboxFull a)
  | .closed => .error (.peerUnreachable a)

namespace PeerRegistry

variable {α : Type}

def empty : PeerRegistry α := ⟨[], []⟩

def unregister (r : PeerRegistry α) (a : Address) : PeerRegistry α :=
  { r with peers := r.peers.filter (fun p => p.1 ≠ a) }

/-- Registers a mailbox; another one at the address is forgotten. -/
def register (r : PeerRegistry α) (a : Address) (mailbox : α) : PeerRegistry α :=
  { r with peers := (a, mailbox) :: (r.unregister a).peers }

def unblock (r : PeerRegistry α) (a : Address) : PeerRegistry α :=
  { r with blocked := r.blocked.filter (fun b => b ≠ a) }

def block (r : PeerRegistry α) (a : Address) : PeerRegistry α :=
  { r with blocked := a :: (r.unblock a).blocked }

def isBlocked (r : PeerRegistry α) (a : Address) : Bool := r.blocked.contains a

def lookup? (r : PeerRegistry α) (a : Address) : Option α :=
  (r.peers.find? (fun p => p.1 == a)).map Prod.snd

/-- The mailbox of a peer that can be reached. -/
def resolve? (r : PeerRegistry α) (a : Address) : Option α :=
  if r.isBlocked a then none else r.lookup? a

def size (r : PeerRegistry α) : Nat := r.peers.length

end PeerRegistry

end ClusterSingleton
