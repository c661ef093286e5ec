import ClusterSingleton.Event
import ClusterSingleton.Member

/-!
# Who is the oldest

`OldestTracker` turns membership events into the changes of the oldest member. The changes wait in
order, and one is handed out for each credit.
-/

namespace ClusterSingleton

structure OldestTracker : Type where
  /-- The node that follows the membership; its own leaving does not take it off the list. -/
  self : Option Address
  role : Option String
  /-- The members that take part, oldest first. -/
  members : List Member
  initialized : Bool
  /-- The changes that were not handed out yet. -/
  pending : List Event
  credits : Nat
deriving DecidableEq, Repr

namespace OldestTracker

def create (self : Option Address) (role : Option String) : OldestTracker :=
  ⟨self, role, [], false, [], 0⟩

/-- The most credits that are counted. -/
def maxCredits : Nat := 4294967295

def oldest (t : OldestTracker) : Option Address := t.members.head?.map Member.address

/-- Whether a member of a snapshot takes part. -/
def eligible (t : OldestTracker) (m : Member) : Bool :=
  (m.status == .up || m.status == .leaving) && m.hasRole t.role

/-- Whether no member, of any role, is about to be removed. -/
def isSafe (c : ClusterState) : Bool :=
  !c.members.any (fun m => m.status == .down || m.status == .exiting)

/-- Starts from a snapshot; the first notification tells of its oldest member. -/
def seed (t : OldestTracker) (c : ClusterState) : OldestTracker :=
  let members := Member.sortByAge (c.members.filter t.eligible)
  { t with
    members := members
    initialized := true
    pending := t.pending ++ [.initialOldest (members.head?.map Member.address) (isSafe c)] }

/-- Replaces the list, and notes the new oldest if it is another. -/
def track (t : OldestTracker) (members : List Member) : OldestTracker :=
  let moved := { t with members := members }
  if moved.oldest = t.oldest then moved
  else { moved with pending := t.pending ++ [.oldestChanged moved.oldest] }

/-- The list without an address. -/
def without (t : OldestTracker) (a : Address) : List Member :=
  t.members.filter (fun m => m.address ≠ a)

/-- Adds a member in its place; an older entry for the address is dropped. -/
def insert (t : OldestTracker) (m : Member) : OldestTracker :=
  if m.hasRole t.role then t.track (Member.sortByAge (t.without m.address ++ [m])) else t

def remove (t : OldestTracker) (m : Member) : OldestTracker :=
  if m.hasRole t.role then t.track (t.without m.address) else t

/-- Follows one membership event. Before the first snapshot only a snapshot counts, after it
none does. -/
def observe (t : OldestTracker) (e : ClusterEvent) : OldestTracker :=
  match t.initialized, e with
  | false, .currentState c => t.seed c
  | false, _ => t
  | true, .memberUp m => t.insert m
  | true, .memberRemoved m => t.remove m
  | true, .memberExited m => if t.self = some m.address then t else t.remove m
  | true, .currentState _ => t

/-- Grants one notification. -/
def request (t : OldestTracker) : OldestTracker :=
  { t with credits := min (t.credits + 1) maxCredits }

/-- Hands out the next notification, if there are one and a credit. -/
def poll (t : OldestTracker) : Option Event × OldestTracker :=
  match t.credits, t.pending with
  | credits + 1, e :: rest => (some e, { t with pending := rest, credits := credits })
  | _, _ => (none, t)

end OldestTracker

end ClusterSingleton
