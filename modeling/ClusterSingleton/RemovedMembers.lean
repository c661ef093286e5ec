import ClusterSingleton.Address
import ClusterSingleton.Time

/-!
# Removed members

The members that are known to have left, each remembered for a while. An entry past its deadline
counts no longer, but stays in place until a cleanup drops it.
-/

namespace ClusterSingleton

structure RemovedMembers : Type where
  /-- How long a member is remembered. -/
  ttl : Nat
  /-- One entry per address. -/
  entries : List (Address × Deadline)
deriving DecidableEq, Repr

namespace RemovedMembers

def empty (ttl : Nat) : RemovedMembers := ⟨ttl, []⟩

/-- Records a removal; one recorded before is forgotten. -/
def add (r : RemovedMembers) (a : Address) (now : Nat) : RemovedMembers :=
  ⟨r.ttl, (a, Deadline.after now r.ttl) :: r.entries.filter (fun e => e.1 ≠ a)⟩

def contains (r : RemovedMembers) (a : Address) (now : Nat) : Bool :=
  r.entries.any (fun e => e.1 == a && !e.2.isOverdue now)

/-- Drops what is past its deadline. -/
def cleanup (r : RemovedMembers) (now : Nat) : RemovedMembers :=
  ⟨r.ttl, r.entries.filter (fun e => !e.2.isOverdue now)⟩

/-- How many entries a cleanup drops. -/
def expiredCount (r : RemovedMembers) (now : Nat) : Nat :=
  r.entries.countP (fun e => e.2.isOverdue now)

/-- The number of entries, those past their deadline included. -/
def size (r : RemovedMembers) : Nat := r.entries.length

end RemovedMembers

end ClusterSingleton
