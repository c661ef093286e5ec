/-!
# Time

Lengths of time and points in time are natural numbers of nanoseconds; a point in time counts from
the start of the clock that measured it. `Deadline` is a point in time from which on something is
overdue, and the timing defaults of the hand-over protocol stand at the end.
-/

namespace ClusterSingleton

namespace Duration

def ofMillis (n : Nat) : Nat := n * 1000000

def ofSeconds (n : Nat) : Nat := n * 1000000000

/-- Whole seconds in a duration. -/
def seconds (d : Nat) : Nat := d / 1000000000

/-- What is left of a duration beyond its whole seconds, in nanoseconds. -/
def subsecond (d : Nat) : Nat := d % 1000000000

/-- Whole milliseconds in a duration. -/
def millis (d : Nat) : Nat := d / 1000000

/-- The first whole millisecond that is not before `t`: sleeps end on a millisecond. -/
def ceilMilli (t : Nat) : Nat := ofMillis ((t + 999999) / 1000000)

end Duration

/-- A point in time from which on something is overdue. -/
structure Deadline where
  expiry : Nat
deriving DecidableEq, Repr

namespace Deadline

/-- The deadline that expires `d` after `now`. -/
def after (now d : Nat) : Deadline := ⟨now + d⟩

def isOverdue (dl : Deadline) (now : Nat) : Bool := decide (dl.expiry ≤ now)

/-- What is left until the deadline, nothing once it is overdue. -/
def timeLeft (dl : Deadline) (now : Nat) : Nat := dl.expiry - now

theorem isOverdue_iff {dl : Deadline} {now : Nat} :
    dl.isOverdue now = true ↔ dl.expiry ≤ now := by simp [isOverdue]

theorem isOverdue_eq_false_iff {dl : Deadline} {now : Nat} :
    dl.isOverdue now = false ↔ now < dl.expiry := by simp [isOverdue]

end Deadline

/-! ## Timing defaults -/

namespace Defaults

/-- How long a removed member is remembered. -/
def removedTtl : Nat := Duration.ofSeconds (15 * 60)

/-- How often members removed too long ago are forgotten. -/
def cleanupInterval : Nat := Duration.ofSeconds 60

/-- How long a hand-over or take-over request waits before it is sent again. -/
def retryInterval : Nat := Duration.ofSeconds 1

/-- The least number of hand-over requests that are sent again. -/
def minHandOverRetries : UInt32 := 15

/-- Hand-over requests that are sent beyond those that cover the removal margin. -/
def handOverHeadroom : UInt32 := 3

end Defaults

end ClusterSingleton
