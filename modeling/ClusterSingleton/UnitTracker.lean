import ClusterSingleton.ManagedUnit

/-!
# Tracking units

Counts the units that are alive across a whole cluster. The times between the end of the last unit
that was alive and the beginning of the next one are the gaps; the time before the first unit is none,
and neither is one that still lasts.
-/

namespace ClusterSingleton

structure UnitTracker : Type where
  active : Nat
  /-- The most units that were alive at once. -/
  maxActive : Nat
  started : Nat
  /-- When the present gap began. -/
  gapSince : Option Nat
  /-- How long each gap lasted, in order. -/
  gaps : List Nat
deriving DecidableEq, Repr

namespace UnitTracker

def empty : UnitTracker := ⟨0, 0, 0, none, []⟩

/-- A unit begins. -/
def enter (t : UnitTracker) (now : Nat) : UnitTracker where
  active := t.active + 1
  maxActive := max t.maxActive (t.active + 1)
  started := t.started + 1
  gapSince := none
  gaps := t.gaps ++ (t.gapSince.map (now - ·)).toList

/-- A unit ends. -/
def exit (t : UnitTracker) (now : Nat) : UnitTracker :=
  let active := t.active - 1
  { t with active := active, gapSince := if active = 0 then some now else t.gapSince }

/-- Notes what has become of a unit that was run. One that was stopped before it began never
counted. -/
def follow (t : UnitTracker) (now : Nat) (before after : ManagedUnit) : UnitTracker :=
  let begun := if before.begins then t.enter now else t
  if (before.begins || before.isAlive) && after.isEnded then begun.exit now else begun

end UnitTracker

end ClusterSingleton
