import ClusterSingleton.Error
import ClusterSingleton.Member

/-!
# The roster of a cluster

The list of its members, and the stream of events that tells subscribers how it changes. A subscriber
that falls too far behind loses the oldest events; a stream that is closed stays closed.
-/

namespace ClusterSingleton

structure Roster : Type where
  members : List Member
  /-- The number under which the next member comes up. -/
  nextUpNumber : Nat
  /-- All events so far, in order. -/
  published : List ClusterEvent
  /-- The stream is closed: no event follows. -/
  closed : Bool
deriving DecidableEq, Repr

namespace Error

def unknownMember (a : Address) : Error := internal ("unknown member " ++ a.text)

def badTransition (a : Address) (present next : MemberStatus) : Error :=
  internal ("member " ++ a.text ++ " cannot go from " ++ present.label ++ " to " ++ next.label)

end Error

namespace Roster

def empty : Roster := ⟨[], 1, [], false⟩

def snapshot (m : Roster) : ClusterState := ⟨m.members⟩

def find? (m : Roster) (a : Address) : Option Member := m.snapshot.find? a

/-- The addresses of the members, in order. -/
def addresses (m : Roster) : List Address :=
  (m.members.map Member.address).mergeSort (fun a b => (a.order b).isLE)

def publish (m : Roster) (e : ClusterEvent) : Roster :=
  if m.closed then m else { m with published := m.published ++ [e] }

/-- The member that would join now. -/
def newcomer (m : Roster) (a : Address) (roles : RoleSet) : Member :=
  ⟨a, m.nextUpNumber, .up, roles⟩

/-- Admits a member; one with the same address is replaced. -/
def join (m : Roster) (a : Address) (roles : RoleSet) : Roster :=
  let x := m.newcomer a roles
  let joined : Roster :=
    { m with
      members := m.members.filter (fun y => y.address ≠ a) ++ [x]
      nextUpNumber := m.nextUpNumber + 1 }
  joined.publish (.memberUp x)

/-- Gives a member another status, and returns it as it is then. -/
def change (m : Roster) (a : Address) (s : MemberStatus) :
    Except Error (Roster × Member) :=
  match m.find? a with
  | none => .error (.unknownMember a)
  | some x =>
      if x.status.canBecome s then
        let y := { x with status := s }
        .ok ({ m with members := m.members.map (fun z => if z.address = a then y else z) }, y)
      else .error (.badTransition a x.status s)

/-- A member leaves in an orderly way. -/
def leave (m : Roster) (a : Address) : Except Error Roster := do
  let (leaving, _) ← m.change a .leaving
  let (left, x) ← leaving.change a .exiting
  pure (left.publish (.memberExited x))

/-- A member was found to be unreachable; nobody is told before it is removed. -/
def down (m : Roster) (a : Address) : Except Error Roster := do
  let (changed, _) ← m.change a .down
  pure changed

def remove (m : Roster) (a : Address) : Except Error Roster := do
  let (changed, x) ← m.change a .removed
  let left := { changed with members := changed.members.filter (fun y => y.address ≠ a) }
  pure (left.publish (.memberRemoved x))

/-- Closes the stream of events. -/
def shutdown (m : Roster) : Roster := { m with closed := true }

/-! ## Subscribers -/

/-- How many events are kept for a subscriber. -/
def backlog : Nat := 1024

/-- A subscriber, by the number of events that it has passed. -/
structure Reader : Type where
  position : Nat
deriving DecidableEq, Repr

/-- What a subscriber hears next. -/
inductive Heard : Type where
  | event (e : ClusterEvent)
  /-- So many events are lost. -/
  | lagged (count : Nat)
  | closed
  | nothing
deriving DecidableEq, Repr

/-- A subscriber to all events from now on. -/
def reader (m : Roster) : Reader := ⟨m.published.length⟩

def pending (m : Roster) (r : Reader) : List ClusterEvent := m.published.drop r.position

/-- How many events the subscriber has lost. -/
def lost (m : Roster) (r : Reader) : Nat := m.published.length - r.position - backlog

def hear (m : Roster) (r : Reader) : Heard :=
  if 0 < m.lost r then .lagged (m.lost r)
  else
    match m.published[r.position]? with
    | some e => .event e
    | none => if m.closed then .closed else .nothing

/-- The subscriber after it has heard what comes next. -/
def pass (m : Roster) (r : Reader) : Reader :=
  if 0 < m.lost r then ⟨r.position + m.lost r⟩
  else if r.position < m.published.length then ⟨r.position + 1⟩ else r

/-- Whether the subscriber has something to hear. -/
def hasNews (m : Roster) (r : Reader) : Bool :=
  m.closed || decide (r.position < m.published.length)

/-- Everything that the subscriber has to hear. -/
def hearAll (m : Roster) (r : Reader) : List Heard :=
  (if 0 < m.lost r then [.lagged (m.lost r)] else [])
    ++ (m.published.drop (r.position + m.lost r)).map Heard.event
    ++ (if m.closed then [.closed] else [])

end Roster

end ClusterSingleton
