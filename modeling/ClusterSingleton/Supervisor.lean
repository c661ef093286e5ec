import ClusterSingleton.ManagedUnit
import ClusterSingleton.Settings
import ClusterSingleton.Status

/-!
# Supervisors

A supervisor starts the units of one node, passes requests to them and notices their end. A unit is
known to it until its end was processed, and each end is reported once.
-/

namespace ClusterSingleton

structure Supervisor : Type where
  name : String
  signal : TerminationSignal
  /-- The behaviours of the units to come; a unit beyond them reads its messages, and ends when it is
  asked to. -/
  script : List Behaviour
  /-- The units whose end was not processed. -/
  units : List ManagedUnit
  /-- Everything that the units have logged. -/
  log : List (UnitId × LogLine)
deriving DecidableEq, Repr

namespace Error

def unitClosed (id : UnitId) : Error :=
  channelClosed ("unit " ++ id.uuid.text ++ ": channel closed")

def unitFull (id : UnitId) : Error :=
  channelClosed ("unit " ++ id.uuid.text ++ ": no available capacity")

end Error

namespace Supervisor

def create (name : String) (signal : TerminationSignal) (script : List Behaviour) : Supervisor :=
  ⟨name, signal, script, [], []⟩

/-- The supervisor that the settings ask for. -/
def ofSettings (s : Settings) (script : List Behaviour) : Supervisor :=
  create s.singleton.unitName s.singleton.terminationSignal script

def find? (s : Supervisor) (id : UnitId) : Option ManagedUnit :=
  s.units.find? (fun u => u.id == id)

/-- Changes the unit of an identifier. -/
def modify (s : Supervisor) (id : UnitId) (f : ManagedUnit → ManagedUnit) : Supervisor :=
  { s with units := s.units.map (fun u => if u.id = id then f u else u) }

/-- How a unit is known to others, as long as the supervisor knows it. -/
def get? (s : Supervisor) (id : UnitId) : Option UnitRef :=
  (s.find? id).map (fun u => ⟨u.id, s.name⟩)

def runningCount (s : Supervisor) : Nat := s.units.length

/-- Starts a unit of a given behaviour. -/
def startAs (s : Supervisor) (id : UnitId) (behaviour : Behaviour) : Supervisor :=
  { s with units := s.units.filter (fun u => u.id ≠ id) ++ [.create id behaviour] }

/-- Starts a unit of the next behaviour. -/
def start (s : Supervisor) (id : UnitId) : Supervisor :=
  { s.startAs id (s.script.head?.getD (.reads [])) with script := s.script.tail }

/-- Asks a unit to end, in the way that the signal says. A request that was not seen yet stays
the only one. -/
def terminate (s : Supervisor) (id : UnitId) : Supervisor :=
  match s.signal with
  | .stopNow => s.modify id (fun u => { u with aborted := true })
  | .graceful text =>
      s.modify id (fun u =>
        if u.isEnded || u.signal.isSome then u else { u with signal := some text })

/-- Stops all units. -/
def abortAll (s : Supervisor) : Supervisor :=
  { s with units := s.units.map (fun u => { u with aborted := true }) }

/-- What becomes of a message to a unit. -/
def reach (s : Supervisor) (id : UnitId) : Except Error Unit :=
  match s.find? id with
  | none => .error (.unitClosed id)
  | some u =>
      if u.isEnded then .error (.unitClosed id)
      else if u.mailbox.length < ManagedUnit.mailboxCapacity then .ok ()
      else .error (.unitFull id)

/-- Leaves a message with a unit that can be reached. -/
def tell (s : Supervisor) (id : UnitId) (message : String) : Supervisor :=
  match s.reach id with
  | .ok _ => s.modify id (fun u => { u with mailbox := u.mailbox ++ [message] })
  | .error _ => s

/-! ## Running units -/

/-- Runs one unit until it has to wait. -/
def runUnit (s : Supervisor) (id : UnitId) (now : Nat) : Supervisor :=
  match s.find? id with
  | none => s
  | some u =>
      let r := u.run s.name now
      { s.modify id (fun _ => r.1) with log := s.log ++ r.2.map (fun line => (id, line)) }

/-- A unit ends, whatever it was doing. -/
def endUnit (s : Supervisor) (id : UnitId) : Supervisor :=
  match s.find? id with
  | none => s
  | some u =>
      if u.isEnded then s
      else
        let r := u.finish []
        { s.modify u.id (fun _ => r.1) with log := s.log ++ r.2.map (fun line => (u.id, line)) }

/-- Forgets a unit whose end is processed. -/
def reap (s : Supervisor) (id : UnitId) : Supervisor :=
  { s with units := s.units.filter (fun u => u.id ≠ id) }

/-- The units that have something to do. -/
def ready (s : Supervisor) (now : Nat) : List UnitId :=
  (s.units.filter (fun u => u.isReady now)).map ManagedUnit.id

/-- The units whose end was not processed yet. -/
def ended (s : Supervisor) : List UnitId :=
  (s.units.filter ManagedUnit.isEnded).map ManagedUnit.id

/-- When the next unit wakes up. -/
def nextDue? (s : Supervisor) : Option Nat := (s.units.filterMap ManagedUnit.nextDue?).min?

/-- Runs every unit that has something to do. -/
def runReady (s : Supervisor) (now : Nat) : Supervisor :=
  (s.ready now).foldl (fun s id => s.runUnit id now) s

/-- Processes all ends. -/
def reapEnded (s : Supervisor) : Supervisor := s.ended.foldl reap s

/-- Runs the units `rounds` times, processes the ends, and returns the units that have ended. -/
def settle (s : Supervisor) (now : Nat) : Nat → Supervisor × List UnitId
  | 0 => (s, [])
  | rounds + 1 =>
      let ran := s.runReady now
      let rest := ran.reapEnded.settle now rounds
      (rest.1, ran.ended ++ rest.2)

/-- After so many rounds no unit has anything to do before time passes or something reaches it. -/
def maxRounds : Nat := 4

/-- Lets the units run until `target`; returns those that have ended. -/
def advance (s : Supervisor) (now target : Nat) : Supervisor × List UnitId :=
  let here := s.settle now maxRounds
  let next := (here.1.nextDue?).getD (target + 1)
  if now < next ∧ next ≤ target then
    let later := here.1.advance next target
    (later.1, here.2 ++ later.2)
  else here
termination_by target - now
decreasing_by
  rename_i h
  exact Nat.sub_lt_sub_left (Nat.lt_of_lt_of_le h.1 h.2) h.1

end Supervisor

end ClusterSingleton
