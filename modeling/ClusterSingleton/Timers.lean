import ClusterSingleton.Inbox
import ClusterSingleton.Time

/-!
# Timers

The timers of one coordinator. Every start of a timer has a generation of its own, and a timer that
runs out is accepted only if nothing has replaced, cancelled or accepted it since: what was queued
before a timer was cancelled is recognised when it arrives.
-/

namespace ClusterSingleton

/-- A timer that runs. -/
structure Alarm : Type where
  due : Nat
  /-- The key and generation of a timer that can be cancelled. -/
  keyed : Option (TimerKey × Nat)
  event : Event
deriving DecidableEq, Repr

namespace Alarm

/-- What arrives when the timer runs out. -/
def item (a : Alarm) : Item :=
  match a.keyed with
  | some (key, generation) => .timer key generation a.event
  | none => .event a.event

def sender (a : Alarm) : Sender :=
  match a.keyed with
  | some (_, generation) => .timer generation
  | none => .oneShot

/-- Puts a timer among those that run, behind the ones that run out no later. -/
def insert (a : Alarm) : List Alarm → List Alarm
  | [] => [a]
  | b :: bs => if b.due ≤ a.due then b :: insert a bs else a :: b :: bs

end Alarm

structure Timers : Type where
  /-- The generation of the last start. -/
  generation : Nat
  /-- The timers that are pending, with the generation that will be accepted. -/
  active : List (TimerKey × Nat)
  /-- The timers that run, the next one first. -/
  alarms : List Alarm
deriving DecidableEq, Repr

namespace Timers

def empty : Timers := ⟨0, [], []⟩

/-- The generation that will be accepted. -/
def current? (t : Timers) (key : TimerKey) : Option Nat :=
  (t.active.find? (fun a => a.1 == key)).map Prod.snd

def isActive (t : Timers) (key : TimerKey) : Bool := (t.current? key).isSome

/-- The pending timers without a key. -/
def retire (t : Timers) (key : TimerKey) : List (TimerKey × Nat) :=
  t.active.filter (fun a => a.1 ≠ key)

/-- Whether cancelling the key takes a sender out of the line. -/
def owns (t : Timers) (key : TimerKey) (s : Sender) : Bool :=
  match t.current? key with
  | some generation => s == .timer generation
  | none => false

/-- Whether cancelling all timers takes a sender out of the line. -/
def ownsAny (t : Timers) (s : Sender) : Bool :=
  s == .oneShot || t.active.any (fun a => s == .timer a.2)

def cancel (t : Timers) (key : TimerKey) : Timers :=
  { t with
    active := t.retire key
    alarms := t.alarms.filter (fun a => !t.owns key a.sender) }

/-- Starts a timer in place of any other with its key. -/
def start (t : Timers) (now : Nat) (key : TimerKey) (event : Event) (after : Nat) : Timers :=
  let t := t.cancel key
  let generation := t.generation + 1
  { generation := generation
    active := (key, generation) :: t.active
    alarms := Alarm.insert ⟨Duration.ceilMilli (now + after), some (key, generation), event⟩
      t.alarms }

/-- Starts a timer that has no key. -/
def scheduleOnce (t : Timers) (now : Nat) (event : Event) (after : Nat) : Timers :=
  { t with alarms := Alarm.insert ⟨Duration.ceilMilli (now + after), none, event⟩ t.alarms }

/-- Whether a timer that has run out still counts. -/
def accepts (t : Timers) (key : TimerKey) (generation : Nat) : Bool :=
  t.current? key == some generation

/-- The timers after one that has run out was looked at: what was accepted once is not again. -/
def accept (t : Timers) (key : TimerKey) (generation : Nat) : Timers :=
  if t.accepts key generation then { t with active := t.retire key } else t

def cancelAll (t : Timers) : Timers :=
  { t with active := [], alarms := t.alarms.filter (fun a => !t.ownsAny a.sender) }

/-- The next timer, if it has run out. -/
def due? (t : Timers) (now : Nat) : Option (Alarm × Timers) :=
  match t.alarms with
  | a :: rest => if a.due ≤ now then some (a, { t with alarms := rest }) else none
  | [] => none

/-- When the next timer runs out. -/
def nextDue? (t : Timers) : Option Nat := t.alarms.head?.map Alarm.due

end Timers

/-! ## Timers with their inbox -/

/-- An inbox and the timers that deliver into it. -/
structure TimedInbox : Type where
  inbox : Inbox
  timers : Timers
deriving DecidableEq, Repr

namespace TimedInbox

def empty (capacity : Nat) : TimedInbox := ⟨.empty capacity, .empty⟩

def cancel (d : TimedInbox) (key : TimerKey) : TimedInbox :=
  ⟨d.inbox.withdraw (d.timers.owns key), d.timers.cancel key⟩

def start (d : TimedInbox) (now : Nat) (key : TimerKey) (event : Event) (after : Nat) :
    TimedInbox :=
  ⟨d.inbox.withdraw (d.timers.owns key), d.timers.start now key event after⟩

def scheduleOnce (d : TimedInbox) (now : Nat) (event : Event) (after : Nat) : TimedInbox :=
  { d with timers := d.timers.scheduleOnce now event after }

def cancelAll (d : TimedInbox) : TimedInbox :=
  ⟨d.inbox.withdraw d.timers.ownsAny, d.timers.cancelAll⟩

def accept (d : TimedInbox) (key : TimerKey) (generation : Nat) : TimedInbox :=
  { d with timers := d.timers.accept key generation }

/-- Delivers the timers that run out until `t`, in the order of time; `fuel` bounds their number. -/
def fire (d : TimedInbox) (t : Nat) : Nat → TimedInbox
  | 0 => d
  | fuel + 1 =>
      match d.timers.due? t with
      | some (a, timers) => fire ⟨d.inbox.send a.sender a.item, timers⟩ t fuel
      | none => d

/-- Delivers all timers that run out until `t`. -/
def advance (d : TimedInbox) (t : Nat) : TimedInbox := d.fire t d.timers.alarms.length

def close (d : TimedInbox) : TimedInbox := { d with inbox := d.inbox.close }

def drain (d : TimedInbox) : TimedInbox := { d with inbox := d.inbox.drain }

end TimedInbox

end ClusterSingleton
