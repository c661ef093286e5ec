import ClusterSingleton.Event
import ClusterSingleton.Phase
import ClusterSingleton.RemovedMembers
import ClusterSingleton.Settings

/-!
# The state machine of one node

`Machine.handle` answers one event with the next machine, the effects that it wants performed, in
order, and whether the coordinator goes on. It depends on nothing but the event, the time and the
identifier that a unit would get if one were started.
-/

namespace ClusterSingleton

/-- What becomes of a coordinator after an event. -/
inductive Outcome : Type where
  | proceed
  | stopped
  | fatal (error : Error)
  /-- A number ran out of its range, and the step broke off. -/
  | overflow
deriving DecidableEq, Repr

structure Machine : Type where
  self : Address
  limits : RetryLimits
  retryInterval : Nat
  removalMargin : Nat
  phase : Phase
  removed : RemovedMembers
  /-- Whether the notifier has spoken since it was last asked. -/
  noticeReceived : Bool
  /-- Whether the node itself has left. -/
  selfExited : Bool
  clusterTerminated : Bool
  terminated : Bool
deriving DecidableEq, Repr

/-- What an event leads to. -/
structure Turn : Type where
  machine : Machine
  effects : List Effect
  outcome : Outcome
deriving DecidableEq, Repr

namespace Turn

/-- The messages that are sent, with their addressees. -/
def sent (t : Turn) : List (Address × Message) := t.effects.filterMap Effect.sent?

def isNoop (t : Turn) : Bool := t.effects.isEmpty && t.outcome == .proceed

end Turn

namespace Machine

def create (self : Address) (limits : RetryLimits) (retryInterval removalMargin removedTtl : Nat) :
    Machine where
  self := self
  limits := limits
  retryInterval := retryInterval
  removalMargin := removalMargin
  phase := .start
  removed := .empty removedTtl
  noticeReceived := true
  selfExited := false
  clusterTerminated := false
  terminated := false

/-- A machine for usable settings. -/
def ofSettings (s : Settings) : Except Error Machine := do
  s.validate
  let limits ← s.retryLimits
  pure (create s.node.address limits s.singleton.retryInterval s.removalMargin
    s.singleton.removedTtl)

def state (m : Machine) : State := m.phase.state

/-- Whether an address is a removed member that is still remembered. -/
def isRemoved (m : Machine) (a : Address) (now : Nat) : Bool := m.removed.contains a now

/-! ## Ends of a turn -/

def stay (m : Machine) (effects : List Effect) : Turn := ⟨m, effects, .proceed⟩

/-- Stays in the state with other data. -/
def stayAs (m : Machine) (phase : Phase) (effects : List Effect) : Turn :=
  stay { m with phase := phase } effects

def stop (m : Machine) (effects : List Effect) : Turn :=
  ⟨{ m with terminated := true }, effects, .stopped⟩

def fail (m : Machine) (error : Error) : Turn := ⟨{ m with terminated := true }, [], .fatal error⟩

/-- Breaks off: nothing that was asked for is handed over, and there is no going on. -/
def breakOff (m : Machine) : Turn := ⟨{ m with terminated := true }, [], .overflow⟩

/-- Remembers that the notifier was asked. -/
def asked (m : Machine) : Machine := { m with noticeReceived := false }

/-- The request for the next change of the oldest member, unless one is outstanding. -/
def request (m : Machine) : List Effect := if m.noticeReceived then [.requestNextOldest] else []

/-- The notifier has spoken. -/
def noticed (m : Machine) : Machine := { m with noticeReceived := true }

/-- No retry timer outlives the state that started it. -/
def leave : State → List Effect
  | .becomingOldest => [.cancelTimer .handOverRetry]
  | .wasOldest => [.cancelTimer .takeOverRetry]
  | _ => []

/-- Moves to another state. A node that was itself removed stops where it would wait for the
others. -/
def enter (m : Machine) (now : Nat) (phase : Phase) (effects : List Effect) : Turn :=
  let moved := { m with phase := phase }
  let effects := effects ++ leave m.state
  match phase.state with
  | .becomingOldest =>
      moved.stay (effects ++ [.startTimer .handOverRetry (.handOverRetry 1) m.retryInterval])
  | .oldest => moved.asked.stay (effects ++ m.request)
  | .younger =>
      if m.isRemoved m.self now then moved.asked.stop (effects ++ m.request)
      else moved.asked.stay (effects ++ m.request)
  | .ended => if m.isRemoved m.self now then moved.stop effects else moved.stay effects
  | _ => moved.stay effects

/-! ## Moves that several states share -/

def sendTo (target : Option Address) (message : Message) : List Effect :=
  match target with
  | some a => [.send a message]
  | none => []

/-- Starts a unit as the oldest. -/
def host (m : Machine) (now : Nat) (fresh : UnitId) : Turn :=
  m.enter now (.oldest fresh false) [.startUnit fresh]

/-- Still hosts the unit, but waits for the new oldest to ask for it. -/
def yieldTo (m : Machine) (now : Nat) (unit : UnitId) (unitEnded : Bool)
    (newOldest : Option Address) : Turn :=
  m.enter now (.wasOldest unit unitEnded newOldest)
    (sendTo newOldest .takeOverFromMe ++
      [.startTimer .takeOverRetry (.takeOverRetry 1) m.retryInterval])

/-- The unit has ended: tells the node that asked for it, and stands back. -/
def handOverDone (m : Machine) (now : Nat) (target : Option Address) : Turn :=
  let done := sendTo target .handOverDone
  if m.isRemoved m.self now then m.stop done
  else if m.selfExited then m.enter now .ended done
  else m.enter now (.younger target) done

/-- Ends the unit on behalf of the node that asked for it. -/
def handOver (m : Machine) (now : Nat) (unit : UnitId) (unitEnded : Bool)
    (target : Option Address) : Turn :=
  if unitEnded then m.handOverDone now target
  else
    m.enter now (.handingOver unit target)
      (sendTo target .handOverInProgress ++ [.terminateUnit unit])

/-- Ends the unit with nobody to take it over. -/
def windDown (m : Machine) (now : Nat) (unit : UnitId) (unitEnded : Bool) : Turn :=
  if unitEnded then m.stop [] else m.enter now (.stopping unit) [.terminateUnit unit]

/-- A removal is trusted only after the removal margin. -/
def awaitMargin (m : Machine) (a : Address) : Turn :=
  if a = m.self then m.stop []
  else m.stay [.scheduleOnce (.delayedMemberRemoved a) m.removalMargin]

/-- How a missing address stands in texts. -/
def nameOf (a : Option Address) : String :=
  match a with
  | some a => a.text
  | none => "none"

def handOverStuck (previous : Option Address) : Error :=
  .stuck ("Becoming singleton oldest was stuck because previous oldest [" ++ nameOf previous ++
    "] is unresponsive")

def takeOverStuck (newOldest : Option Address) : Error :=
  .stuck ("Expected hand-over to [" ++ nameOf newOldest ++ "] never occurred")

/-- Whether an address is known and that of a removed member. -/
def knownRemoved (m : Machine) (a : Option Address) (now : Nat) : Bool :=
  match a with
  | some a => m.isRemoved a now
  | none => false

/-- Sends a message once more, and starts the retry timer again with the next number. -/
def askAgain (m : Machine) (target : Option Address) (message : Message) (key : TimerKey)
    (retry : UInt32 → Event) (count : UInt32) : Turn :=
  if count.toNat < RetryLimits.bound then
    m.stay (sendTo target message ++ [.startTimer key (retry (count + 1)) m.retryInterval])
  else m.breakOff

/-! ## What each state answers

`none` leaves the event to `fallback`.
-/

def inStart (m : Machine) (now : Nat) (fresh : UnitId) : Event → Option Turn
  | .startNotifier => some (m.asked.stay (.startNotifier :: m.request))
  | .initialOldest oldest safe =>
      if oldest = some m.self then
        if safe then some (m.noticed.host now fresh)
        else some (m.noticed.enter now (.becomingOldest none) [])
      else some (m.noticed.enter now (.younger oldest) [])
  | _ => none

def inYounger (m : Machine) (oldest : Option Address) (now : Nat) (fresh : UnitId) :
    Event → Option Turn
  | .oldestChanged new =>
      if new = some m.self then
        match oldest with
        | some previous =>
            if m.isRemoved previous now then some (m.noticed.host now fresh)
            else
              some (m.noticed.enter now (.becomingOldest (some previous))
                [.send previous .handOverToMe])
        | none => some (m.noticed.host now fresh)
      else some (m.asked.stayAs (.younger new) [.requestNextOldest])
  | .memberRemoved a => some (m.awaitMargin a)
  | .delayedMemberRemoved a =>
      if oldest = some a then
        some ({ m with removed := m.removed.add a now }.stayAs (.younger none) [])
      else none
  | _ => none

/-- Asks again while the limit allows it, then starts the unit if the previous oldest is gone for
certain. -/
def retryHandOver (m : Machine) (previous : Option Address) (now : Nat) (fresh : UnitId)
    (count : UInt32) : Turn :=
  if count ≤ m.limits.handOver then
    m.askAgain previous .handOverToMe .handOverRetry .handOverRetry count
  else if m.knownRemoved previous now then m.host now fresh
  else if m.clusterTerminated then m.stop []
  else m.fail (handOverStuck previous)

def inBecomingOldest (m : Machine) (previous : Option Address) (now : Nat) (fresh : UnitId) :
    Event → Option Turn
  | .peer _ .handOverInProgress => some (m.stay [.cancelTimer .handOverRetry])
  | .peer sender .handOverDone =>
      match previous with
      | some p => if p = sender then some (m.host now fresh) else some (m.stay [])
      | none => none
  | .memberRemoved a => some (m.awaitMargin a)
  | .delayedMemberRemoved a =>
      if previous = some a then
        some ({ m with removed := m.removed.add a now }.host now fresh)
      else none
  | .peer sender .takeOverFromMe =>
      match previous with
      | none => some (m.stayAs (.becomingOldest (some sender)) [.send sender .handOverToMe])
      | some p =>
          if p = sender then some (m.stay [.send sender .handOverToMe]) else some (m.stay [])
  | .handOverRetry count => some (m.retryHandOver previous now fresh count)
  | _ => none

def inOldest (m : Machine) (unit : UnitId) (unitEnded : Bool) (now : Nat) :
    Event → Option Turn
  | .oldestChanged oldest =>
      match oldest with
      | some a =>
          if a = m.self then some (m.noticed.stay [])
          else if !m.selfExited && m.isRemoved a now then
            some (m.noticed.handOver now unit unitEnded none)
          else some (m.noticed.yieldTo now unit unitEnded (some a))
      | none => some (m.noticed.yieldTo now unit unitEnded none)
  | .peer sender .handOverToMe => some (m.handOver now unit unitEnded (some sender))
  | .unitTerminated u =>
      if u = unit then some (m.stayAs (.oldest unit true) []) else none
  | _ => none

/-- Asks again while the limit allows it, then ends the unit if nobody is left to take it over. -/
def retryTakeOver (m : Machine) (unit : UnitId) (unitEnded : Bool) (newOldest : Option Address)
    (now : Nat) (count : UInt32) : Turn :=
  if (m.clusterTerminated || m.selfExited)
      && (newOldest.isNone || decide (m.limits.takeOver < count)) then
    m.windDown now unit unitEnded
  else if count ≤ m.limits.takeOver then
    m.askAgain newOldest .takeOverFromMe .takeOverRetry .takeOverRetry count
  else if newOldest.isNone || m.knownRemoved newOldest now then m.windDown now unit unitEnded
  else m.fail (takeOverStuck newOldest)

def inWasOldest (m : Machine) (unit : UnitId) (unitEnded : Bool) (newOldest : Option Address)
    (now : Nat) : Event → Option Turn
  | .takeOverRetry count => some (m.retryTakeOver unit unitEnded newOldest now count)
  | .peer sender .handOverToMe => some (m.handOver now unit unitEnded (some sender))
  | .memberRemoved a =>
      if m.selfExited then none
      else if a = m.self then some (m.stop [])
      else if newOldest = some a then
        some ({ m with removed := m.removed.add a now }.handOver now unit unitEnded none)
      else none
  | .unitTerminated u =>
      if u = unit then some (m.stayAs (.wasOldest unit true newOldest) []) else none
  | _ => none

def inHandingOver (m : Machine) (unit : UnitId) (target : Option Address) (now : Nat) :
    Event → Option Turn
  | .unitTerminated u => if u = unit then some (m.handOverDone now target) else none
  | .peer sender .handOverToMe =>
      if target = some sender then some (m.stay [.send sender .handOverInProgress]) else none
  | _ => none

def inStopping (m : Machine) (unit : UnitId) : Event → Option Turn
  | .unitTerminated u => if u = unit then some (m.stop []) else none
  | _ => none

def inEnded (m : Machine) : Event → Option Turn
  | .memberRemoved a => if a = m.self then some (m.stop []) else none
  | _ => none

/-- What every state answers to an event of no special meaning there. -/
def fallback (m : Machine) (now : Nat) : Event → Turn
  | .memberExited a =>
      if a = m.self then { m with selfExited := true }.stay [] else m.stay []
  | .memberRemoved a =>
      if a = m.self ∧ m.selfExited = false then m.stop []
      else { m with removed := m.removed.add a now }.stay []
  | .delayedMemberRemoved a => { m with removed := m.removed.add a now }.stay []
  | .cleanup => { m with removed := m.removed.cleanup now }.stay []
  | .clusterShutdown => { m with clusterTerminated := true }.stay []
  | _ => m.stay []

def inPhase (m : Machine) (now : Nat) (fresh : UnitId) (event : Event) : Option Turn :=
  match m.phase with
  | .start => m.inStart now fresh event
  | .younger oldest => m.inYounger oldest now fresh event
  | .becomingOldest previous => m.inBecomingOldest previous now fresh event
  | .oldest unit unitEnded => m.inOldest unit unitEnded now event
  | .wasOldest unit unitEnded newOldest => m.inWasOldest unit unitEnded newOldest now event
  | .handingOver unit target => m.inHandingOver unit target now event
  | .stopping unit => m.inStopping unit event
  | .ended => m.inEnded event

/-- Handles one event; `fresh` is the identifier of a unit started by it. A terminated machine
ignores everything. -/
def handle (m : Machine) (now : Nat) (fresh : UnitId) (event : Event) : Turn :=
  if m.terminated then ⟨m, [], .stopped⟩
  else (m.inPhase now fresh event).getD (m.fallback now event)

end Machine

end ClusterSingleton
