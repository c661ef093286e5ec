import ClusterSingleton.Machine

/-!
# A machine with state and data apart

`Machine` keeps the state and the data that goes with it in one value, and an answer hands over its
effects at once. `SplitMachine` keeps a state, data and an outbox for effects, and its handlers write
to each of them. So it could come to hold data that does not go with its state, which its handlers
could not read, or leave an effect behind for the next event.
-/

namespace ClusterSingleton

/-- What a handler decides about the state and the data. -/
inductive Move : Type where
  | stay
  | stayUsing (data : Phase)
  | goto (state : State) (data : Phase)
  | stop
  | fail (error : Error)
  | breakOff
deriving DecidableEq, Repr

structure SplitMachine : Type where
  state : State
  /-- All else that is remembered; its phase is the data, whether it goes with the state or not. -/
  core : Machine
  /-- The effects that were asked for, and not yet handed over. -/
  outbox : List Effect
deriving DecidableEq, Repr

/-- What an event leads to. -/
structure Reply : Type where
  machine : SplitMachine
  effects : List Effect
  outcome : Outcome
deriving DecidableEq, Repr

namespace SplitMachine

def data (s : SplitMachine) : Phase := s.core.phase

/-- The data goes with the state. -/
def Fits (s : SplitMachine) : Prop := s.data.state = s.state

/-! ## Asking for effects -/

def emit (s : SplitMachine) (x : Effect) : SplitMachine := { s with outbox := s.outbox ++ [x] }

def send (s : SplitMachine) (target : Option Address) (message : Message) : SplitMachine :=
  match target with
  | some a => s.emit (.send a message)
  | none => s

/-- Asks for the next change of the oldest member, unless that was done already. -/
def requestNext (s : SplitMachine) : SplitMachine :=
  if s.core.noticeReceived then { s with core := s.core.asked }.emit .requestNextOldest else s

def noticed (s : SplitMachine) : SplitMachine := { s with core := s.core.noticed }

/-- Remembers that a member was removed. -/
def record (s : SplitMachine) (a : Address) (now : Nat) : SplitMachine :=
  { s with core := { s.core with removed := s.core.removed.add a now } }

/-! ## Moves that several states share -/

def host (s : SplitMachine) (fresh : UnitId) : SplitMachine × Move :=
  (s.emit (.startUnit fresh), .goto .oldest (.oldest fresh false))

def yieldTo (s : SplitMachine) (unit : UnitId) (unitEnded : Bool) (newOldest : Option Address) :
    SplitMachine × Move :=
  ((s.send newOldest .takeOverFromMe).emit
      (.startTimer .takeOverRetry (.takeOverRetry 1) s.core.retryInterval),
    .goto .wasOldest (.wasOldest unit unitEnded newOldest))

def handOverDone (s : SplitMachine) (now : Nat) (target : Option Address) : SplitMachine × Move :=
  (s.send target .handOverDone,
    if s.core.isRemoved s.core.self now then .stop
    else if s.core.selfExited then .goto .ended .ended
    else .goto .younger (.younger target))

def handOver (s : SplitMachine) (now : Nat) (unit : UnitId) (unitEnded : Bool)
    (target : Option Address) : SplitMachine × Move :=
  if unitEnded then s.handOverDone now target
  else
    ((s.send target .handOverInProgress).emit (.terminateUnit unit),
      .goto .handingOver (.handingOver unit target))

def windDown (s : SplitMachine) (unit : UnitId) (unitEnded : Bool) : SplitMachine × Move :=
  if unitEnded then (s, .stop)
  else (s.emit (.terminateUnit unit), .goto .stopping (.stopping unit))

def awaitMargin (s : SplitMachine) (a : Address) : SplitMachine × Move :=
  if a = s.core.self then (s, .stop)
  else (s.emit (.scheduleOnce (.delayedMemberRemoved a) s.core.removalMargin), .stay)

def askAgain (s : SplitMachine) (target : Option Address) (message : Message) (key : TimerKey)
    (retry : UInt32 → Event) (count : UInt32) : SplitMachine × Move :=
  if count.toNat < RetryLimits.bound then
    ((s.send target message).emit (.startTimer key (retry (count + 1)) s.core.retryInterval), .stay)
  else (s, .breakOff)

/-! ## What each state answers

`none` leaves the event to `fallback`.
-/

def inStart (s : SplitMachine) (fresh : UnitId) : Event → Option (SplitMachine × Move)
  | .startNotifier => some ((s.emit .startNotifier).requestNext, .stay)
  | .initialOldest oldest safe =>
      if oldest = some s.core.self then
        if safe then some (s.noticed.host fresh)
        else some (s.noticed, .goto .becomingOldest (.becomingOldest none))
      else some (s.noticed, .goto .younger (.younger oldest))
  | _ => none

def inYounger (s : SplitMachine) (oldest : Option Address) (now : Nat) (fresh : UnitId) :
    Event → Option (SplitMachine × Move)
  | .oldestChanged new =>
      if new = some s.core.self then
        match oldest with
        | some previous =>
            if s.core.isRemoved previous now then some (s.noticed.host fresh)
            else
              some (s.noticed.send (some previous) .handOverToMe,
                .goto .becomingOldest (.becomingOldest (some previous)))
        | none => some (s.noticed.host fresh)
      else some (s.noticed.requestNext, .stayUsing (.younger new))
  | .memberRemoved a => some (s.awaitMargin a)
  | .delayedMemberRemoved a =>
      if oldest = some a then some (s.record a now, .stayUsing (.younger none)) else none
  | _ => none

def retryHandOver (s : SplitMachine) (previous : Option Address) (now : Nat) (fresh : UnitId)
    (count : UInt32) : SplitMachine × Move :=
  if count ≤ s.core.limits.handOver then
    s.askAgain previous .handOverToMe .handOverRetry .handOverRetry count
  else if s.core.knownRemoved previous now then s.host fresh
  else if s.core.clusterTerminated then (s, .stop)
  else (s, .fail (Machine.handOverStuck previous))

def inBecomingOldest (s : SplitMachine) (previous : Option Address) (now : Nat) (fresh : UnitId) :
    Event → Option (SplitMachine × Move)
  | .peer _ .handOverInProgress => some (s.emit (.cancelTimer .handOverRetry), .stay)
  | .peer sender .handOverDone =>
      match previous with
      | some p => if p = sender then some (s.host fresh) else some (s, .stay)
      | none => none
  | .memberRemoved a => some (s.awaitMargin a)
  | .delayedMemberRemoved a =>
      if previous = some a then some ((s.record a now).host fresh) else none
  | .peer sender .takeOverFromMe =>
      match previous with
      | none =>
          some (s.send (some sender) .handOverToMe, .stayUsing (.becomingOldest (some sender)))
      | some p =>
          if p = sender then some (s.send (some sender) .handOverToMe, .stay)
          else some (s, .stay)
  | .handOverRetry count => some (s.retryHandOver previous now fresh count)
  | _ => none

def inOldest (s : SplitMachine) (unit : UnitId) (unitEnded : Bool) (now : Nat) :
    Event → Option (SplitMachine × Move)
  | .oldestChanged oldest =>
      match oldest with
      | some a =>
          if a = s.core.self then some (s.noticed, .stay)
          else if !s.core.selfExited && s.core.isRemoved a now then
            some (s.noticed.handOver now unit unitEnded none)
          else some (s.noticed.yieldTo unit unitEnded (some a))
      | none => some (s.noticed.yieldTo unit unitEnded none)
  | .peer sender .handOverToMe => some (s.handOver now unit unitEnded (some sender))
  | .unitTerminated u => if u = unit then some (s, .stayUsing (.oldest unit true)) else none
  | _ => none

def retryTakeOver (s : SplitMachine) (unit : UnitId) (unitEnded : Bool)
    (newOldest : Option Address) (now : Nat) (count : UInt32) : SplitMachine × Move :=
  if (s.core.clusterTerminated || s.core.selfExited)
      && (newOldest.isNone || decide (s.core.limits.takeOver < count)) then
    s.windDown unit unitEnded
  else if count ≤ s.core.limits.takeOver then
    s.askAgain newOldest .takeOverFromMe .takeOverRetry .takeOverRetry count
  else if newOldest.isNone || s.core.knownRemoved newOldest now then s.windDown unit unitEnded
  else (s, .fail (Machine.takeOverStuck newOldest))

def inWasOldest (s : SplitMachine) (unit : UnitId) (unitEnded : Bool) (newOldest : Option Address)
    (now : Nat) : Event → Option (SplitMachine × Move)
  | .takeOverRetry count => some (s.retryTakeOver unit unitEnded newOldest now count)
  | .peer sender .handOverToMe => some (s.handOver now unit unitEnded (some sender))
  | .memberRemoved a =>
      if a = s.core.self ∧ s.core.selfExited = false then some (s, .stop)
      else if newOldest = some a ∧ s.core.selfExited = false then
        some ((s.record a now).handOver now unit unitEnded none)
      else none
  | .unitTerminated u =>
      if u = unit then some (s, .stayUsing (.wasOldest unit true newOldest)) else none
  | _ => none

def inHandingOver (s : SplitMachine) (unit : UnitId) (target : Option Address) (now : Nat) :
    Event → Option (SplitMachine × Move)
  | .unitTerminated u => if u = unit then some (s.handOverDone now target) else none
  | .peer sender .handOverToMe =>
      if target = some sender then some (s.send (some sender) .handOverInProgress, .stay) else none
  | _ => none

def inStopping (s : SplitMachine) (unit : UnitId) : Event → Option (SplitMachine × Move)
  | .unitTerminated u => if u = unit then some (s, .stop) else none
  | _ => none

def inEnded (s : SplitMachine) : Event → Option (SplitMachine × Move)
  | .memberRemoved a => if a = s.core.self then some (s, .stop) else none
  | _ => none

/-- What every state does with an event that it does not answer. -/
def fallback (s : SplitMachine) (now : Nat) : Event → SplitMachine × Move
  | .memberExited a =>
      if a = s.core.self then ({ s with core := { s.core with selfExited := true } }, .stay)
      else (s, .stay)
  | .memberRemoved a =>
      if a = s.core.self ∧ s.core.selfExited = false then (s, .stop) else (s.record a now, .stay)
  | .delayedMemberRemoved a => (s.record a now, .stay)
  | .cleanup =>
      ({ s with core := { s.core with removed := s.core.removed.cleanup now } }, .stay)
  | .clusterShutdown => ({ s with core := { s.core with clusterTerminated := true } }, .stay)
  | _ => (s, .stay)

/-- Hands the event to the state. A handler that needs data reads the data of its own state; with
any other it does not answer. -/
def inState (s : SplitMachine) (now : Nat) (fresh : UnitId) (event : Event) :
    Option (SplitMachine × Move) :=
  match s.state, s.data with
  | .start, _ => s.inStart fresh event
  | .younger, .younger oldest => s.inYounger oldest now fresh event
  | .becomingOldest, .becomingOldest previous => s.inBecomingOldest previous now fresh event
  | .oldest, .oldest unit unitEnded => s.inOldest unit unitEnded now event
  | .wasOldest, .wasOldest unit unitEnded newOldest =>
      s.inWasOldest unit unitEnded newOldest now event
  | .handingOver, .handingOver unit target => s.inHandingOver unit target now event
  | .stopping, .stopping unit => s.inStopping unit event
  | .ended, _ => s.inEnded event
  | _, _ => none

/-! ## Carrying out a decision -/

/-- No retry timer outlives the state that started it. -/
def depart (s : SplitMachine) (source : State) : SplitMachine :=
  let s := if source = .becomingOldest then s.emit (.cancelTimer .handOverRetry) else s
  if source = .wasOldest then s.emit (.cancelTimer .takeOverRetry) else s

/-- What is asked for on the way into a state. -/
def arrive (s : SplitMachine) (target : State) : SplitMachine :=
  let s :=
    if target = .becomingOldest then
      s.emit (.startTimer .handOverRetry (.handOverRetry 1) s.core.retryInterval)
    else s
  if target = .younger ∨ target = .oldest then s.requestNext else s

/-- What a change of state brings with it. A node that was itself removed stops where it would wait
for the others. -/
def transit (s : SplitMachine) (source target : State) (now : Nat) : SplitMachine × Outcome :=
  let s := (s.depart source).arrive target
  if (target = .younger ∨ target = .ended) ∧ s.core.isRemoved s.core.self now = true then
    (s, .stopped)
  else (s, .proceed)

def carryOut (s : SplitMachine) (now : Nat) : Move → SplitMachine × Outcome
  | .stay => (s, .proceed)
  | .stayUsing data => ({ s with core := { s.core with phase := data } }, .proceed)
  | .goto state data =>
      let moved := { s with state := state, core := { s.core with phase := data } }
      if s.state ≠ state then moved.transit s.state state now else (moved, .proceed)
  | .stop => (s, .stopped)
  | .fail error => (s, .fatal error)
  | .breakOff => (s, .overflow)

/-- Carries out a decision, and hands over what waits in the outbox. -/
def conclude (now : Nat) (decision : SplitMachine × Move) : Reply :=
  let (s, outcome) := decision.1.carryOut now decision.2
  let core := if outcome = .proceed then s.core else { s.core with terminated := true }
  ⟨⟨s.state, core, []⟩, s.outbox, outcome⟩

/-- Handles one event; a terminated machine ignores everything. -/
def handle (s : SplitMachine) (now : Nat) (fresh : UnitId) (event : Event) : Reply :=
  if s.core.terminated then ⟨s, [], .stopped⟩
  else conclude now ((s.inState now fresh event).getD (s.fallback now event))

end SplitMachine

end ClusterSingleton
