import ClusterSingleton.Machine
import ClusterSingleton.Metrics
import ClusterSingleton.Supervisor
import ClusterSingleton.Timers

/-!
# Coordinators

A coordinator feeds the items of its inbox to a `Machine`, one at a time, and performs the effects
of each before it takes the next. What it cannot do by itself it asks of its surroundings. A stuck
coordinator is created anew as long as its budget of restarts lasts.
-/

namespace ClusterSingleton

/-- What a coordinator asks of its surroundings. -/
inductive Request : Type where
  | startNotifier
  /-- The notifier may tell of one more change. -/
  | requestNext
  | dropNotifier
  | deliver (target : Address) (message : Message)
deriving DecidableEq, Repr

/-- How far a coordinator has come. -/
inductive Progress : Type where
  /-- An instance is about to begin. -/
  | starting
  | running
  | finished (result : Except Error Unit)
  /-- It broke off in the middle of a step. -/
  | brokeOff
  /-- It was stopped from outside. -/
  | aborted

/-- Whether a coordinator has come to its end by itself. -/
def Progress.isFinished : Progress → Bool
  | finished _ => true
  | brokeOff => true
  | _ => false

/-- What a coordinator sees of the world when it handles an item. -/
structure Surroundings : Type where
  now : Nat
  /-- Whether a message to the address would arrive. -/
  reaches : Address → Bool

structure Coordinator : Type where
  settings : Settings
  machine : Machine
  desk : TimedInbox
  supervisor : Supervisor
  /-- How many units were started; it numbers the next one. -/
  unitCount : Nat
  hasNotifier : Bool
  /-- Whether this instance has started a notifier. -/
  notifierStarted : Bool
  /-- Whether the next instance starts a notifier by itself. -/
  restartNotifier : Bool
  status : Status
  metrics : Metrics
  /-- How many restarts are left. -/
  restartsLeft : Nat
  progress : Progress

namespace Error

def signalMismatch (supervisor settings : TerminationSignal) : Error :=
  configuration ("Supervisor termination signal " ++ supervisor.label ++
    " differs from configured " ++ settings.label)

def coordinatorClosed (address : Address) : Error := channelClosed ("coordinator " ++ address.text)

end Error

namespace Coordinator

/-- A coordinator for usable settings and a supervisor that agrees with them. -/
def create (settings : Settings) (supervisor : Supervisor) (restarts : Nat) :
    Except Error Coordinator := do
  let machine ← Machine.ofSettings settings
  if supervisor.signal = settings.singleton.terminationSignal then
    pure
      { settings := settings
        machine := machine
        desk := .empty settings.singleton.inboxCapacity
        supervisor := supervisor
        unitCount := 0
        hasNotifier := false
        notifierStarted := false
        restartNotifier := false
        status := .initial
        metrics := .zero
        restartsLeft := restarts
        progress := .starting }
  else .error (.signalMismatch supervisor.signal settings.singleton.terminationSignal)

def address (c : Coordinator) : Address := c.settings.node.address

def inbox (c : Coordinator) : Inbox := c.desk.inbox

def mapInbox (c : Coordinator) (f : Inbox → Inbox) : Coordinator :=
  { c with desk := { c.desk with inbox := f c.desk.inbox } }

/-- The identifier of the next unit. -/
def fresh (c : Coordinator) : UnitId := .nth (c.unitCount + 1)

/-- Shows the present state; a unit is shown as long as its supervisor knows it. -/
def publish (c : Coordinator) (stuck : Option String) (stopped : Bool) : Coordinator :=
  { c with
    status :=
      { state := c.machine.state
        unit := c.machine.phase.activeUnit?.bind c.supervisor.get?
        stuck := stuck
        stopped := stopped } }

/-! ## Effects -/

/-- Sends a message to a peer, if it can be reached. -/
def post (c : Coordinator) (env : Surroundings) (target : Address) (message : Message) :
    Coordinator × List Request :=
  if env.reaches target then
    let sent := c.metrics.messageSent
    ({ c with metrics := if message = .handOverDone then sent.handOverCompleted else sent },
      [.deliver target message])
  else ({ c with metrics := c.metrics.messageDropped }, [])

/-- The metrics after a timer was started: the second start of a retry timer is the first retry. -/
def countRetry (m : Metrics) : Event → Metrics
  | .handOverRetry count => if 1 < count then m.handOverRetry else m
  | .takeOverRetry count => if 1 < count then m.takeOverRetry else m
  | _ => m

def perform (c : Coordinator) (env : Surroundings) : Effect → Coordinator × List Request
  | .startNotifier =>
      if c.hasNotifier then (c, [])
      else ({ c with hasNotifier := true, notifierStarted := true }, [.startNotifier])
  | .requestNextOldest => (c, if c.hasNotifier then [.requestNext] else [])
  | .send target message => c.post env target message
  | .startUnit unit =>
      ({ c with
          supervisor := c.supervisor.start unit
          unitCount := c.unitCount + 1
          metrics := c.metrics.unitStarted }, [])
  | .terminateUnit unit => ({ c with supervisor := c.supervisor.terminate unit }, [])
  | .startTimer key event after =>
      ({ c with
          metrics := countRetry c.metrics event
          desk := c.desk.start env.now key event after }, [])
  | .cancelTimer key => ({ c with desk := c.desk.cancel key }, [])
  | .scheduleOnce event after => ({ c with desk := c.desk.scheduleOnce env.now event after }, [])

/-- Performs effects in order. -/
def performAll (c : Coordinator) (env : Surroundings) :
    List Effect → Coordinator × List Request
  | [] => (c, [])
  | e :: es =>
      let first := c.perform env e
      let rest := first.1.performAll env es
      (rest.1, first.2 ++ rest.2)

/-! ## Events -/

/-- Counts the end of the unit that the machine takes for running. -/
def noteEnd (c : Coordinator) : Event → Coordinator
  | .unitTerminated unit =>
      if c.machine.phase.runningUnit? = some unit then
        { c with metrics := c.metrics.unitTerminated }
      else c
  | _ => c

/-- Hands an event to the machine and performs what it asks for. -/
def process (c : Coordinator) (env : Surroundings) (event : Event) :
    Coordinator × List Request × Outcome :=
  let c := c.noteEnd event
  let turn := c.machine.handle env.now c.fresh event
  let r := { c with machine := turn.machine }.performAll env turn.effects
  let moved := turn.machine.state ≠ c.machine.state
  let done :=
    if moved then { r.1 with metrics := r.1.metrics.transition turn.machine.state } else r.1
  (if turn.outcome = .proceed then done.publish none false else done, r.2, turn.outcome)

/-- A notifier does not outlive the instance that started it. -/
def dropped (c : Coordinator) : List Request := if c.hasNotifier then [.dropNotifier] else []

/-- Ends an instance: nothing of it stays behind but its units. -/
def conclude (c : Coordinator) (result : Except Error Unit) : Coordinator × List Request :=
  let quiet := { c with desk := c.desk.cancelAll, hasNotifier := false }
  let ended :=
    match result with
    | .ok _ => quiet.publish none true
    | .error e =>
        if e.isStuck then
          { quiet with metrics := quiet.metrics.stuck }.publish (some e.message) true
        else quiet.publish none true
  (ended, c.dropped)

/-- Prepares a new instance with the same inbox; the units of the last one are stopped. -/
def reset (c : Coordinator) : Except Error Coordinator := do
  let machine ← Machine.ofSettings c.settings
  pure
    { c with
      supervisor := c.supervisor.abortAll
      machine := machine
      restartNotifier := c.notifierStarted
      notifierStarted := false
      metrics := c.metrics.restarted.setState .start
      restartsLeft := c.restartsLeft - 1
      progress := .starting }

/-- The coordinator is gone: its inbox takes nothing any more. -/
def leave (c : Coordinator) (progress : Progress) : Coordinator :=
  { c with desk := c.desk.cancelAll.close, progress := progress }

/-- Goes at once; what it showed last stays. -/
def vanish (c : Coordinator) (progress : Progress) : Coordinator :=
  { c with hasNotifier := false }.leave progress

/-- What follows the end of an instance: another one after a stuck one, or nothing. -/
def afterwards (c : Coordinator) (result : Except Error Unit) : Coordinator :=
  match result with
  | .ok _ => c.leave (.finished result)
  | .error e =>
      if e.isStuck ∧ 0 < c.restartsLeft then
        match c.reset with
        | .ok c => c
        | .error e => c.leave (.finished (.error e))
      else c.leave (.finished result)

/-- Goes on after an event as its outcome says. -/
def proceed (c : Coordinator) (outcome : Outcome) : Coordinator × List Request :=
  let finish (result : Except Error Unit) : Coordinator × List Request :=
    let r := c.conclude result
    (r.1.afterwards result, r.2)
  match outcome with
  | .proceed => (c, [])
  | .stopped => finish (.ok ())
  | .fatal e => finish (.error e)
  | .overflow => (c.vanish .brokeOff, c.dropped)

/-- Handles one event to its end. -/
def dispatch (c : Coordinator) (env : Surroundings) (event : Event) :
    Coordinator × List Request :=
  let r := c.process env event
  let q := r.1.proceed r.2.2
  (q.1, r.2.1 ++ q.2)

/-- Begins an instance. -/
def begin (c : Coordinator) (env : Surroundings) : Coordinator × List Request :=
  let c :=
    { c with
      desk := c.desk.start env.now .cleanup .cleanup c.settings.singleton.cleanupInterval
      progress := .running }.publish none false
  if c.restartNotifier then { c with restartNotifier := false }.dispatch env .startNotifier
  else (c, [])

/-- The event that an item stands for; a timer that counts no longer stands for none. The timer of
the cleanup starts again as soon as it has run out. -/
def interpret (c : Coordinator) (env : Surroundings) : Item → Coordinator × Option Event
  | .event e => (c, some e)
  | .peer sender message =>
      ({ c with metrics := c.metrics.messageReceived }, some (.peer sender message))
  | .timer key generation event =>
      if c.desk.timers.accepts key generation then
        let desk := c.desk.accept key generation
        if key = .cleanup then
          ({ c with
              desk := desk.start env.now .cleanup .cleanup c.settings.singleton.cleanupInterval },
            some event)
        else ({ c with desk := desk }, some event)
      else (c, none)

/-- Handles one item. -/
def handleItem (c : Coordinator) (env : Surroundings) (item : Item) :
    Coordinator × List Request :=
  match c.interpret env item with
  | (c, none) => (c, [])
  | (c, some event) => c.dispatch env event

/-- Whether the coordinator has something to do. -/
def isReady (c : Coordinator) : Bool :=
  match c.progress with
  | .starting => true
  | .running => !c.inbox.queue.isEmpty
  | _ => false

/-- Begins an instance, or handles the first item of the inbox. -/
def step (c : Coordinator) (env : Surroundings) : Coordinator × List Request :=
  match c.progress with
  | .starting => c.begin env
  | .running =>
      match c.inbox.receive? with
      | some (item, inbox) => (c.mapInbox (fun _ => inbox)).handleItem env item
      | none => (c, [])
  | _ => (c, [])

/-- Stops the coordinator from outside; it shows what it showed last. -/
def abort (c : Coordinator) : Coordinator :=
  if c.progress.isFinished then c else c.vanish .aborted

/-- Takes items from outside, in line if it must be. -/
def accept (c : Coordinator) (items : List Item) : Except Error Coordinator :=
  if c.inbox.closed ∧ items ≠ [] then .error (.coordinatorClosed c.address)
  else .ok (c.mapInbox (fun b => items.foldl (fun b item => b.send .outside item) b))

/-! ## Units -/

/-- Whether a message would reach the unit that is shown, if there is one. -/
def reachUnit (c : Coordinator) : Option Bool :=
  c.status.unit.map (fun u => (c.supervisor.reach u.unit).toOption.isSome)

/-- Leaves a message with the unit that is shown. -/
def tell (c : Coordinator) (message : String) : Coordinator :=
  match c.status.unit with
  | some u => { c with supervisor := c.supervisor.tell u.unit message }
  | none => c

/-- Runs a unit until it has to wait. -/
def runUnit (c : Coordinator) (now : Nat) (id : UnitId) : Coordinator :=
  { c with supervisor := c.supervisor.runUnit id now }

/-- A unit ends, whatever it was doing. -/
def endUnit (c : Coordinator) (id : UnitId) : Coordinator :=
  { c with supervisor := c.supervisor.endUnit id }

/-- Processes the end of a unit and reports it. -/
def reapUnit (c : Coordinator) (id : UnitId) : Coordinator :=
  { c with supervisor := c.supervisor.reap id }.mapInbox
    (fun b => b.send (.unit id) (.event (.unitTerminated id)))

/-- Lets the timers that have run out deliver. -/
def fireTimers (c : Coordinator) (now : Nat) : Coordinator := { c with desk := c.desk.advance now }

/-- When the next timer of the coordinator or of its units runs out. -/
def nextDue? (c : Coordinator) : Option Nat :=
  match c.desk.timers.nextDue?, c.supervisor.nextDue? with
  | some a, some b => some (min a b)
  | some a, none => some a
  | none, b => b

end Coordinator

end ClusterSingleton
