import ClusterSingleton.Proofs.Coordinator.Course

/-!
# What the metrics count

The figures of the metrics against the history of a coordinator, through all its instances. A figure
that `Accrues` grows in each turn by what the turn gains; from there each figure is a count of the
effects that were performed, or of the events that were handled.
-/

namespace ClusterSingleton

/-- A timer is started that asks for a second retry or a later one. -/
def Effect.asksAgain : TimerKey → Effect → Bool
  | .handOverRetry, .startTimer _ (.handOverRetry count) _ => decide (1 < count)
  | .takeOverRetry, .startTimer _ (.takeOverRetry count) _ => decide (1 < count)
  | _, _ => false

/-- An effect that was performed, and what the coordinator saw of the world then. -/
structure Deed : Type where
  env : Surroundings
  effect : Effect

namespace Deed

def isSend (d : Deed) : Bool := d.effect.sent?.isSome

/-- A message was sent, and arrives. -/
def isDelivery (d : Deed) : Bool := d.effect.sent?.any fun post => d.env.reaches post.1

/-- A message was sent, and does not arrive. -/
def isLoss (d : Deed) : Bool := d.effect.sent?.any fun post => !d.env.reaches post.1

/-- A `handOverDone` was sent, and arrives. -/
def handsOver (d : Deed) : Bool :=
  d.effect.sent?.any fun post => d.env.reaches post.1 && decide (post.2 = .handOverDone)

def startsUnit (d : Deed) : Bool :=
  match d.effect with
  | .startUnit _ => true
  | _ => false

def asksAgain (key : TimerKey) (d : Deed) : Bool := d.effect.asksAgain key

/-- A message that is sent arrives or is lost. -/
theorem countP_isSend (ds : List Deed) :
    ds.countP isDelivery + ds.countP isLoss = ds.countP isSend := by
  induction ds with
  | nil => rfl
  | cons d ds ih =>
      have one : (if d.isDelivery then 1 else 0) + (if d.isLoss then 1 else 0) =
          if d.isSend then 1 else 0 := by
        unfold isDelivery isLoss isSend
        cases d.effect.sent? with
        | none => rfl
        | some post => cases reached : d.env.reaches post.1 <;> simp [reached]
      rw [List.countP_cons, List.countP_cons, List.countP_cons]
      omega

end Deed

namespace Metrics

variable {m : Metrics} {env : Surroundings}

/-- The retries that were counted under a timer. -/
def retries (m : Metrics) : TimerKey → Nat
  | .handOverRetry => m.handOverRetries
  | .takeOverRetry => m.takeOverRetries
  | .cleanup => 0

/-! ## One turn -/

/-- What an effect adds to the figures of messages and units. -/
theorem heed_deed (m : Metrics) (x : Effect) :
    let d : Deed := ⟨env, x⟩
    (m.heed env x).messagesSent = m.messagesSent + (if d.isDelivery then 1 else 0) ∧
      (m.heed env x).messagesDropped = m.messagesDropped + (if d.isLoss then 1 else 0) ∧
      (m.heed env x).handOversCompleted =
        m.handOversCompleted + (if d.handsOver then 1 else 0) ∧
      (m.heed env x).unitsStarted = m.unitsStarted + if d.startsUnit then 1 else 0 := by
  cases x with
  | send target message =>
      cases reached : env.reaches target with
      | true =>
          by_cases done : message = .handOverDone
          · simp [heed, Deed.isDelivery, Deed.isLoss, Deed.handsOver, Deed.startsUnit,
              Effect.sent?, reached, done, messageSent, handOverCompleted]
          · simp [heed, Deed.isDelivery, Deed.isLoss, Deed.handsOver, Deed.startsUnit,
              Effect.sent?, reached, done, messageSent]
      | false =>
          simp [heed, Deed.isDelivery, Deed.isLoss, Deed.handsOver, Deed.startsUnit,
            Effect.sent?, reached, messageDropped]
  | startTimer key event after =>
      cases event with
      | handOverRetry count | takeOverRetry count =>
          simp only [heed, Coordinator.countRetry]
          split <;> exact ⟨rfl, rfl, rfl, rfl⟩
      | _ => exact ⟨rfl, rfl, rfl, rfl⟩
  | _ => exact ⟨rfl, rfl, rfl, rfl⟩

/-- What an effect adds to the retries. -/
theorem heed_retries (m : Metrics) (x : Effect) (key : TimerKey) :
    (m.heed env x).retries key = m.retries key + if x.asksAgain key then 1 else 0 := by
  cases x with
  | send target message =>
      have none : (Effect.send target message).asksAgain key = false := by cases key <;> rfl
      rw [none, heed]
      by_cases reached : env.reaches target = true
      · rw [if_pos reached]
        split <;> cases key <;> rfl
      · rw [if_neg reached]
        cases key <;> rfl
  | startTimer key' event after =>
      cases event with
      | handOverRetry count | takeOverRetry count =>
          by_cases again : 1 < count
          · cases key <;>
              simp [heed, Coordinator.countRetry, Effect.asksAgain, again, retries,
                handOverRetry, takeOverRetry]
          · cases key <;> simp [heed, Coordinator.countRetry, Effect.asksAgain, again, retries]
      | _ => cases key <;> rfl
  | _ => cases key <;> rfl

theorem heedAll_frame (env : Surroundings) (m : Metrics) (es : List Effect) :
    (m.heedAll env es).transitionsTotal = m.transitionsTotal ∧
      (m.heedAll env es).unitsTerminated = m.unitsTerminated ∧
      (m.heedAll env es).state = m.state := by
  induction es generalizing m with
  | nil => exact ⟨rfl, rfl, rfl⟩
  | cons x xs ih =>
      obtain ⟨transitions, ended, -, -, state⟩ := heed_frame env m x
      obtain ⟨transitions', ended', state'⟩ := ih (m.heed env x)
      exact ⟨transitions'.trans transitions, ended'.trans ended, state'.trans state⟩

/-- **A turn counts the transition that it is**, and nothing else. -/
theorem note_transitionsTotal (m : Metrics) (e : Entry) :
    (m.note env e).transitionsTotal = m.transitionsTotal + if e.moves then 1 else 0 := by
  have before : (m.noteEnd e).transitionsTotal = m.transitionsTotal := by
    unfold noteEnd
    split <;> rfl
  have performed := (heedAll_frame env (m.noteEnd e) e.effects).1.trans before
  rw [note, noteMove]
  split
  · exact congrArg (· + 1) performed
  · exact performed

/-- **A turn counts the end of the unit that it reports.** -/
theorem note_unitsTerminated (m : Metrics) (e : Entry) :
    (m.note env e).unitsTerminated = m.unitsTerminated + if e.settles then 1 else 0 := by
  have moved (m' : Metrics) : (m'.noteMove e).unitsTerminated = m'.unitsTerminated := by
    unfold noteMove
    split <;> rfl
  rw [note, moved, (heedAll_frame env (m.noteEnd e) e.effects).2.1, noteEnd]
  split <;> rfl

/-- **After a turn the gauge shows the state of the machine**, if it did before. -/
theorem note_state (m : Metrics) (e : Entry) (shown : m.state = e.before.state.code) :
    (m.note env e).state = e.after.state.code := by
  have before : (m.noteEnd e).state = m.state := by
    unfold noteEnd
    split <;> rfl
  rw [note, noteMove]
  split
  · rfl
  next still =>
    have same : e.after.state = e.before.state := by simpa [Entry.moves] using still
    rw [(heedAll_frame env (m.noteEnd e) e.effects).2.2, before, shown, same]

/-! ## Figures that grow turn by turn -/

/-- In each turn the figure grows by what the turn gains, and no other way. -/
structure Accrues (figure : Metrics → Nat) (gain : Surroundings → Entry → Nat) : Prop where
  noted : ∀ env m n e, figure ((m.withReceived n).note env e) = figure m + gain env e
  stuck : ∀ m, figure m.stuck = figure m
  renewed : ∀ m, figure m.renew = figure m

theorem Accrues.close {figure : Metrics → Nat} {gain : Surroundings → Entry → Nat}
    (h : Accrues figure gain) (m : Metrics) (outcome : Outcome) :
    figure (m.close outcome) = figure m := by
  unfold Metrics.close
  split
  · exact h.stuck m
  · rfl

/-- What a turn adds to a figure that counts effects. -/
def performed (counts : Deed → Bool) (env : Surroundings) (e : Entry) : Nat :=
  e.effects.countP fun x => counts ⟨env, x⟩

/-- What a turn adds to a figure that counts events. -/
def handled (counts : Entry → Bool) (_ : Surroundings) (e : Entry) : Nat :=
  if counts e then 1 else 0

/-- A figure of effects that nothing else touches accrues. -/
theorem accrues_of_deeds {figure : Metrics → Nat} {counts : Deed → Bool}
    (one : ∀ env m x, figure (m.heed env x) = figure m + if counts ⟨env, x⟩ then 1 else 0)
    (ended : ∀ m, figure m.unitTerminated = figure m)
    (moved : ∀ m s, figure (m.transition s) = figure m)
    (received : ∀ m n, figure (m.withReceived n) = figure m)
    (stuck : ∀ m, figure m.stuck = figure m) (renewed : ∀ m, figure m.renew = figure m) :
    Accrues figure (performed counts) where
  noted env m n e := Counts.note ⟨one env, ended, moved, received⟩ m n e
  stuck := stuck
  renewed := renewed

theorem accrues_messagesSent : Accrues messagesSent (performed Deed.isDelivery) :=
  accrues_of_deeds (fun _ m x => (heed_deed m x).1) (fun _ => rfl) (fun _ _ => rfl)
    (fun _ _ => rfl) (fun _ => rfl) fun _ => rfl

theorem accrues_messagesDropped : Accrues messagesDropped (performed Deed.isLoss) :=
  accrues_of_deeds (fun _ m x => (heed_deed m x).2.1) (fun _ => rfl) (fun _ _ => rfl)
    (fun _ _ => rfl) (fun _ => rfl) fun _ => rfl

theorem accrues_handOversCompleted : Accrues handOversCompleted (performed Deed.handsOver) :=
  accrues_of_deeds (fun _ m x => (heed_deed m x).2.2.1) (fun _ => rfl) (fun _ _ => rfl)
    (fun _ _ => rfl) (fun _ => rfl) fun _ => rfl

theorem accrues_unitsStarted : Accrues unitsStarted (performed Deed.startsUnit) :=
  accrues_of_deeds (fun _ m x => (heed_deed m x).2.2.2) (fun _ => rfl) (fun _ _ => rfl)
    (fun _ _ => rfl) (fun _ => rfl) fun _ => rfl

theorem accrues_handOverRetries :
    Accrues handOverRetries (performed (Deed.asksAgain .handOverRetry)) :=
  accrues_of_deeds (fun _ m x => heed_retries m x .handOverRetry) (fun _ => rfl) (fun _ _ => rfl)
    (fun _ _ => rfl) (fun _ => rfl) fun _ => rfl

theorem accrues_takeOverRetries :
    Accrues takeOverRetries (performed (Deed.asksAgain .takeOverRetry)) :=
  accrues_of_deeds (fun _ m x => heed_retries m x .takeOverRetry) (fun _ => rfl) (fun _ _ => rfl)
    (fun _ _ => rfl) (fun _ => rfl) fun _ => rfl

theorem accrues_transitionsTotal : Accrues transitionsTotal (handled Entry.moves) where
  noted _ m n e := note_transitionsTotal (m.withReceived n) e
  stuck _ := rfl
  renewed _ := rfl

theorem accrues_unitsTerminated : Accrues unitsTerminated (handled Entry.settles) where
  noted _ m n e := note_unitsTerminated (m.withReceived n) e
  stuck _ := rfl
  renewed _ := rfl

end Metrics

namespace Coordinator

variable {c : Coordinator} {acts : List Act} {figure : Metrics → Nat}
  {gain : Surroundings → Entry → Nat}

/-- What is gained in an act. -/
def Moment.gains (gain : Surroundings → Entry → Nat) (x : Moment) : Nat :=
  match x.act with
  | .turn env => ((x.before.handed env).map (gain env)).getD 0
  | _ => 0

/-- The effects that are performed in an act. -/
def Moment.deeds (x : Moment) : List Deed :=
  match x.act with
  | .turn env => (x.before.handed env).toList.flatMap fun e => e.effects.map (Deed.mk env)
  | _ => []

/-- The effects that were performed in a run. -/
def deeds (c : Coordinator) (acts : List Act) : List Deed :=
  (c.history acts).flatMap Moment.deeds

theorem gains_of_silent {x : Moment} (idle : x.handed = none) : x.gains gain = 0 := by
  obtain ⟨act, d⟩ := x
  cases act with
  | turn env =>
      have none : d.handed env = none := idle
      show ((d.handed env).map (gain env)).getD 0 = 0
      rw [none]
      rfl
  | _ => rfl

theorem gains_of_handed {env : Surroundings} {e : Entry} {act : Act} (is : act = .turn env)
    (hands : c.handed env = some e) : Moment.gains gain ⟨act, c⟩ = gain env e := by
  subst is
  show ((c.handed env).map (gain env)).getD 0 = _
  rw [hands]
  rfl

/-- **In each act a figure grows by what is gained**, also in one with which an instance ends. -/
theorem accrues_apply (h : Metrics.Accrues figure gain) (usable : c.Usable) (act : Act) :
    figure (c.apply act).metrics = figure c.metrics + Moment.gains gain ⟨act, c⟩ := by
  cases apply_course usable act with
  | silent idle machine metrics => rw [gains_of_silent idle, metrics, Nat.add_zero]
  | goesOn is hands going machine metrics => rw [gains_of_handed is hands, metrics, h.noted]
  | returns is hands stops last machine metrics =>
      rw [gains_of_handed is hands, metrics, h.close, h.noted]
  | restarts is hands stuck created metrics =>
      rw [gains_of_handed is hands, metrics, h.renewed, h.close, h.noted]

/-- What adds up what is gained in each act is what the figure has grown by. -/
theorem accrues_run (h : Metrics.Accrues figure gain) (usable : c.Usable) (total : List Act → Nat)
    (zero : total [] = 0)
    (snoc : ∀ acts act,
      total (acts ++ [act]) = total acts + Moment.gains gain ⟨act, c.run acts⟩) :
    figure (c.run acts).metrics = figure c.metrics + total acts := by
  induction acts using List.reverseRecOn with
  | nil =>
      rw [zero]
      rfl
  | append_singleton acts act ih =>
      rw [run_snoc, accrues_apply h (usable.run acts), ih, snoc, Nat.add_assoc]

theorem deeds_snoc (c : Coordinator) (acts : List Act) (act : Act) :
    c.deeds (acts ++ [act]) = c.deeds acts ++ Moment.deeds ⟨act, c.run acts⟩ := by
  rw [deeds, deeds, history_snoc, List.flatMap_append, List.flatMap_singleton]

theorem gains_performed (counts : Deed → Bool) (x : Moment) :
    x.gains (Metrics.performed counts) = x.deeds.countP counts := by
  obtain ⟨act, d⟩ := x
  cases act with
  | turn env =>
      simp only [Moment.gains, Moment.deeds]
      cases d.handed env with
      | none => rfl
      | some e =>
          show e.effects.countP (counts ∘ Deed.mk env) = _
          rw [Option.toList_some, List.flatMap_singleton, List.countP_map]
  | _ => rfl

theorem gains_handled (counts : Entry → Bool) (x : Moment) :
    x.gains (Metrics.handled counts) = x.handed.toList.countP counts := by
  obtain ⟨act, d⟩ := x
  cases act with
  | turn env =>
      simp only [Moment.gains, Moment.handed]
      cases d.handed env with
      | none => rfl
      | some e => exact (List.countP_singleton ..).symm
  | _ => rfl

/-- **A figure that counts effects has counted all that were performed.** -/
theorem tally_deeds {counts : Deed → Bool}
    (h : Metrics.Accrues figure (Metrics.performed counts)) (usable : c.Usable)
    (acts : List Act) :
    figure (c.run acts).metrics = figure c.metrics + (c.deeds acts).countP counts := by
  refine accrues_run h usable (fun acts => (c.deeds acts).countP counts) rfl fun acts act => ?_
  rw [deeds_snoc, List.countP_append, gains_performed]

/-- **A figure that counts events has counted all that were handled.** -/
theorem tally_entries {counts : Entry → Bool}
    (h : Metrics.Accrues figure (Metrics.handled counts)) (usable : c.Usable)
    (acts : List Act) :
    figure (c.run acts).metrics = figure c.metrics + (c.entries acts).countP counts := by
  refine accrues_run h usable (fun acts => (c.entries acts).countP counts) rfl fun acts act => ?_
  rw [entries_snoc, List.countP_append, gains_handled]

/-! ## The gauge -/

/-- The gauge shows the state of the machine. -/
def Shown (c : Coordinator) : Prop := c.metrics.state = c.machine.state.code

theorem shown_apply (h : c.Shown) (usable : c.Usable) (act : Act) : (c.apply act).Shown := by
  have noted {env : Surroundings} {e : Entry} (hands : c.handed env = some e) (received : Nat) :
      ((c.metrics.withReceived received).note env e).state = e.after.state.code := by
    have before : e.before = c.machine := by rw [handed_before hands]
    refine Metrics.note_state (c.metrics.withReceived received) e ?_
    rw [before]
    exact h
  cases apply_course usable act with
  | silent idle machine metrics =>
      rw [Shown, metrics, machine]
      exact h
  | @goesOn _ _ received is hands going machine metrics =>
      rw [Shown, metrics, machine]
      exact noted hands received
  | @returns _ e received is hands stops last machine metrics =>
      have closed (m : Metrics) : (m.close e.turn.outcome).state = m.state := by
        unfold Metrics.close
        split <;> rfl
      rw [Shown, metrics, machine, closed]
      exact noted hands received
  | restarts is hands stuck created metrics =>
      rw [Shown, metrics, Machine.state, (ofSettings_machine created).1]
      rfl

theorem shown_run (h : c.Shown) (usable : c.Usable) (acts : List Act) : (c.run acts).Shown := by
  induction acts using List.reverseRecOn with
  | nil => exact h
  | append_singleton acts act ih =>
      rw [run_snoc]
      exact shown_apply ih (usable.run acts) act

end Coordinator

end ClusterSingleton
