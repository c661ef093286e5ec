import ClusterSingleton.Proofs.Coordinator.Units
import ClusterSingleton.Proofs.Timers.Pending

/-!
# The course of an instance

What an act does with the instance of a coordinator, and with its metrics. `apply_course` has one case
each for an act in which the machine is handed nothing, for one after which the instance goes on, and
for the two ways in which it can end.
-/

namespace ClusterSingleton

/-- Whether an instance that ends so is stuck. -/
def Outcome.isStuck : Outcome → Bool
  | fatal e => e.isStuck
  | _ => false

/-! ## The metrics of a turn -/

/-- The step changes the state. -/
def Entry.moves (e : Entry) : Bool := decide (e.after.state ≠ e.before.state)

/-- The step reports the end of the unit that the machine takes for running. -/
def Entry.settles (e : Entry) : Bool :=
  match e.event with
  | .unitTerminated u => decide (e.before.phase.runningUnit? = some u)
  | _ => false

namespace Metrics

variable {m : Metrics} {env : Surroundings}

/-- The metrics after an effect. -/
def heed (env : Surroundings) (m : Metrics) : Effect → Metrics
  | .send target message =>
      if env.reaches target then
        if message = .handOverDone then m.messageSent.handOverCompleted else m.messageSent
      else m.messageDropped
  | .startUnit _ => m.unitStarted
  | .startTimer _ event _ => Coordinator.countRetry m event
  | _ => m

def heedAll (env : Surroundings) (m : Metrics) (es : List Effect) : Metrics := es.foldl (heed env) m

/-- The metrics after the end of a unit was counted, if the step reports one. -/
def noteEnd (m : Metrics) (e : Entry) : Metrics := if e.settles then m.unitTerminated else m

/-- The metrics after the transition was counted, if the step is one. -/
def noteMove (m : Metrics) (e : Entry) : Metrics :=
  if e.moves then m.transition e.after.state else m

/-- The metrics after the machine was handed an event. -/
def note (env : Surroundings) (m : Metrics) (e : Entry) : Metrics :=
  ((m.noteEnd e).heedAll env e.effects).noteMove e

/-- The metrics after an instance has come to its end. -/
def close (m : Metrics) (outcome : Outcome) : Metrics := if outcome.isStuck then m.stuck else m

/-- The metrics after another instance was prepared. -/
def renew (m : Metrics) : Metrics := m.restarted.setState .start

/-- The same metrics with another number of messages received. -/
def withReceived (m : Metrics) (received : Nat) : Metrics := { m with messagesReceived := received }

/-- What no effect counts. -/
theorem heed_frame (env : Surroundings) (m : Metrics) (x : Effect) :
    (m.heed env x).transitionsTotal = m.transitionsTotal ∧
      (m.heed env x).unitsTerminated = m.unitsTerminated ∧
      (m.heed env x).stuckTotal = m.stuckTotal ∧ (m.heed env x).restartsTotal = m.restartsTotal ∧
      (m.heed env x).state = m.state := by
  cases x with
  | send target message =>
      simp only [heed]
      repeat' split
      all_goals exact ⟨rfl, rfl, rfl, rfl, rfl⟩
  | startTimer key event after =>
      cases event with
      | handOverRetry count | takeOverRetry count =>
          simp only [heed, Coordinator.countRetry]
          split <;> exact ⟨rfl, rfl, rfl, rfl, rfl⟩
      | _ => exact ⟨rfl, rfl, rfl, rfl, rfl⟩
  | _ => exact ⟨rfl, rfl, rfl, rfl, rfl⟩

/-- The figure counts some effects, and nothing else that happens in a turn. -/
structure Counts (env : Surroundings) (figure : Metrics → Nat) (counts : Effect → Bool) :
    Prop where
  one : ∀ m x, figure (m.heed env x) = figure m + if counts x then 1 else 0
  ended : ∀ m, figure m.unitTerminated = figure m
  moved : ∀ m s, figure (m.transition s) = figure m
  received : ∀ m n, figure (m.withReceived n) = figure m

theorem Counts.heedAll {figure : Metrics → Nat} {counts : Effect → Bool}
    (h : Counts env figure counts) (m : Metrics) (es : List Effect) :
    figure (m.heedAll env es) = figure m + es.countP counts := by
  induction es generalizing m with
  | nil => rfl
  | cons x xs ih =>
      show figure ((m.heed env x).heedAll env xs) = _
      rw [ih, h.one, List.countP_cons]
      omega

/-- **In a turn a figure grows by what it counts of its effects.** -/
theorem Counts.note {figure : Metrics → Nat} {counts : Effect → Bool}
    (h : Counts env figure counts) (m : Metrics) (n : Nat) (e : Entry) :
    figure ((m.withReceived n).note env e) = figure m + e.effects.countP counts := by
  have ended : figure ((m.withReceived n).noteEnd e) = figure m := by
    unfold noteEnd
    split
    · exact (h.ended _).trans (h.received m n)
    · exact h.received m n
  have moved (m' : Metrics) : figure (m'.noteMove e) = figure m' := by
    unfold noteMove
    split
    · exact h.moved m' _
    · rfl
  rw [Metrics.note, moved, h.heedAll, ended]

end Metrics

namespace Coordinator

variable {c : Coordinator} {env : Surroundings}

theorem perform_metrics (c : Coordinator) (env : Surroundings) (x : Effect) :
    (c.perform env x).1.metrics = c.metrics.heed env x := by
  cases x with
  | startNotifier =>
      simp only [perform]
      split <;> rfl
  | send target message =>
      simp only [perform, post, Metrics.heed]
      split <;> rfl
  | _ => rfl

theorem performAll_metrics (c : Coordinator) (env : Surroundings) (es : List Effect) :
    (c.performAll env es).1.metrics = c.metrics.heedAll env es := by
  induction es generalizing c with
  | nil => rfl
  | cons x xs ih =>
      show ((c.perform env x).1.performAll env xs).1.metrics = _
      rw [ih, perform_metrics]
      rfl

theorem noteEnd_metrics (c : Coordinator) (env : Surroundings) (event : Event) :
    (c.noteEnd event).metrics = c.metrics.noteEnd ⟨⟨env.now, c.fresh, event⟩, c.machine⟩ := by
  cases event with
  | unitTerminated u =>
      simp only [noteEnd, Metrics.noteEnd, Entry.settles]
      split <;> simp_all
  | _ => rfl

theorem process_metrics (c : Coordinator) (env : Surroundings) (event : Event) :
    (c.process env event).1.metrics =
      c.metrics.note env ⟨⟨env.now, c.fresh, event⟩, c.machine⟩ := by
  obtain ⟨metrics, same⟩ := noteEnd_frame c event
  have noted : metrics = c.metrics.noteEnd ⟨⟨env.now, c.fresh, event⟩, c.machine⟩ := by
    rw [← noteEnd_metrics, same]
  have performed := performAll_metrics
    { c with metrics := metrics, machine := (c.answer env event).machine } env
    (c.answer env event).effects
  have shown (d : Coordinator) (outcome : Outcome) :
      (if outcome = .proceed then d.publish none false else d).metrics = d.metrics := by
    split <;> rfl
  unfold process
  rw [same]
  dsimp only
  rw [shown, Metrics.note, Metrics.noteMove, ← noted]
  split
  next moved =>
    have moves : Entry.moves ⟨⟨env.now, c.fresh, event⟩, c.machine⟩ = true := decide_eq_true moved
    rw [moves]
    exact congrArg (Metrics.transition · _) performed
  next still =>
    have stays : Entry.moves ⟨⟨env.now, c.fresh, event⟩, c.machine⟩ = false := decide_eq_false still
    rw [stays]
    exact performed

/-- What a coordinator has received when its machine is handed an event is all that the metrics know
before it. -/
theorem prepare_metrics (c : Coordinator) (env : Surroundings) :
    ∃ received, (c.prepare env).metrics = c.metrics.withReceived received := by
  unfold prepare
  cases c.progress with
  | running =>
      cases c.inbox.receive? with
      | none => exact ⟨_, rfl⟩
      | some next =>
          obtain ⟨item, inbox⟩ := next
          simp only [interpret]
          repeat' split
          all_goals exact ⟨_, rfl⟩
  | _ => exact ⟨_, rfl⟩

theorem prepare_metrics_idle (idle : c.handed env = none) :
    (c.prepare env).metrics = c.metrics := by
  unfold handed at idle
  unfold prepare
  cases progress : c.progress with
  | running =>
      rw [progress] at idle
      cases received : c.inbox.receive? with
      | none => rfl
      | some next =>
          obtain ⟨item, inbox⟩ := next
          cases item with
          | timer key g event =>
              simp only [interpret]
              repeat' split
              all_goals rfl
          | _ => simp [received, interpret] at idle
  | _ => rfl

/-! ## How an instance ends -/

/-- The instance is stuck, and there is a restart left. -/
def StuckWithin (outcome : Outcome) (budget : Nat) : Prop := outcome.isStuck = true ∧ 0 < budget

/-- A new instance is prepared exactly if the last one is stuck and there is a restart left; the
settings make a machine once more. -/
theorem proceed_anew {outcome : Outcome} (stuck : StuckWithin outcome c.restartsLeft)
    (usable : c.Usable) :
    (c.proceed outcome).1.progress = .starting ∧
      (c.proceed outcome).1.metrics = (c.metrics.close outcome).renew := by
  obtain ⟨m, made⟩ := usable
  cases outcome with
  | fatal e =>
      obtain ⟨isStuck, within⟩ : e.isStuck = true ∧ 0 < c.restartsLeft := stuck
      have again : e.isStuck = true ∧ 0 < (c.conclude (.error e)).1.restartsLeft := by
        rw [(conclude_units c (.error e)).2.1]
        exact ⟨isStuck, within⟩
      rw [← (conclude_frame c (.error e)).1] at made
      simp only [proceed, afterwards, if_pos again, reset, made]
      simp only [conclude, Metrics.close, Outcome.isStuck, isStuck, if_true]
      exact ⟨rfl, rfl⟩
  | _ => cases stuck.1

theorem proceed_gone {outcome : Outcome} (stops : outcome ≠ .proceed)
    (last : ¬ StuckWithin outcome c.restartsLeft) :
    (c.proceed outcome).1.progress = outcome.final ∧
      (c.proceed outcome).1.metrics = c.metrics.close outcome := by
  cases outcome with
  | fatal e =>
      have done : ¬ (e.isStuck = true ∧ 0 < (c.conclude (.error e)).1.restartsLeft) := by
        rw [(conclude_units c (.error e)).2.1]
        exact last
      simp only [proceed, afterwards, if_neg done]
      refine ⟨rfl, ?_⟩
      show (c.conclude (.error e)).1.metrics = c.metrics.close (.fatal e)
      simp only [conclude]
      split
      next stuck => exact (if_pos stuck).symm
      next other => exact (if_neg other).symm
  | proceed => exact absurd rfl stops
  | _ => exact ⟨rfl, rfl⟩

theorem process_prepared {e : Entry} (hands : c.handed env = some e) :
    ∃ received, ((c.prepare env).process env e.event).1.metrics =
      (c.metrics.withReceived received).note env e := by
  obtain ⟨received, heard⟩ := prepare_metrics c env
  obtain ⟨machine, unitCount, -⟩ := prepare_frame c env
  refine ⟨received, ?_⟩
  rw [process_metrics, heard, handed_before hands, fresh, fresh, machine, unitCount]

theorem step_metrics {e : Entry} (hands : c.handed env = some e)
    (going : e.turn.outcome = .proceed) :
    ∃ received, (c.step env).1.metrics = (c.metrics.withReceived received).note env e := by
  obtain ⟨received, noted⟩ := process_prepared hands
  refine ⟨received, ?_⟩
  rw [← noted, step_eq, hands]
  dsimp only
  rw [dispatch_proceed (by rw [answer_prepare hands]; exact going)]

/-- What a turn leaves behind that ends an instance: how far the coordinator is, and its metrics. -/
theorem step_stops {e : Entry} (hands : c.handed env = some e) (stops : e.turn.outcome ≠ .proceed)
    (usable : c.Usable) :
    ∃ received,
      let closed := ((c.metrics.withReceived received).note env e).close e.turn.outcome
      (StuckWithin e.turn.outcome c.restartsLeft →
        (c.step env).1.progress = .starting ∧ (c.step env).1.metrics = closed.renew) ∧
      (¬ StuckWithin e.turn.outcome c.restartsLeft →
        (c.step env).1.progress = e.turn.outcome.final ∧ (c.step env).1.metrics = closed) := by
  obtain ⟨received, noted⟩ := process_prepared hands
  -- the instance when the machine has answered
  let d := ((c.prepare env).process env e.event).1
  have step : (c.step env).1 = (d.proceed e.turn.outcome).1 := by
    rw [step_eq, hands]
    dsimp only
    rw [dispatch_eq, answer_prepare hands]
  have left : d.restartsLeft = c.restartsLeft :=
    (process_units _ _ _).2.trans (prepare_units c env).2
  have usable' : d.Usable := by
    have same : d.settings = c.settings :=
      (process_frame _ _ _).2.2.1.trans (prepare_frame c env).2.2
    rw [Usable, same]
    exact usable
  refine ⟨received, ?_⟩
  rw [step, ← noted, ← left]
  exact ⟨fun stuck => proceed_anew stuck usable', proceed_gone stops⟩

/-! ## Any act -/

/-- What becomes of an instance in an act. -/
inductive Course (c : Coordinator) (act : Act) : Prop where
  /-- Its machine is handed nothing. -/
  | silent (idle : Moment.handed ⟨act, c⟩ = none)
      (machine : (c.apply act).machine = c.machine)
      (metrics : (c.apply act).metrics = c.metrics)
      (budget : (c.apply act).restartsLeft = c.restartsLeft)
      (progress : (c.apply act).progress = c.progress ∨
        c.progress.isFinished = false ∧ (c.apply act).progress.isFinished = false)
  /-- It goes on after an event. -/
  | goesOn {env : Surroundings} {e : Entry} {received : Nat} (is : act = .turn env)
      (hands : c.handed env = some e) (going : e.turn.outcome = .proceed)
      (machine : (c.apply act).machine = e.after)
      (metrics : (c.apply act).metrics = (c.metrics.withReceived received).note env e)
      (budget : (c.apply act).restartsLeft = c.restartsLeft)
      (progress : (c.apply act).progress = .running)
  /-- It is the last one. -/
  | returns {env : Surroundings} {e : Entry} {received : Nat} (is : act = .turn env)
      (hands : c.handed env = some e) (stops : e.turn.outcome ≠ .proceed)
      (last : ¬ StuckWithin e.turn.outcome c.restartsLeft)
      (machine : (c.apply act).machine = e.after)
      (metrics : (c.apply act).metrics =
        ((c.metrics.withReceived received).note env e).close e.turn.outcome)
      (budget : (c.apply act).restartsLeft = c.restartsLeft)
      (progress : (c.apply act).progress = e.turn.outcome.final)
  /-- It is stuck, and another one is about to begin. -/
  | restarts {env : Surroundings} {e : Entry} {received : Nat} (is : act = .turn env)
      (hands : c.handed env = some e) (stuck : StuckWithin e.turn.outcome c.restartsLeft)
      (created : Machine.ofSettings c.settings = .ok (c.apply act).machine)
      (metrics : (c.apply act).metrics =
        (((c.metrics.withReceived received).note env e).close e.turn.outcome).renew)
      (budget : (c.apply act).restartsLeft + 1 = c.restartsLeft)
      (progress : (c.apply act).progress = .starting)
      (stopped : (c.apply act).supervisor = (c.supervisor.heedAll e.effects).abortAll)
      (quiet : ∀ k, (c.apply act).desk.timers.current? k = none)

theorem step_course (usable : c.Usable) (env : Surroundings) : Course c (.turn env) := by
  cases handing : c.handed env with
  | none =>
      have step : c.apply (.turn env) = c.prepare env := step_idle handing
      refine .silent handing ?_ ?_ ?_ ?_
      · rw [step]
        exact (prepare_frame c env).1
      · rw [step]
        exact prepare_metrics_idle handing
      · rw [step]
        exact (prepare_units c env).2
      · rw [step]
        cases progress : c.progress with
        | starting => exact Or.inr ⟨rfl, by rw [prepare_progress (Or.inl progress)]; rfl⟩
        | running => exact Or.inl (prepare_progress (Or.inr progress))
        | _ => exact Or.inl (by simp [prepare, progress])
  | some e =>
      by_cases going : e.turn.outcome = .proceed
      · obtain ⟨machine, progress, -, -⟩ := step_proceed handing going
        obtain ⟨received, metrics⟩ := step_metrics handing going
        exact .goesOn rfl handing going machine metrics (step_units handing going).2 progress
      · obtain ⟨received, anew, gone⟩ := step_stops handing going usable
        have concluded := step_concluded handing going usable
        by_cases stuck : StuckWithin e.turn.outcome c.restartsLeft
        · obtain ⟨progress, metrics⟩ := anew stuck
          cases concluded with
          | gone final => exact absurd (final.symm.trans progress) (Outcome.final_ne_starting _)
          | anew _ stopped spent =>
              cases step_ended handing going with
              | gone final | broken final => cases progress.symm.trans final
              | anew _ created _ quiet =>
                  refine .restarts rfl handing stuck created metrics spent progress stopped ?_
                  intro k
                  rw [apply, quiet]
                  rfl
        · obtain ⟨progress, metrics⟩ := gone stuck
          cases concluded with
          | anew starting =>
              exact absurd (progress.symm.trans starting) (Outcome.final_ne_starting _)
          | gone _ _ machine same =>
              exact .returns rfl handing going stuck machine metrics same progress

theorem arrive_metrics (c : Coordinator) (items : List Item) :
    (c.apply (.arrive items)).metrics = c.metrics := by
  obtain ⟨inbox, same⟩ := arrive_eq c items
  rw [same]
  rfl

/-- **Every act is one of the four.** -/
theorem apply_course (usable : c.Usable) (act : Act) : Course c act := by
  cases act with
  | turn env => exact step_course usable env
  | arrive items =>
      exact .silent rfl (apply_frame rfl).1 (arrive_metrics c items) (arrive_units c items).2
        (Or.inl (apply_frame rfl).2.1)
  | tell message =>
      refine .silent rfl (apply_frame rfl).1 ?_ ?_ (Or.inl (apply_frame rfl).2.1)
      · simp only [apply, tell]
        split <;> rfl
      · simp only [apply, tell]
        split <;> rfl
  | abort =>
      cases done : c.progress.isFinished with
      | true =>
          have same : c.apply .abort = c := if_pos done
          refine .silent rfl ?_ ?_ ?_ (Or.inl ?_) <;> rw [same]
      | false =>
          have left : c.apply .abort = c.vanish .aborted := if_neg (by simp [done])
          refine .silent rfl ?_ ?_ ?_ (Or.inr ⟨done, ?_⟩) <;> rw [left] <;> rfl
  | _ => exact .silent rfl rfl rfl rfl (Or.inl rfl)

/-- No act changes the settings. -/
theorem run_settings (c : Coordinator) (acts : List Act) : (c.run acts).settings = c.settings := by
  induction acts using List.reverseRecOn with
  | nil => rfl
  | append_singleton acts act ih => rw [run_snoc, apply_settings, ih]

theorem Usable.run (usable : c.Usable) (acts : List Act) : (c.run acts).Usable := by
  rw [Usable, run_settings]
  exact usable

/-! ## Where it begins -/

theorem ofSettings_eq {settings : Settings} {m : Machine}
    (made : Machine.ofSettings settings = .ok m) :
    ∃ limits, settings.retryLimits = .ok limits ∧
      m = .create settings.node.address limits settings.singleton.retryInterval
        settings.removalMargin settings.singleton.removedTtl := by
  unfold Machine.ofSettings at made
  cases valid : settings.validate with
  | error e => simp [valid, bind, Except.bind] at made
  | ok _ =>
      cases derived : settings.retryLimits with
      | error e => simp [valid, derived, bind, Except.bind] at made
      | ok limits =>
          simp only [valid, derived, bind, Except.bind, pure, Except.pure, Except.ok.injEq] at made
          exact ⟨limits, rfl, made.symm⟩

theorem create_begins {settings : Settings} {supervisor : Supervisor} {n : Nat}
    (created : create settings supervisor n = .ok c) :
    c.settings = settings ∧ c.metrics = .zero := by
  obtain ⟨m, made, rfl⟩ := create_eq created
  exact ⟨rfl, rfl⟩

end Coordinator

end ClusterSingleton
