import ClusterSingleton.Coordinator
import ClusterSingleton.Proofs.Timers.Generations

/-!
# Runs of a coordinator

Everything that can happen to a coordinator, one `Act` after another: its own turns, timers that
run out, items that arrive, units that run and end. `step_eq` splits a turn into what happens before
the machine is handed an event and the dispatch of that event; the lemmas after it say what a
dispatch leaves behind.
-/

namespace ClusterSingleton

namespace Coordinator

/-- What can happen to a coordinator. -/
inductive Act : Type where
  /-- It does the next thing that it has to do. -/
  | turn (env : Surroundings)
  /-- The timers that have run out deliver. -/
  | elapse (now : Nat)
  /-- Items arrive from elsewhere. -/
  | arrive (items : List Item)
  /-- The items that were delivered stand in another order. -/
  | reorder (queue : List Item)
  /-- A unit does what it has to do, which may be to end. -/
  | runUnit (now : Nat) (id : UnitId)
  /-- A unit ends, whatever it was doing. -/
  | endUnit (id : UnitId)
  | reapUnit (id : UnitId)
  | tell (message : String)
  /-- It is stopped from outside. -/
  | abort

def apply (c : Coordinator) : Act → Coordinator
  | .turn env => (c.step env).1
  | .elapse now => c.fireTimers now
  | .arrive items =>
      match c.accept items with
      | .ok c => c
      | .error _ => c
  | .reorder queue => c.mapInbox fun b => { b with queue := queue }
  | .runUnit now id => c.runUnit now id
  | .endUnit id => c.endUnit id
  | .reapUnit id => c.reapUnit id
  | .tell message => c.tell message
  | .abort => c.abort

/-- One act of a history and the coordinator that it happened to. -/
structure Moment : Type where
  act : Act
  before : Coordinator

def Moment.after (x : Moment) : Coordinator := x.before.apply x.act

def run (c : Coordinator) (acts : List Act) : Coordinator := acts.foldl apply c

def history (c : Coordinator) : List Act → List Moment
  | [] => []
  | act :: acts => ⟨act, c⟩ :: (c.apply act).history acts

theorem run_append (c : Coordinator) (acts more : List Act) :
    c.run (acts ++ more) = (c.run acts).run more := List.foldl_append ..

theorem run_snoc (c : Coordinator) (acts : List Act) (act : Act) :
    c.run (acts ++ [act]) = (c.run acts).apply act := by
  simp [run]

theorem history_snoc (c : Coordinator) (acts : List Act) (act : Act) :
    c.history (acts ++ [act]) = c.history acts ++ [⟨act, c.run acts⟩] := by
  induction acts generalizing c with
  | nil => rfl
  | cons first rest ih =>
      rw [List.cons_append, history, ih, history]
      rfl

/-- A place in a history is a place in the acts. -/
theorem history_split {c : Coordinator} {acts : List Act} {pre post : List Moment} {x : Moment}
    (h : c.history acts = pre ++ x :: post) :
    ∃ before after, acts = before ++ x.act :: after ∧ pre = c.history before ∧
      x.before = c.run before := by
  induction acts generalizing c pre with
  | nil => simp [history] at h
  | cons act acts ih =>
      cases pre with
      | nil =>
          obtain ⟨rfl, -⟩ := List.cons.inj h
          exact ⟨[], acts, rfl, rfl, rfl⟩
      | cons y pre =>
          obtain ⟨rfl, tail⟩ := List.cons.inj h
          obtain ⟨before, after, rfl, rfl, place⟩ := ih tail
          exact ⟨act :: before, after, rfl, rfl, place⟩

theorem act_mem_of_history {c : Coordinator} {acts : List Act} {x : Moment}
    (h : x ∈ c.history acts) : x.act ∈ acts := by
  obtain ⟨pre, post, place⟩ := List.append_of_mem h
  obtain ⟨before, after, rfl, -⟩ := history_split place
  simp

/-- What has held since something happened holds now. -/
theorem now_of_since {c : Coordinator} {acts : List Act} {happened : Moment → Prop}
    {stays : Coordinator → Prop} (h : Since happened (fun x => stays x.after) (c.history acts)) :
    stays (c.run acts) := by
  induction acts using List.reverseRecOn with
  | nil =>
      obtain ⟨pre, e, post, place, -⟩ := h
      simp [history] at place
  | append_singleton acts act ih =>
      rw [history_snoc, since_snoc] at h
      rw [run_snoc]
      exact h.1

/-! ## Before the machine is handed an event -/

/-- What the machine is handed in the next turn, if anything. -/
def handed (c : Coordinator) (env : Surroundings) : Option Entry :=
  let entry (event : Event) : Entry := ⟨⟨env.now, c.fresh, event⟩, c.machine⟩
  match c.progress with
  | .starting => if c.restartNotifier then some (entry .startNotifier) else none
  | .running =>
      match c.inbox.receive? with
      | some (item, inbox) => ((c.mapInbox fun _ => inbox).interpret env item).2.map entry
      | none => none
  | _ => none

/-- The coordinator in its next turn, before the machine is handed anything. -/
def prepare (c : Coordinator) (env : Surroundings) : Coordinator :=
  match c.progress with
  | .starting =>
      { { c with
          desk := c.desk.start env.now .cleanup .cleanup c.settings.singleton.cleanupInterval
          progress := .running }.publish none false with restartNotifier := false }
  | .running =>
      match c.inbox.receive? with
      | some (item, inbox) => ((c.mapInbox fun _ => inbox).interpret env item).1
      | none => c
  | _ => c

def Moment.handed (x : Moment) : Option Entry :=
  match x.act with
  | .turn env => x.before.handed env
  | _ => none

variable {c : Coordinator} {env : Surroundings}

theorem turn_of_handed {act : Act} {e : Entry} (hands : Moment.handed ⟨act, c⟩ = some e) :
    ∃ env, act = .turn env := by
  cases act <;> first | exact ⟨_, rfl⟩ | cases hands

/-- **A turn hands the machine at most one event.** -/
theorem step_eq :
    c.step env =
      match c.handed env with
      | some e => (c.prepare env).dispatch env e.event
      | none => (c.prepare env, []) := by
  unfold step handed prepare
  cases c.progress with
  | starting =>
      simp only [begin]
      cases c.restartNotifier with
      | true => simp [publish]
      | false => simp [publish]
  | running =>
      cases received : c.inbox.receive? with
      | none => rfl
      | some next =>
          obtain ⟨item, inbox⟩ := next
          simp only [handleItem]
          rcases (c.mapInbox fun _ => inbox).interpret env item with ⟨d, _ | event⟩ <;> rfl
  | finished result => rfl
  | brokeOff => rfl
  | aborted => rfl

theorem handed_before {e : Entry} (h : c.handed env = some e) :
    e = ⟨⟨env.now, c.fresh, e.event⟩, c.machine⟩ := by
  unfold handed at h
  cases hp : c.progress with
  | starting =>
      simp only [hp] at h
      split at h
      · obtain rfl := Option.some.inj h
        rfl
      · cases h
  | running =>
      simp only [hp] at h
      split at h
      · obtain ⟨event, -, rfl⟩ := Option.map_eq_some_iff.mp h
        rfl
      · cases h
  | _ => simp [hp] at h

theorem handed_starting {e : Entry} (starting : c.progress = .starting)
    (h : c.handed env = some e) : e.event = .startNotifier := by
  simp only [handed, starting] at h
  split at h
  · obtain rfl := Option.some.inj h
    rfl
  · cases h

theorem prepare_frame (c : Coordinator) (env : Surroundings) :
    (c.prepare env).machine = c.machine ∧ (c.prepare env).unitCount = c.unitCount ∧
      (c.prepare env).settings = c.settings := by
  unfold prepare
  cases c.progress with
  | starting => exact ⟨rfl, rfl, rfl⟩
  | running =>
      cases c.inbox.receive? with
      | none => exact ⟨rfl, rfl, rfl⟩
      | some next =>
          obtain ⟨item, inbox⟩ := next
          simp only [interpret]
          repeat' split
          all_goals exact ⟨rfl, rfl, rfl⟩
  | _ => exact ⟨rfl, rfl, rfl⟩

/-! ## After the machine was handed an event -/

/-- What no effect changes. -/
theorem perform_frame (c : Coordinator) (env : Surroundings) (x : Effect) :
    (c.perform env x).1.machine = c.machine ∧ (c.perform env x).1.progress = c.progress ∧
      (c.perform env x).1.settings = c.settings := by
  cases x with
  | startNotifier => simp only [perform]; split <;> exact ⟨rfl, rfl, rfl⟩
  | send target message => simp only [perform, post]; split <;> exact ⟨rfl, rfl, rfl⟩
  | _ => exact ⟨rfl, rfl, rfl⟩

theorem performAll_frame (c : Coordinator) (env : Surroundings) (es : List Effect) :
    (c.performAll env es).1.machine = c.machine ∧
      (c.performAll env es).1.progress = c.progress ∧
      (c.performAll env es).1.settings = c.settings := by
  induction es generalizing c with
  | nil => exact ⟨rfl, rfl, rfl⟩
  | cons x xs ih =>
      obtain ⟨machine, progress, settings⟩ := ih (c.perform env x).1
      obtain ⟨machine', progress', settings'⟩ := perform_frame c env x
      exact ⟨machine.trans machine', progress.trans progress', settings.trans settings'⟩

theorem perform_desk (c : Coordinator) (env : Surroundings) (x : Effect) :
    (c.perform env x).1.desk = c.desk.heed env.now x := by
  cases x with
  | startNotifier => simp only [perform]; split <;> rfl
  | send target message => simp only [perform, post]; split <;> rfl
  | _ => rfl

theorem performAll_desk (c : Coordinator) (env : Surroundings) (es : List Effect) :
    (c.performAll env es).1.desk = c.desk.heedAll env.now es := by
  induction es generalizing c with
  | nil => rfl
  | cons x xs ih =>
      rw [TimedInbox.heedAll, List.foldl_cons, ← perform_desk]
      exact ih (c.perform env x).1

/-- The turn of the machine in the dispatch of an event. -/
def answer (c : Coordinator) (env : Surroundings) (event : Event) : Turn :=
  c.machine.handle env.now c.fresh event

theorem noteEnd_frame (c : Coordinator) (event : Event) :
    ∃ metrics, c.noteEnd event = { c with metrics := metrics } := by
  cases event with
  | unitTerminated unit => simp only [noteEnd]; split <;> exact ⟨_, rfl⟩
  | _ => exact ⟨_, rfl⟩

theorem process_frame (c : Coordinator) (env : Surroundings) (event : Event) :
    (c.process env event).1.machine = (c.answer env event).machine ∧
      (c.process env event).1.progress = c.progress ∧
      (c.process env event).1.settings = c.settings ∧
      (c.process env event).1.desk = c.desk.heedAll env.now (c.answer env event).effects ∧
      (c.process env event).2.2 = (c.answer env event).outcome := by
  obtain ⟨metrics, noted⟩ := noteEnd_frame c event
  have desk := performAll_desk
    { c with metrics := metrics, machine := (c.answer env event).machine } env
    (c.answer env event).effects
  obtain ⟨machine, progress, settings⟩ := performAll_frame
    { c with metrics := metrics, machine := (c.answer env event).machine } env
    (c.answer env event).effects
  unfold process
  rw [noted]
  dsimp only
  repeat' split
  all_goals exact ⟨machine, progress, settings, desk, rfl⟩

theorem dispatch_proceed {event : Event} (going : (c.answer env event).outcome = .proceed) :
    (c.dispatch env event).1 = (c.process env event).1 := by
  obtain ⟨-, -, -, -, outcome⟩ := process_frame c env event
  simp [dispatch, proceed, outcome, going]

/-- The end of an instance whose inbox and timers were `desk`: nothing is pending, and either
another instance is about to begin or none will. An instance that breaks off is not concluded. -/
inductive Ended (settings : Settings) (desk : TimedInbox) (c : Coordinator) : Prop where
  | anew (progress : c.progress = .starting) (created : Machine.ofSettings settings = .ok c.machine)
      (same : c.settings = settings) (quiet : c.desk = desk.cancelAll)
  | gone {result : Except Error Unit} (progress : c.progress = .finished result)
      (quiet : c.desk = desk.cancelAll.cancelAll.close)
  | broken (progress : c.progress = .brokeOff) (quiet : c.desk = desk.cancelAll.close)

theorem conclude_frame (c : Coordinator) (result : Except Error Unit) :
    (c.conclude result).1.settings = c.settings ∧
      (c.conclude result).1.desk = c.desk.cancelAll := by
  unfold conclude
  cases result with
  | ok _ => exact ⟨rfl, rfl⟩
  | error e => dsimp only; split <;> exact ⟨rfl, rfl⟩

theorem reset_frame {d : Coordinator} (h : c.reset = .ok d) :
    Machine.ofSettings c.settings = .ok d.machine ∧ d.progress = .starting ∧
      d.settings = c.settings ∧ d.desk = c.desk := by
  unfold reset at h
  cases hm : Machine.ofSettings c.settings with
  | error e => simp [hm, bind, Except.bind] at h
  | ok machine =>
      simp only [hm, bind, Except.bind, pure, Except.pure, Except.ok.injEq] at h
      subst h
      exact ⟨rfl, rfl, rfl, rfl⟩

theorem afterwards_ended (c : Coordinator) (result : Except Error Unit) :
    Ended c.settings c.desk ((c.conclude result).1.afterwards result) := by
  obtain ⟨settings, desk⟩ := conclude_frame c result
  have left (final : Except Error Unit) :
      Ended c.settings c.desk ((c.conclude result).1.leave (.finished final)) :=
    .gone rfl (by rw [← desk]; rfl)
  cases result with
  | ok _ => exact left _
  | error e =>
      unfold afterwards
      dsimp only
      split
      · split
        next d restarted =>
          obtain ⟨created, progress, same, quiet⟩ := reset_frame restarted
          rw [settings] at created same
          exact .anew progress created same (quiet.trans desk)
        next => exact left _
      · exact left _

theorem dispatch_ended (c : Coordinator) (env : Surroundings) {event : Event}
    (stops : (c.answer env event).outcome ≠ .proceed) :
    Ended c.settings (c.desk.heedAll env.now (c.answer env event).effects)
      (c.dispatch env event).1 := by
  obtain ⟨-, -, settings, desk, outcome⟩ := process_frame c env event
  rw [← settings, ← desk]
  unfold dispatch
  dsimp only
  rw [outcome]
  unfold proceed
  cases kind : (c.answer env event).outcome with
  | proceed => exact absurd kind stops
  | stopped => exact afterwards_ended (c.process env event).1 (.ok ())
  | fatal e => exact afterwards_ended (c.process env event).1 (.error e)
  | overflow => exact .broken rfl rfl

/-! ## A turn -/

theorem answer_prepare {e : Entry} (h : c.handed env = some e) :
    (c.prepare env).answer env e.event = e.turn := by
  obtain ⟨machine, unitCount, -⟩ := prepare_frame c env
  rw [handed_before h, answer, fresh, machine, unitCount]
  rfl

theorem prepare_progress (h : c.progress = .starting ∨ c.progress = .running) :
    (c.prepare env).progress = .running := by
  unfold prepare
  rcases h with h | h
  · rw [h]
    rfl
  · rw [h]
    cases c.inbox.receive? with
    | none => exact h
    | some next =>
        obtain ⟨item, inbox⟩ := next
        simp only [interpret]
        repeat' split
        all_goals exact h

theorem progress_of_handed {e : Entry} (h : c.handed env = some e) :
    c.progress = .starting ∨ c.progress = .running := by
  cases hp : c.progress with
  | starting => exact Or.inl rfl
  | running => exact Or.inr rfl
  | _ => simp [handed, hp] at h

theorem step_idle (h : c.handed env = none) : (c.step env).1 = c.prepare env := by
  rw [step_eq, h]

theorem step_proceed {e : Entry} (h : c.handed env = some e) (going : e.turn.outcome = .proceed) :
    (c.step env).1.machine = e.after ∧ (c.step env).1.progress = .running ∧
      (c.step env).1.settings = c.settings ∧
      (c.step env).1.desk = (c.prepare env).desk.heedAll env.now e.effects := by
  obtain ⟨-, -, same⟩ := prepare_frame c env
  obtain ⟨machine, progress, settings, desk, -⟩ := process_frame (c.prepare env) env e.event
  rw [answer_prepare h] at machine desk
  have step : (c.step env).1 = ((c.prepare env).process env e.event).1 := by
    rw [step_eq, h]
    exact dispatch_proceed (by rw [answer_prepare h]; exact going)
  rw [step]
  exact ⟨machine, progress.trans (prepare_progress (progress_of_handed h)), settings.trans same, desk⟩

theorem step_ended {e : Entry} (h : c.handed env = some e) (stops : e.turn.outcome ≠ .proceed) :
    Ended c.settings ((c.prepare env).desk.heedAll env.now e.effects) (c.step env).1 := by
  obtain ⟨-, -, same⟩ := prepare_frame c env
  have stops' : ((c.prepare env).answer env e.event).outcome ≠ .proceed := by
    rw [answer_prepare h]
    exact stops
  have ended := dispatch_ended (c.prepare env) env stops'
  rw [answer_prepare h, same] at ended
  rw [step_eq, h]
  exact ended

/-- Whether the act leaves the instance where it is. -/
def Act.isOutside : Act → Bool
  | .turn _ => false
  | .abort => false
  | _ => true

/-- Whatever arrives touches nothing but the inbox. -/
theorem arrive_eq (c : Coordinator) (items : List Item) :
    ∃ inbox, c.apply (.arrive items) = c.mapInbox fun _ => inbox := by
  simp only [apply, accept]
  split
  next d accepted =>
    split at accepted
    · cases accepted
    · exact ⟨_, (Except.ok.inj accepted).symm⟩
  next => exact ⟨c.inbox, rfl⟩

theorem apply_frame {act : Act} (outside : act.isOutside = true) :
    (c.apply act).machine = c.machine ∧ (c.apply act).progress = c.progress ∧
      (c.apply act).desk.timers.bare = c.desk.timers.bare := by
  cases act with
  | turn env => cases outside
  | abort => cases outside
  | elapse now => exact ⟨rfl, rfl, (TimedInbox.fire_frame _).1⟩
  | arrive items =>
      obtain ⟨inbox, same⟩ := arrive_eq c items
      rw [same]
      exact ⟨rfl, rfl, rfl⟩
  | tell message =>
      simp only [apply, tell]
      split <;> exact ⟨rfl, rfl, rfl⟩
  | _ => exact ⟨rfl, rfl, rfl⟩

/-- A coordinator that is stopped from outside has no timer left, unless it was finished before. -/
theorem abort_cases :
    c.progress.isFinished = true ∧ c.abort = c ∨
      c.abort.progress = .aborted ∧ c.abort.desk = c.desk.cancelAll.close := by
  unfold abort
  cases done : c.progress.isFinished with
  | true => exact Or.inl ⟨rfl, rfl⟩
  | false => exact Or.inr ⟨rfl, rfl⟩

/-! ## Soundness -/

theorem create_eq {settings : Settings} {supervisor : Supervisor} {restarts : Nat}
    (created : create settings supervisor restarts = .ok c) :
    ∃ m, Machine.ofSettings settings = .ok m ∧
      c = ⟨settings, m, .empty settings.singleton.inboxCapacity, supervisor, 0, false, false, false,
        .initial, .zero, restarts, .starting⟩ := by
  unfold create at created
  cases made : Machine.ofSettings settings with
  | error e => simp [made, bind, Except.bind] at created
  | ok machine =>
      simp only [made, bind, Except.bind] at created
      split at created
      · exact ⟨machine, rfl, (Except.ok.inj created).symm⟩
      · cases created

theorem create_frame {settings : Settings} {supervisor : Supervisor} {restarts : Nat}
    (created : create settings supervisor restarts = .ok c) :
    c.progress = .starting ∧ Machine.ofSettings settings = .ok c.machine ∧
      c.desk = .empty settings.singleton.inboxCapacity := by
  obtain ⟨m, made, rfl⟩ := create_eq created
  exact ⟨rfl, made, rfl⟩

theorem ofSettings_machine {settings : Settings} {m : Machine}
    (h : Machine.ofSettings settings = .ok m) : m.phase = .start ∧ m.terminated = false := by
  unfold Machine.ofSettings at h
  cases hv : settings.validate with
  | error e => simp [hv, bind, Except.bind] at h
  | ok _ =>
      cases hl : settings.retryLimits with
      | error e => simp [hv, hl, bind, Except.bind] at h
      | ok limits =>
          simp only [hv, hl, bind, Except.bind, pure, Except.pure, Except.ok.injEq] at h
          subst h
          exact ⟨rfl, rfl⟩

/-- A machine that is about to begin is in `start`, and one that runs is not terminated. -/
def Sound (c : Coordinator) : Prop :=
  (c.progress = .starting → c.machine.phase = .start ∧ c.machine.terminated = false) ∧
    (c.progress = .running → c.machine.terminated = false)

theorem create_sound {settings : Settings} {supervisor : Supervisor} {restarts : Nat}
    (created : create settings supervisor restarts = .ok c) : c.Sound := by
  obtain ⟨starting, made, -⟩ := create_frame created
  refine ⟨fun _ => ofSettings_machine made, fun running => ?_⟩
  cases starting.symm.trans running

theorem Sound.of_same {d : Coordinator} (h : c.Sound) (machine : d.machine = c.machine)
    (progress : d.progress = c.progress) : d.Sound := by
  unfold Sound
  rw [machine, progress]
  exact h

theorem step_sound (h : c.Sound) (env : Surroundings) : (c.step env).1.Sound := by
  cases handing : c.handed env with
  | none =>
      have machine := (prepare_frame c env).1
      rw [step_idle handing]
      cases hp : c.progress with
      | starting =>
          rw [Sound, prepare_progress (Or.inl hp), machine]
          exact ⟨nofun, fun _ => (h.1 hp).2⟩
      | running =>
          rw [Sound, prepare_progress (Or.inr hp), machine]
          exact ⟨nofun, fun _ => h.2 hp⟩
      | _ => exact h.of_same machine (by simp [prepare, hp])
  | some e =>
      by_cases going : e.turn.outcome = .proceed
      · obtain ⟨machine, progress, -⟩ := step_proceed handing going
        have alive := Entry.proceed_iff.mp going
        rw [Sound, machine, progress]
        exact ⟨nofun, fun _ => alive⟩
      · cases step_ended handing going with
        | anew progress created =>
            rw [Sound, progress]
            exact ⟨fun _ => ofSettings_machine created, nofun⟩
        | gone progress | broken progress =>
            rw [Sound, progress]
            exact ⟨nofun, nofun⟩

theorem apply_sound (h : c.Sound) (act : Act) : (c.apply act).Sound := by
  cases act with
  | turn env => exact step_sound h env
  | abort =>
      rcases abort_cases (c := c) with ⟨-, same⟩ | ⟨progress, -⟩
      · rw [apply, same]
        exact h
      · rw [apply, Sound, progress]
        exact ⟨nofun, nofun⟩
  | _ => exact h.of_same (apply_frame rfl).1 (apply_frame rfl).2.1

theorem sound_run (sound : c.Sound) (acts : List Act) : (c.run acts).Sound := by
  induction acts using List.reverseRecOn with
  | nil => exact sound
  | append_singleton acts act ih =>
      rw [run_snoc]
      exact apply_sound ih act

/-- Only a machine that runs is handed anything. -/
theorem running_of_handed {e : Entry} (sound : c.Sound) (hands : c.handed env = some e) :
    e.before.terminated = false := by
  rw [handed_before hands]
  rcases progress_of_handed hands with starting | running
  · exact (sound.1 starting).2
  · exact sound.2 running

end Coordinator

end ClusterSingleton
