import ClusterSingleton.Proofs.Timers.Pending

/-!
# The discipline of the timers

Between two turns of a coordinator its cleanup is pending, and the timer of its state, unless the
hand-over was promised; everything else is cancelled. So whatever fire still counts when it is
looked at was started in the stay that it reaches.
-/

namespace ClusterSingleton

/-- Whether a state has use for a timer. -/
def TimerKey.RunsIn (key : TimerKey) (s : State) : Prop := key = .cleanup ∨ s.timer? = some key

namespace Coordinator

/-! ## What is said of a run -/

/-- The instance runs, and its state has use for the timer. -/
def Awaits (k : TimerKey) (c : Coordinator) : Prop :=
  c.progress = .running ∧ k.RunsIn c.machine.state

namespace Moment

/-- The timer was started with this generation. -/
def Starts (k : TimerKey) (g : Nat) (x : Moment) : Prop :=
  x.before.desk.timers.generation < g ∧ x.after.desk.timers.current? k = some g

/-- The machine was handed the promise of the hand-over that it waits for. -/
def Promises (x : Moment) : Prop := ∃ e, x.handed = some e ∧ e.before.IsPromised e.event

end Moment

/-- The hand-over was promised in the present stay. -/
def Promised (log : List Moment) : Prop :=
  Since Moment.Promises (fun x => x.after.Awaits .handOverRetry) log

theorem promised_snoc {log : List Moment} {x : Moment} :
    Promised (log ++ [x]) ↔ x.after.Awaits .handOverRetry ∧ (x.Promises ∨ Promised log) :=
  since_snoc

theorem not_promised_cleanup {log : List Moment} :
    ¬ (TimerKey.cleanup = .handOverRetry ∧ Promised log) := by
  rintro ⟨⟨⟩, -⟩

/-- What is pending is what the state has use for, but for a hand-over that was promised. -/
def Tidy (log : List Moment) (c : Coordinator) : Prop :=
  ∀ k, c.desk.timers.isActive k = true ↔ c.Awaits k ∧ ¬ (k = .handOverRetry ∧ Promised log)

/-- What holds of a coordinator with a given history. -/
structure Disciplined (log : List Moment) (c : Coordinator) : Prop where
  sound : c.Sound
  genuine : c.desk.Genuine
  tidy : Tidy log c
  since : ∀ k g, c.desk.timers.current? k = some g →
    Since (Moment.Starts k g) (fun x => x.after.Awaits k) log

variable {c : Coordinator} {env : Surroundings}

/-! ## One act -/

variable {log : List Moment}

/-- When an instance begins, its cleanup is the only timer that is pending. -/
theorem Disciplined.begun (h : Disciplined log c) (starting : c.progress = .starting)
    (env : Surroundings) (k : TimerKey) :
    (c.prepare env).desk.timers.isActive k = true ↔ k = .cleanup := by
  have begun : (c.prepare env).desk.timers = c.desk.timers.start env.now .cleanup .cleanup
      c.settings.singleton.cleanupInterval := by
    simp [prepare, starting, publish, TimedInbox.start]
  have nothing : ¬ c.desk.timers.isActive k = true := by
    rw [h.tidy, Awaits, starting]
    rintro ⟨⟨⟨⟩, -⟩, -⟩
  rw [begun, Timers.isActive, Timers.current?_start]
  by_cases sweep : k = .cleanup
  · simp [sweep]
  · rw [if_neg sweep]
    exact iff_of_false nothing sweep

theorem Disciplined.noTimer (h : Disciplined log c) (starting : c.progress = .starting) :
    c.machine.state.timer? = none := by
  rw [Machine.state, (h.sound.1 starting).1]
  rfl

/-- The pending timers when the machine is handed an event, against its state. -/
theorem Disciplined.prepared {e : Entry} (h : Disciplined log c) (hands : c.handed env = some e) :
    (c.prepare env).desk.timers.isActive .cleanup = true ∧ ∀ k, k ≠ .cleanup →
      ((c.prepare env).desk.timers.isActive k = true → c.machine.state.timer? = some k) ∧
      (c.machine.state.timer? = some k →
        ((c.prepare env).desk.timers.isActive k = true ∨ (∃ n, e.event = k.fire n) ↔
          ¬ (k = .handOverRetry ∧ Promised log))) := by
  rcases progress_of_handed hands with starting | running
  · refine ⟨(h.begun starting env _).mpr rfl, fun k retry => ⟨fun pending => ?_, ?_⟩⟩
    · exact absurd ((h.begun starting env k).mp pending) retry
    · rw [h.noTimer starting]
      rintro ⟨⟩
  · have heard := hearing env running h.genuine
    have runs (k : TimerKey) (place : c.machine.state.timer? = some k) : c.Awaits k :=
      ⟨running, Or.inr place⟩
    have swept : c.desk.timers.isActive .cleanup = true :=
      (h.tidy _).mpr ⟨⟨running, Or.inl rfl⟩, not_promised_cleanup⟩
    refine ⟨heard.cleanup swept, fun k retry => ⟨fun pending => ?_, fun place => ?_⟩⟩
    · obtain ⟨⟨-, place⟩, -⟩ :=
        (h.tidy k).mp ((heard.isActive_iff hands retry).mp (Or.inl pending))
      exact place.resolve_left retry
    · rw [heard.isActive_iff hands retry, h.tidy k]
      exact and_iff_right (runs k place)

/-- An act that leaves the instance and its pending timers as they are. -/
theorem Disciplined.tidy_same {act : Act} (h : Disciplined log c)
    (machine : (c.apply act).machine = c.machine) (progress : (c.apply act).progress = c.progress)
    (timers : (c.apply act).desk.timers.bare = c.desk.timers.bare)
    (silent : ¬ Moment.Promises ⟨act, c⟩) : Tidy (log ++ [⟨act, c⟩]) (c.apply act) := by
  intro k
  have awaits (k : TimerKey) : (c.apply act).Awaits k ↔ c.Awaits k := by
    rw [Awaits, Awaits, machine, progress]
  rw [Timers.isActive, Timers.current?_of_bare timers, awaits]
  refine (h.tidy k).trans (and_congr_right fun here => not_congr (and_congr_right fun hk => ?_))
  subst hk
  rw [promised_snoc, or_iff_right silent]
  exact (and_iff_right ((awaits _).mpr here)).symm

/-- An act after which no instance runs and nothing is pending. -/
theorem tidy_over {act : Act} (halted : (c.apply act).progress ≠ .running)
    (quiet : ∀ k, (c.apply act).desk.timers.current? k = none) :
    Tidy (log ++ [⟨act, c⟩]) (c.apply act) := by
  intro k
  rw [Timers.isActive, quiet k]
  exact iff_of_false (by rintro ⟨⟩) fun h => halted h.1.1

/-- A turn in which the machine is handed nothing. -/
theorem Disciplined.tidy_idle (h : Disciplined log c) (idle : c.handed env = none) :
    Tidy (log ++ [⟨.turn env, c⟩]) (c.apply (.turn env)) := by
  have machine := (prepare_frame c env).1
  have silent : ¬ Moment.Promises ⟨.turn env, c⟩ := by
    rintro ⟨e, hands, -⟩
    cases idle.symm.trans hands
  have step : c.apply (.turn env) = c.prepare env := step_idle idle
  cases hp : c.progress with
  | starting =>
      intro k
      rw [step, h.begun hp env k, Awaits, prepare_progress (Or.inl hp), machine, TimerKey.RunsIn,
        h.noTimer hp]
      constructor
      · rintro rfl
        exact ⟨⟨rfl, Or.inl rfl⟩, not_promised_cleanup⟩
      · rintro ⟨⟨-, rfl | place⟩, -⟩
        · rfl
        · cases place
  | running =>
      cases hearing env hp h.genuine with
      | plain same =>
          refine h.tidy_same (by rw [step, machine]) ?_ (by rw [step, same]) silent
          rw [step, hp, prepare_progress (Or.inr hp)]
      | sweeps counts again hands => cases idle.symm.trans hands
      | fires retry counts used hands => cases idle.symm.trans hands
  | _ =>
      have same : c.prepare env = c := by simp [prepare, hp]
      refine h.tidy_same ?_ ?_ ?_ silent <;> rw [step, same]

/-- A turn in which the machine is handed an event and goes on. -/
theorem Disciplined.tidy_proceed {e : Entry} (h : Disciplined log c)
    (recent : Promised log → c.Awaits .handOverRetry) (hands : c.handed env = some e)
    (going : e.turn.outcome = .proceed) : Tidy (log ++ [⟨.turn env, c⟩]) (c.apply (.turn env)) := by
  intro k
  obtain ⟨machine, progress, -, desk⟩ := step_proceed hands going
  obtain ⟨swept, own⟩ := h.prepared hands
  have same : e.before = c.machine := congrArg Entry.before (handed_before hands)
  have alive := running_of_handed h.sound hands
  have turn := e.timerTurn alive
  have timers : (c.apply (.turn env)).desk.timers =
      (c.prepare env).desk.timers.heedAll env.now e.effects := by
    rw [apply, desk, TimedInbox.heedAll_timers]
  have awaits (k : TimerKey) : (c.apply (.turn env)).Awaits k ↔ k.RunsIn e.after.state := by
    rw [Awaits, apply, progress, machine]
    exact and_iff_right rfl
  rw [timers, awaits]
  by_cases sweep : k = .cleanup
  · subst sweep
    have kept := turn.cleanup (c.prepare env).desk.timers env.now
    rw [Timers.isActive, Entry.effects, kept]
    exact iff_of_true swept ⟨Or.inl rfl, not_promised_cleanup⟩
  · obtain ⟨mine, left⟩ := own k sweep
    rw [← same] at mine left
    -- before the turn the timer is missing from its state only if the hand-over was promised
    have unpromised : (e.before.state.timer? = some k →
        (c.prepare env).desk.timers.isActive k = true ∨ ∃ n, e.event = k.fire n) ↔
        ¬ (k = .handOverRetry ∧ Promised log) := by
      refine ⟨?_, fun silent place => (left place).mpr silent⟩
      rintro reaches ⟨rfl, was⟩
      have place := (recent was).2.resolve_left sweep
      rw [← same] at place
      exact (left place).mp (reaches place) ⟨rfl, was⟩
    have promises : Moment.Promises ⟨.turn env, c⟩ ↔ e.before.IsPromised e.event := by
      constructor
      · rintro ⟨f, handed, promise⟩
        obtain rfl := Option.some.inj (handed.symm.trans hands)
        exact promise
      · intro promise
        exact ⟨e, hands, promise⟩
    have stays : Moment.after ⟨.turn env, c⟩ = c.apply (.turn env) := rfl
    rw [Entry.effects, turn.isActive_iff (Entry.proceed_iff.mp going) env.now
      mine, unpromised, TimerKey.RunsIn, or_iff_right sweep, promised_snoc, promises, stays, awaits,
      TimerKey.RunsIn, or_iff_right (by decide)]
    constructor
    · rintro ⟨place, calm, silent⟩
      refine ⟨place, ?_⟩
      rintro ⟨rfl, -, promise | was⟩
      · exact calm ⟨rfl, promise⟩
      · exact silent ⟨rfl, was⟩
    · rintro ⟨place, silent⟩
      refine ⟨place, ?_, ?_⟩
      · rintro ⟨rfl, promise⟩
        exact silent ⟨rfl, place, Or.inl promise⟩
      · rintro ⟨rfl, was⟩
        exact silent ⟨rfl, place, Or.inr was⟩

theorem Disciplined.tidy_handed {e : Entry} (h : Disciplined log c)
    (recent : Promised log → c.Awaits .handOverRetry) (hands : c.handed env = some e) :
    Tidy (log ++ [⟨.turn env, c⟩]) (c.apply (.turn env)) := by
  by_cases going : e.turn.outcome = .proceed
  · exact h.tidy_proceed recent hands going
  · refine tidy_over ?_ ?_
    · cases step_ended hands going with
      | anew progress => rw [apply, progress]; rintro ⟨⟩
      | gone progress | broken progress => rw [apply, progress]; rintro ⟨⟩
    · intro k
      cases step_ended hands going with
      | anew progress created same quiet => rw [apply, quiet]; rfl
      | gone progress quiet | broken progress quiet => rw [apply, quiet]; rfl

/-- **One act keeps the discipline.** -/
theorem Disciplined.snoc {act : Act} (h : Disciplined log c)
    (recent : Promised log → c.Awaits .handOverRetry) (honest : act.Honest c) :
    Disciplined (log ++ [⟨act, c⟩]) (c.apply act) := by
  have tidy : Tidy (log ++ [⟨act, c⟩]) (c.apply act) := by
    cases act with
    | turn env =>
        cases handing : c.handed env with
        | none => exact h.tidy_idle handing
        | some e => exact h.tidy_handed recent handing
    | abort =>
        rcases abort_cases (c := c) with ⟨-, same⟩ | ⟨progress, quiet⟩
        · refine h.tidy_same ?_ ?_ ?_ (by rintro ⟨e, ⟨⟩, -⟩) <;> rw [apply, same]
        · exact tidy_over (by rw [apply, progress]; rintro ⟨⟩) (by rw [apply, quiet]; intro k; rfl)
    | _ =>
        exact h.tidy_same (apply_frame rfl).1 (apply_frame rfl).2.1 (apply_frame rfl).2.2
          (by rintro ⟨e, ⟨⟩, -⟩)
  refine ⟨apply_sound h.sound act, apply_genuine h.genuine honest, tidy, fun k g now => ?_⟩
  have awaits := ((tidy k).mp (Timers.isActive_iff.mpr ⟨g, now⟩)).1
  rw [since_snoc]
  refine ⟨awaits, ?_⟩
  rcases (apply_later c act).pending k g now with before | ⟨more, -⟩
  · exact Or.inr (h.since k g before)
  · exact Or.inl ⟨more, now⟩

/-! ## Every run -/

theorem disciplined_of_run {settings : Settings} {supervisor : Supervisor} {restarts : Nat}
    (created : create settings supervisor restarts = .ok c) {acts : List Act}
    (honest : ∀ x ∈ c.history acts, x.act.Honest x.before) :
    Disciplined (c.history acts) (c.run acts) := by
  induction acts using List.reverseRecOn with
  | nil =>
      obtain ⟨starting, -, desk⟩ := create_frame created
      have idle (k : TimerKey) : c.desk.timers.current? k = none := by rw [desk]; rfl
      refine ⟨create_sound created, ?_, ?_, ?_⟩
      · rw [run, List.foldl_nil, desk]
        rintro _ ⟨⟩
      · intro k
        rw [run, List.foldl_nil, Timers.isActive, idle k, Awaits, starting]
        exact iff_of_false (by rintro ⟨⟩) (by rintro ⟨⟨⟨⟩, -⟩, -⟩)
      · intro k g pending
        cases (idle k).symm.trans pending
  | append_singleton acts act ih =>
      rw [history_snoc] at honest ⊢
      rw [run_snoc]
      exact (ih fun x mem => honest x (List.mem_append_left _ mem)).snoc now_of_since
        (honest ⟨act, c.run acts⟩ (by simp))

/-- **A generation is given out once**: two starts of a timer differ in it. -/
theorem started_once (numbered : c.desk.timers.Numbered) {acts : List Act} {k k' : TimerKey}
    {g : Nat} {pre mid post : List Moment} {u v : Moment}
    (place : c.history acts = pre ++ u :: mid ++ v :: post) (first : u.Starts k g) :
    ¬ v.Starts k' g := by
  intro second
  obtain ⟨_, _, _, earlier, before⟩ := history_split place
  have later := history_later earlier.symm
  obtain ⟨acts', _, _, _, start⟩ := history_split earlier.symm
  have known : u.after.desk.timers.Numbered := by
    have now := numbered.later (run_later c acts')
    rw [← start] at now
    exact now.later (apply_later u.before u.act)
  -- generations only grow, and `u` has given out `g`
  have given := Nat.le_trans (known k g first.2) later.generation
  rw [← before] at given
  exact absurd second.1 (Nat.not_lt.mpr given)

theorem awaits_handOverRetry :
    c.Awaits .handOverRetry ↔ c.progress = .running ∧ c.machine.state = .becomingOldest := by
  refine and_congr_right fun _ => ?_
  rw [TimerKey.RunsIn, or_iff_right (by decide)]
  cases c.machine.state <;> simp [State.timer?]

theorem awaits_takeOverRetry :
    c.Awaits .takeOverRetry ↔ c.progress = .running ∧ c.machine.state = .wasOldest := by
  refine and_congr_right fun _ => ?_
  rw [TimerKey.RunsIn, or_iff_right (by decide)]
  cases c.machine.state <;> simp [State.timer?]

/-- The next item is a fire of the timer that still counts, and its timer was started in the present
stay of the present instance. -/
def FiresInStay (k : TimerKey) (log : List Moment) (c : Coordinator) : Prop :=
  ∃ g e, c.inbox.queue.head? = some (.timer k g e) ∧ c.desk.timers.accepts k g = true ∧
    Since (Moment.Starts k g) (fun x => x.after.Awaits k) log

/-- A retry that the machine is handed comes from a timer of its state. -/
theorem Disciplined.fires {e : Entry} {k : TimerKey} {n : UInt32} (h : Disciplined log c)
    (hands : c.handed env = some e) (retry : k ≠ .cleanup) (event : e.event = k.fire n) :
    c.Awaits k ∧ FiresInStay k log c := by
  have loud : e.event.retryKey? = some k := by rw [event, TimerKey.retryKey?_fire retry]
  rcases progress_of_handed hands with starting | running
  · rw [handed_starting starting hands] at loud
    cases loud
  · cases hearing env running h.genuine with
    | plain same quiet => cases loud.symm.trans (quiet e hands)
    | sweeps counts again hands' quiet =>
        obtain rfl := Option.some.inj (hands'.symm.trans hands)
        cases loud.symm.trans quiet
    | @fires k' g n' e' retry' counts used hands' event' item =>
        obtain rfl := Option.some.inj (hands'.symm.trans hands)
        obtain rfl := TimerKey.fire_key (event.symm.trans event')
        have awaits := ((h.tidy k).mp (Timers.isActive_iff.mpr ⟨g, counts⟩)).1
        exact ⟨awaits, g, _, item, Timers.accepts_iff.mpr counts, h.since k g counts⟩

/-- **Every timer serves its state.** While an instance runs, its cleanup is pending, and a retry timer
only in the state that it serves; there it is pending, but for a hand-over that was promised. Nothing is
pending otherwise. Whatever retry reaches the machine was set in the same stay, by the start that gave
out the generation it carries. -/
theorem timer_discipline {settings : Settings} {supervisor : Supervisor} {restarts : Nat}
    (created : create settings supervisor restarts = .ok c) {acts : List Act}
    (honest : ∀ x ∈ c.history acts, x.act.Honest x.before) :
    let log := c.history acts
    let d := c.run acts
    (d.progress = .running →
      d.desk.timers.isActive .cleanup = true ∧
      (d.desk.timers.isActive .takeOverRetry = true ↔ d.machine.state = .wasOldest) ∧
      (d.desk.timers.isActive .handOverRetry = true → d.machine.state = .becomingOldest) ∧
      (d.machine.state = .becomingOldest → ¬ Promised log →
        d.desk.timers.isActive .handOverRetry = true)) ∧
    (d.progress ≠ .running → ∀ k, d.desk.timers.isActive k = false) ∧
    (∀ k g pre x mid y post, log = pre ++ x :: mid ++ y :: post →
      Moment.Starts k g x → ¬ Moment.Starts k g y) ∧
    ∀ env e count, d.handed env = some e →
      (e.event = .handOverRetry count →
        e.before.state = .becomingOldest ∧ FiresInStay .handOverRetry log d) ∧
      (e.event = .takeOverRetry count →
        e.before.state = .wasOldest ∧ FiresInStay .takeOverRetry log d) := by
  intro log d
  have h : Disciplined log d := disciplined_of_run created honest
  have numbered : c.desk.timers.Numbered := by
    rw [(create_frame created).2.2]
    rintro _ _ ⟨⟩
  refine ⟨fun running => ⟨?_, ?_, ?_, ?_⟩, fun halted k => ?_,
    fun k g pre x mid y post place => started_once numbered place, fun env e count hands => ?_⟩
  · exact (h.tidy _).mpr ⟨⟨running, Or.inl rfl⟩, not_promised_cleanup⟩
  · rw [h.tidy, awaits_takeOverRetry]
    simp [running]
  · exact fun pending => (awaits_handOverRetry.mp ((h.tidy _).mp pending).1).2
  · exact fun place silent =>
      (h.tidy _).mpr ⟨awaits_handOverRetry.mpr ⟨running, place⟩, fun promised => silent promised.2⟩
  · exact Bool.eq_false_iff.mpr fun pending => halted ((h.tidy k).mp pending).1.1
  · have same : e.before = d.machine := congrArg Entry.before (handed_before hands)
    rw [same]
    constructor
    · intro event
      obtain ⟨awaits, fires⟩ := h.fires (k := .handOverRetry) hands (by decide) event
      exact ⟨(awaits_handOverRetry.mp awaits).2, fires⟩
    · intro event
      obtain ⟨awaits, fires⟩ := h.fires (k := .takeOverRetry) hands (by decide) event
      exact ⟨(awaits_takeOverRetry.mp awaits).2, fires⟩

/-- A retry runs out while the previous oldest is silent, and one is still queued when the hand-over
is done. -/
theorem timer_discipline_staleFire :
    let world : Surroundings := ⟨0, fun _ => true⟩
    let approach : List Act :=
      [.turn world,
        .arrive [.event (.initialOldest (some ⟨"b"⟩) false), .event (.oldestChanged (some ⟨"a"⟩))],
        .turn world, .turn world]
    let live := approach ++ [.elapse Defaults.retryInterval]
    let stale := approach ++
      [.arrive [.peer ⟨"b"⟩ .handOverDone], .elapse Defaults.retryInterval, .turn world]
    ∃ c, create (.forNode ⟨"a"⟩) (.ofSettings .default []) 0 = .ok c ∧
      (∀ x ∈ c.history live, x.act.Honest x.before) ∧
      (∃ e, (c.run live).handed world = some e ∧ e.event = .handOverRetry 1 ∧
        e.before.state = .becomingOldest ∧
        FiresInStay .handOverRetry (c.history live) (c.run live)) ∧
      (∀ x ∈ c.history stale, x.act.Honest x.before) ∧
      (c.run stale).machine.state = .oldest ∧
      (c.run stale).inbox.queue = [.timer .handOverRetry 2 (.handOverRetry 1)] ∧
      (c.run stale).desk.timers.isActive .handOverRetry = false := by
  intro world approach live stale
  have created : create (.forNode ⟨"a"⟩) (.ofSettings .default []) 0 = .ok _ := rfl
  have foreign : ∀ act ∈ live ++ stale, ∀ c, act.Honest c := by
    simp [live, stale, approach, Act.Honest, Item.Foreign, Event.retryKey?]
  have honest (acts : List Act) (part : ∀ act ∈ acts, act ∈ live ++ stale) (c : Coordinator) :
      ∀ x ∈ c.history acts, x.act.Honest x.before :=
    fun x mem => foreign _ (part _ (act_mem_of_history mem)) _
  have honestLive := honest live fun _ => List.mem_append_left _
  have honestStale := honest stale fun _ => List.mem_append_right _
  have reaches (d : Coordinator)
      (h : (d.handed world).map (fun e => e.event) = some (.handOverRetry 1)) :
      ∃ e, d.handed world = some e ∧ e.event = .handOverRetry 1 :=
    Option.map_eq_some_iff.mp h
  refine ⟨_, created, honestLive _, ?live, honestStale _, ?oldest, ?queued, ?stale⟩
  case live =>
    obtain ⟨-, -, -, fires⟩ := timer_discipline created (honestLive _)
    exact (reaches _ (by decide +kernel)).imp
      fun e h => ⟨h.1, h.2, (fires world e 1 h.1).1 h.2⟩
  case oldest => decide +kernel
  case queued => decide +kernel
  case stale =>
    obtain ⟨running, halted, -, -⟩ := timer_discipline created (honestStale _)
    refine (Classical.em _).elim (fun h => ?_) (fun h => halted h .handOverRetry)
    exact Bool.eq_false_iff.mpr fun pending => absurd ((running h).2.2.1 pending) (by decide +kernel)

end Coordinator

end ClusterSingleton
