import ClusterSingleton.Proofs.Coordinator.Course

/-!
# Restarts

A coordinator that is stuck is created anew on the same inbox, as long as its budget lasts.
`restarts_isolated` says how the metrics and the result keep count of that, what a new instance is
given, and that the timers of the old ones reach it no more.
-/

namespace ClusterSingleton

namespace Progress

def isStarting : Progress → Bool
  | starting => true
  | _ => false

theorem isStarting_iff {p : Progress} : p.isStarting = true ↔ p = starting := by
  cases p <;> simp [isStarting]

/-- The coordinator has returned, and the error says that it was stuck. -/
def isStuck : Progress → Bool
  | finished (.error e) => e.isStuck
  | _ => false

theorem isStuck_of_unfinished {p : Progress} (going : p.isFinished = false) : p.isStuck = false := by
  cases p with
  | finished result | brokeOff => cases going
  | _ => rfl

theorem isStuck_final (outcome : Outcome) : outcome.final.isStuck = outcome.isStuck := by
  cases outcome <;> rfl

theorem isStarting_final (outcome : Outcome) : outcome.final.isStarting = false := by
  cases outcome <;> rfl

end Progress

namespace Metrics

variable {env : Surroundings}

/-- No turn counts as a restart, and none as being stuck. -/
theorem note_restartsTotal (m : Metrics) (n : Nat) (e : Entry) :
    ((m.withReceived n).note env e).restartsTotal = m.restartsTotal := by
  have counts : Counts env restartsTotal fun _ => false :=
    ⟨fun m x => (heed_frame env m x).2.2.2.1, fun _ => rfl, fun _ _ => rfl, fun _ _ => rfl⟩
  rw [counts.note, List.countP_false]
  rfl

theorem note_stuckTotal (m : Metrics) (n : Nat) (e : Entry) :
    ((m.withReceived n).note env e).stuckTotal = m.stuckTotal := by
  have counts : Counts env stuckTotal fun _ => false :=
    ⟨fun m x => (heed_frame env m x).2.2.1, fun _ => rfl, fun _ _ => rfl, fun _ _ => rfl⟩
  rw [counts.note, List.countP_false]
  rfl

theorem close_restartsTotal (m : Metrics) (outcome : Outcome) :
    (m.close outcome).restartsTotal = m.restartsTotal := by
  unfold close
  split <;> rfl

theorem close_stuckTotal (m : Metrics) (outcome : Outcome) :
    (m.close outcome).stuckTotal = m.stuckTotal + if outcome.isStuck then 1 else 0 := by
  unfold close
  split <;> rfl

end Metrics

theorem Machine.Stuck.isStuck {m : Machine} {now : Nat} {e : Event} {x : Error}
    (stuck : Machine.Stuck m now e x) : x.isStuck = true := by
  cases stuck <;> rfl

/-- Whoever fails has used up its retries, and asks for nothing more. -/
theorem Entry.fatal {e : Entry} {x : Error} (fails : e.turn.outcome = .fatal x) :
    x.isStuck = true ∧ e.effects = [] := by
  obtain ⟨stuck, turn⟩ := stuck_of_fatal fails
  exact ⟨stuck.isStuck, congrArg Turn.effects turn⟩

namespace Coordinator

namespace Moment

/-- A new instance takes the place of one that came to its end in the act. -/
def recreates (x : Moment) : Bool := x.handed.isSome && x.after.progress.isStarting

/-- The generation was given to a timer that was started in the act. -/
def Gives (g : Nat) (x : Moment) : Prop :=
  x.before.desk.timers.generation < g ∧ g ≤ x.after.desk.timers.generation

end Moment

/-! ## The budget -/

/-- What holds of a coordinator with a given history and a budget of `n` restarts. -/
structure Budgeted (n : Nat) (log : List Moment) (c : Coordinator) : Prop where
  budget : log.countP Moment.recreates + c.restartsLeft = n
  restarts : c.metrics.restartsTotal = log.countP Moment.recreates
  stuck : c.metrics.stuckTotal =
    log.countP Moment.recreates + if c.progress.isStuck then 1 else 0
  spent : c.progress.isStuck = true → c.restartsLeft = 0

variable {c : Coordinator} {n : Nat} {log : List Moment} {act : Act}

theorem isStuck_of_handed {env : Surroundings} {e : Entry} (hands : c.handed env = some e) :
    c.progress.isStuck = false := by
  rcases progress_of_handed hands with progress | progress
  · rw [progress]
    rfl
  · rw [progress]
    rfl

theorem recreates_of_handed {env : Surroundings} {e : Entry} (is : act = .turn env)
    (hands : c.handed env = some e) :
    (Moment.mk act c).recreates = (c.apply act).progress.isStarting := by
  subst is
  show ((c.handed env).isSome && _) = _
  rw [hands]
  rfl

/-- **One act keeps to the budget.** -/
theorem Budgeted.snoc (h : Budgeted n log c) (usable : c.Usable) (act : Act) :
    Budgeted n (log ++ [Moment.mk act c]) (c.apply act) := by
  have counted (again : Bool) (same : (Moment.mk act c).recreates = again) :
      (log ++ [Moment.mk act c]).countP Moment.recreates =
        log.countP Moment.recreates + if again then 1 else 0 := by
    rw [List.countP_append, List.countP_singleton, same]
  obtain ⟨budget, restarts, stuck, spent⟩ := h
  cases apply_course usable act with
  | silent idle machine metrics same progress =>
      have count := counted false (by rw [Moment.recreates, idle]; rfl)
      have shown : (c.apply act).progress.isStuck = c.progress.isStuck := by
        rcases progress with still | ⟨before, after⟩
        · rw [still]
        · rw [Progress.isStuck_of_unfinished before, Progress.isStuck_of_unfinished after]
      constructor
      · rw [count, same]
        exact budget
      · rw [count, metrics]
        exact restarts
      · rw [count, metrics, shown]
        exact stuck
      · rw [shown, same]
        exact spent
  | goesOn is hands going machine metrics same progress =>
      have count := counted false (by rw [recreates_of_handed is hands, progress]; rfl)
      have calm := isStuck_of_handed hands
      constructor
      · rw [count, same]
        exact budget
      · rw [count, metrics, Metrics.note_restartsTotal]
        exact restarts
      · rw [count, metrics, Metrics.note_stuckTotal, progress, stuck, calm]
        rfl
      · rw [progress]
        rintro ⟨⟩
  | @returns env e received is hands stops last machine metrics same progress =>
      have count := counted false <| by
        rw [recreates_of_handed is hands, progress, Progress.isStarting_final]
      have calm := isStuck_of_handed hands
      constructor
      · rw [count, same]
        exact budget
      · rw [count, metrics, Metrics.close_restartsTotal, Metrics.note_restartsTotal]
        exact restarts
      · rw [count, metrics, Metrics.close_stuckTotal, Metrics.note_stuckTotal, progress,
          Progress.isStuck_final, stuck, calm]
      · rw [progress, Progress.isStuck_final, same]
        intro failed
        exact Nat.eq_zero_of_not_pos fun some => last ⟨failed, some⟩
  | restarts is hands failed created metrics spent' progress =>
      have count := counted true (by rw [recreates_of_handed is hands, progress]; rfl)
      have calm := isStuck_of_handed hands
      constructor
      · rw [count, if_pos rfl]
        omega
      · rw [count, metrics]
        show (Metrics.close _ _).restartsTotal + 1 = _
        rw [Metrics.close_restartsTotal, Metrics.note_restartsTotal, restarts]
        rfl
      · rw [count, metrics, progress]
        show (Metrics.close _ _).stuckTotal = _
        rw [Metrics.close_stuckTotal, Metrics.note_stuckTotal, stuck, calm, failed.1]
        rfl
      · rw [progress]
        rintro ⟨⟩

/-! ## Where a new instance begins -/

/-- What the end of an instance leads to, after the moments `pre`. -/
structure Supervised (n : Nat) (first : Machine) (pre : List Moment) (x : Moment) : Prop where
  /-- One that is stuck is followed by another one as long as the budget lasts. -/
  again : ∀ e, x.handed = some e → e.turn.outcome.isStuck = true →
    pre.countP Moment.recreates < n → x.recreates = true
  /-- Otherwise the coordinator returns what the instance has come to. -/
  returns : ∀ e, x.handed = some e → e.turn.outcome ≠ .proceed → x.recreates = false →
    x.after.progress = e.turn.outcome.final
  /-- The new one is given the machine that the first one was given. -/
  anew : x.recreates = true → x.after.machine = first
  /-- The units that are still known are stopped. -/
  stopped : x.recreates = true → x.after.supervisor = x.before.supervisor.abortAll ∧
    ∀ u ∈ x.after.supervisor.units, u.aborted = true

/-- What the restarts of a coordinator come to that was created with a budget of `n` and the machine
`first`, has the history `log` and is `d` now. -/
structure Isolated (n : Nat) (first : Machine) (log : List Moment) (d : Coordinator) : Prop where
  within : log.countP Moment.recreates ≤ n
  restarts : d.metrics.restartsTotal = log.countP Moment.recreates
  stuck : d.metrics.stuckTotal = d.metrics.restartsTotal + if d.progress.isStuck then 1 else 0
  spent : d.progress.isStuck = true → log.countP Moment.recreates = n
  /-- Every instance begins uninitialized and remembers no removed member. -/
  begins : first.phase = .start ∧ first.removed.entries = [] ∧ first.terminated = false
  supervised : ∀ pre x post, log = pre ++ x :: post → Supervised n first pre x
  /-- A timer that was started before a restart counts no more, wherever it is. -/
  deaf : ∀ pre x post, log = pre ++ x :: post → x.recreates = true →
    ∀ y ∈ pre ++ [x], ∀ g, y.Gives g → ∀ env key event,
      d.interpret env (.timer key g event) = (d, none)

/-- What an act leaves behind in which an instance is replaced. -/
structure Replaced (x : Moment) : Prop where
  machine : Machine.ofSettings x.before.settings = .ok x.after.machine
  supervisor : x.after.supervisor = x.before.supervisor.abortAll
  quiet : ∀ key, x.after.desk.timers.current? key = none

/-- **A restart leaves nothing pending**, and stops all units. -/
theorem replaced {x : Moment} (usable : x.before.Usable) (again : x.recreates = true) :
    Replaced x := by
  obtain ⟨act, d⟩ := x
  obtain ⟨handed, starting⟩ := Bool.and_eq_true_iff.mp again
  cases apply_course usable act with
  | @restarts env e received is hands stuck created metrics budget progress stopped quiet =>
      have silent : e.effects = [] := by
        cases failed : e.turn.outcome with
        | fatal x => exact (Entry.fatal failed).2
        | _ =>
            rw [failed] at stuck
            cases stuck.1
      rw [silent] at stopped
      exact ⟨created, stopped, quiet⟩
  | silent idle =>
      rw [idle] at handed
      cases handed
  | goesOn is hands going machine metrics budget progress =>
      rw [Moment.after, progress] at starting
      cases starting
  | @returns env e received is hands stops last machine metrics budget progress =>
      rw [Moment.after, progress] at starting
      cases outcome : e.turn.outcome <;> rw [outcome] at starting <;> cases starting

/-- An instance that is stuck within the budget is replaced. -/
theorem recreates_of_stuck {x : Moment} {e : Entry} (usable : x.before.Usable)
    (hands : x.handed = some e) (stuck : StuckWithin e.turn.outcome x.before.restartsLeft) :
    x.recreates = true := by
  obtain ⟨act, d⟩ := x
  cases apply_course usable act with
  | silent idle => cases idle.symm.trans hands
  | goesOn is hands' going =>
      subst is
      obtain rfl := Option.some.inj (hands'.symm.trans hands)
      rw [going] at stuck
      cases stuck.1
  | returns is hands' stops last =>
      subst is
      obtain rfl := Option.some.inj (hands'.symm.trans hands)
      exact absurd stuck last
  | restarts is hands' _ created metrics budget progress =>
      rw [recreates_of_handed is hands', progress]
      rfl

/-- An instance that ends and is not replaced is the last one. -/
theorem finished_of_stops {x : Moment} {e : Entry} (usable : x.before.Usable)
    (hands : x.handed = some e) (stops : e.turn.outcome ≠ .proceed) (still : x.recreates = false) :
    x.after.progress = e.turn.outcome.final := by
  obtain ⟨act, d⟩ := x
  cases apply_course usable act with
  | silent idle => cases idle.symm.trans hands
  | goesOn is hands' going =>
      subst is
      obtain rfl := Option.some.inj (hands'.symm.trans hands)
      exact absurd going stops
  | returns is hands' stops' last machine metrics budget progress =>
      subst is
      obtain rfl := Option.some.inj (hands'.symm.trans hands)
      exact progress
  | restarts is hands' _ created metrics budget progress =>
      rw [recreates_of_handed is hands', progress] at still
      cases still

/-- Whatever was given out before nothing was pending is deaf from then on. -/
theorem interpret_stale {c d : Coordinator} (later : c.desk.timers.Later d.desk.timers)
    (quiet : ∀ key, c.desk.timers.current? key = none) {g : Nat}
    (old : g ≤ c.desk.timers.generation) (env : Surroundings) (key : TimerKey) (event : Event) :
    d.interpret env (.timer key g event) = (d, none) := by
  have rejects : ¬ d.desk.timers.accepts key g = true := by
    intro accepts
    rcases later.pending key g (Timers.accepts_iff.mp accepts) with before | since
    · rw [quiet key] at before
      cases before
    · exact absurd old (Nat.not_le_of_lt since.1)
  exact if_neg rejects

section Run

variable {settings : Settings} {supervisor : Supervisor}
  (created : create settings supervisor n = .ok c)

include created

theorem budgeted_of_run (acts : List Act) : Budgeted n (c.history acts) (c.run acts) := by
  obtain ⟨usable, -, restarts⟩ := create_units created
  induction acts using List.reverseRecOn with
  | nil =>
      have begins : c.progress.isStuck = false := by
        rw [(create_frame created).1]
        rfl
      have metrics := (create_begins created).2
      constructor
      · show 0 + c.restartsLeft = n
        rw [Nat.zero_add]
        exact restarts
      · show c.metrics.restartsTotal = 0
        rw [metrics]
        rfl
      · show c.metrics.stuckTotal = 0 + if c.progress.isStuck then 1 else 0
        rw [metrics, begins]
        rfl
      · show c.progress.isStuck = true → _
        rw [begins]
        rintro ⟨⟩
  | append_singleton acts act ih =>
      rw [history_snoc, run_snoc]
      exact ih.snoc (usable.run acts) act

theorem usable_of_place {acts : List Act} {pre post : List Moment} {x : Moment}
    (place : c.history acts = pre ++ x :: post) : x.before.Usable := by
  obtain ⟨before, after, -, -, same⟩ := history_split place
  rw [same]
  exact (create_units created).1.run before

theorem supervised {acts : List Act} {pre post : List Moment} {x : Moment}
    (place : c.history acts = pre ++ x :: post) : Supervised n c.machine pre x := by
  have usable := usable_of_place created place
  obtain ⟨before, after, -, rfl, same⟩ := history_split place
  have budget := (budgeted_of_run created before).budget
  have settings : x.before.settings = settings := by
    rw [same, run_settings, (create_begins created).1]
  have first := (create_frame created).2.1
  constructor
  · intro e hands stuck within
    refine recreates_of_stuck usable hands ⟨stuck, ?_⟩
    rw [same]
    omega
  · intro e hands stops still
    exact finished_of_stops usable hands stops still
  · intro again
    have made := (replaced usable again).machine
    rw [settings] at made
    exact Except.ok.inj (made.symm.trans first)
  · intro again
    have stopped := (replaced usable again).supervisor
    refine ⟨stopped, fun u mem => ?_⟩
    rw [stopped] at mem
    obtain ⟨v, -, rfl⟩ := List.mem_map.mp mem
    rfl

/-- **A generation that was given out before a restart is deaf after it.** -/
theorem deaf_of_recreates {acts : List Act} {pre post : List Moment} {x y : Moment}
    (place : c.history acts = pre ++ x :: post) (again : x.recreates = true)
    (mem : y ∈ pre ++ [x]) {g : Nat} (given : y.Gives g) (env : Surroundings) (key : TimerKey)
    (event : Event) :
    (c.run acts).interpret env (.timer key g event) = (c.run acts, none) := by
  have quiet := (replaced (usable_of_place created place) again).quiet
  refine interpret_stale (history_later place) quiet ?_ env key event
  -- whatever was given out until the restart is at most the last generation then
  obtain ⟨before, after, -, rfl, same⟩ := history_split place
  have upTo : c.history before ++ [x] = c.history (before ++ [x.act]) := by
    rw [history_snoc, ← same]
  rw [upTo] at mem
  obtain ⟨pre, post, earlier⟩ := List.append_of_mem mem
  have later := (history_later earlier).generation
  rw [run_snoc, ← same] at later
  exact Nat.le_trans given.2 later

/-- **Restarts are isolated.** A coordinator that is created with a budget of `n` restarts is created
anew at most `n` times, each time that an instance is stuck before the budget is spent. It counts one
stuck condition for each of them, and one more if it returns that it is stuck, which it does only when the
budget is spent. A new instance begins as the first one did, without the units of the old ones, and
no timer that one of them has started is ever accepted again. -/
theorem restarts_isolated (acts : List Act) :
    Isolated n c.machine (c.history acts) (c.run acts) := by
  have budgeted := budgeted_of_run created acts
  have count := budgeted.budget
  obtain ⟨limits, -, made⟩ := ofSettings_eq (create_frame created).2.1
  constructor
  · omega
  · exact budgeted.restarts
  · rw [budgeted.restarts]
    exact budgeted.stuck
  · intro failed
    have none := budgeted.spent failed
    omega
  · rw [made]
    exact ⟨rfl, rfl, rfl⟩
  · intro pre x post place
    exact supervised created place
  · intro pre x post place again y mem g given
    exact deaf_of_recreates created place again mem given

end Run

/-- A node that is the oldest and whose new oldest never asks for the unit begins anew with its only
restart, when the timer of its cleanup has already run out: what that has delivered is left in the inbox
for the new instance, which is deaf to it. -/
theorem restarts_isolated_staleCleanup :
    let world : Surroundings := ⟨0, fun _ => true⟩
    let before : List Act :=
      [.turn world,
        .arrive [.event (.initialOldest (some ⟨"a"⟩) true), .event (.oldestChanged (some ⟨"b"⟩)),
          .event (.takeOverRetry 1000)],
        .elapse 100000000000, .turn world, .turn world]
    let acts : List Act := before ++ [.turn world, .turn world]
    let stale : Item := .timer .cleanup 1 .cleanup
    ∃ c, create (.forNode ⟨"a"⟩) (.ofSettings .default []) 1 = .ok c ∧
      (c.run acts).metrics.restartsTotal = 1 ∧ (c.run acts).metrics.stuckTotal = 1 ∧
      (c.run acts).inbox.queue = [stale] ∧
      (c.run acts).interpret world stale = (c.run acts, none) := by
  intro world before acts stale
  have created : create (.forNode ⟨"a"⟩) (.ofSettings .default []) 1 = .ok _ := rfl
  have isolated := restarts_isolated created acts
  have restarts := isolated.restarts.trans (by decide +kernel : _ = 1)
  refine ⟨_, created, restarts, ?_, by decide +kernel, ?_⟩
  · rw [isolated.stuck, restarts, Progress.isStuck_of_unfinished (by decide +kernel)]
    rfl
  · exact isolated.deaf (history _ before) ⟨.turn world, run _ before⟩ _ rfl (by decide +kernel)
      ⟨.turn world, _⟩ (List.mem_cons_self ..) 1 ⟨by decide +kernel, by decide +kernel⟩ world
      .cleanup .cleanup

end Coordinator

end ClusterSingleton
