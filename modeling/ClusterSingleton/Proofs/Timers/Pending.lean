import ClusterSingleton.Proofs.Timers.Origin

/-!
# Pending timers

Which timers are pending after a turn of the machine, by its `TimerTurn`; which are when a coordinator
has looked at its next item, by its `Hearing`; and that whatever is pending was pending before or
was started since.
-/

namespace ClusterSingleton

/-! ## The pending timers after a turn of the machine -/

namespace Machine

variable {m : Machine} {e : Event} {t : Turn} {k : TimerKey}

/-- The hand-over that the machine waits for is promised. -/
def IsPromised (m : Machine) (e : Event) : Prop :=
  m.state = .becomingOldest ∧ ∃ a, e = .peer a .handOverInProgress

/-- Of the effects of a turn only its timer work counts. -/
theorem current?_of_work {work : List Effect} (h : t.timerWork = work) (timers : Timers)
    (now : Nat) (k : TimerKey) :
    (timers.heedAll now t.effects).current? k = (timers.heedAll now work).current? k := by
  rw [Timers.current?_of_bare (Timers.bare_heedAll timers t.effects), ← h]
  rfl

theorem current?_of_startTimer {k' : TimerKey} {x : Event} {after : Nat}
    (h : t.timerWork = [.startTimer k' x after]) (timers : Timers) (now : Nat) :
    (timers.heedAll now t.effects).current? k =
      if k = k' then some (timers.generation + 1) else timers.current? k :=
  (current?_of_work h timers now k).trans Timers.current?_start

theorem current?_of_cancelTimer {k' : TimerKey} (h : t.timerWork = [.cancelTimer k'])
    (timers : Timers) (now : Nat) :
    (timers.heedAll now t.effects).current? k =
      if k = k' then none else timers.current? k :=
  (current?_of_work h timers now k).trans (Timers.current?_cancel timers k' k)

/-- No turn touches the cleanup. -/
theorem TimerTurn.cleanup (turn : TimerTurn m e t) (timers : Timers) (now : Nat) :
    (timers.heedAll now t.effects).current? .cleanup = timers.current? .cleanup := by
  have other {k : TimerKey} {s : State} (place : s.timer? = some k) : .cleanup ≠ k := by
    rcases timer_cases place with ⟨-, rfl⟩ | ⟨-, rfl⟩ <;> nofun
  cases turn with
  | keeps work => exact current?_of_work work timers now .cleanup
  | enters before after work => rw [current?_of_startTimer work, if_neg (other after)]
  | retries before event within fits same work =>
      rw [current?_of_startTimer work, if_neg (other before)]
  | promised before event same work => rw [current?_of_cancelTimer work, if_neg nofun]
  | leaves before after work => rw [current?_of_cancelTimer work, if_neg (other before)]

/-- **A retry timer is pending after a turn** if the machine is in its state then, and either came
there in this turn, or had the timer pending or running out; a promise silences it. -/
theorem TimerTurn.isActive_iff (turn : TimerTurn m e t) (going : t.machine.terminated = false)
    {timers : Timers} (now : Nat) (own : timers.isActive k = true → m.state.timer? = some k) :
    (timers.heedAll now t.effects).isActive k = true ↔
      t.machine.state.timer? = some k ∧ ¬ (k = .handOverRetry ∧ m.IsPromised e) ∧
        (m.state.timer? = some k → timers.isActive k = true ∨ ∃ n, e = k.fire n) := by
  have idle {timer : Option TimerKey} (place : m.state.timer? = timer) (other : timer ≠ some k) :
      (timers.current? k).isSome = false :=
    Bool.eq_false_iff.mpr fun pending => other (place.symm.trans (own pending))
  unfold Timers.isActive at own ⊢
  cases turn with
  | keeps work same deaf calm =>
      rw [current?_of_work work, same]
      constructor
      · intro pending
        refine ⟨own pending, ?_, fun _ => Or.inl pending⟩
        rintro ⟨-, place, a, rfl⟩
        exact calm place a rfl
      · rintro ⟨place, -, alive⟩
        rcases alive place with pending | ⟨n, rfl⟩
        · exact pending
        · rw [deaf k n place rfl] at going
          cases going
  | @enters k' before after work =>
      have calm : ¬ m.IsPromised e := by
        rintro ⟨place, -⟩
        rw [place] at before
        cases before
      rw [current?_of_startTimer work, after]
      by_cases here : k = k'
      · simp [here, calm, before]
      · simp [if_neg here, Ne.symm here, idle before nofun]
  | @retries k' n before event within fits same work =>
      have calm : ¬ m.IsPromised e := by
        rintro ⟨-, a, rfl⟩
        cases k' <;> cases event
      rw [current?_of_startTimer work, same]
      by_cases here : k = k'
      · subst here
        rw [event] at calm ⊢
        simp [calm, before]
      · have other : some k' ≠ some k := fun h => here (Option.some.inj h).symm
        simp [if_neg here, before, Ne.symm here, idle before other]
  | @promised a before event same work =>
      have place : m.state.timer? = some .handOverRetry := by rw [before]; rfl
      rw [current?_of_cancelTimer work, same]
      by_cases here : k = .handOverRetry
      · simp [here, IsPromised, before, event]
      · have other : some .handOverRetry ≠ some k := fun h => here (Option.some.inj h).symm
        simp [if_neg here, place, Ne.symm here, idle place other]
  | @leaves k' before after work =>
      rw [current?_of_cancelTimer work, after]
      by_cases here : k = k'
      · simp [here]
      · have other : some k' ≠ some k := fun h => here (Option.some.inj h).symm
        simp [if_neg here, idle before other]

end Machine

namespace Coordinator

variable {c : Coordinator} {env : Surroundings}

/-! ## The pending timers before the machine is handed an event -/

/-- What becomes of the pending timers when a running coordinator looks at its next item. -/
inductive Hearing (c : Coordinator) (env : Surroundings) : Prop where
  | plain (same : (c.prepare env).desk.timers = c.desk.timers)
      (event : ∀ e, c.handed env = some e → e.event.retryKey? = none)
  | sweeps {g after : Nat} {e : Entry} (counts : c.desk.timers.current? .cleanup = some g)
      (again : (c.prepare env).desk.timers =
        (c.desk.timers.accept .cleanup g).start env.now .cleanup .cleanup after)
      (hands : c.handed env = some e) (event : e.event.retryKey? = none)
  | fires {k : TimerKey} {g : Nat} {n : UInt32} {e : Entry} (retry : k ≠ .cleanup)
      (counts : c.desk.timers.current? k = some g)
      (used : (c.prepare env).desk.timers = c.desk.timers.accept k g)
      (hands : c.handed env = some e) (event : e.event = k.fire n)
      (item : c.inbox.queue.head? = some (.timer k g (k.fire n)))

theorem hearing (env : Surroundings) (running : c.progress = .running)
    (genuine : c.desk.Genuine) : Hearing c env := by
  cases received : c.inbox.receive? with
  | none =>
      refine .plain (by simp [prepare, running, received]) ?_
      simp [handed, running, received]
  | some next =>
      obtain ⟨item, inbox⟩ := next
      have first := (Inbox.mem_receive received).1
      have own : item.Genuine :=
        genuine item (TimedInbox.mem_items.mpr (Or.inl (Inbox.mem_of_head first)))
      have prepared : c.prepare env = ((c.mapInbox fun _ => inbox).interpret env item).1 := by
        simp [prepare, running, received]
      have hands : c.handed env = ((c.mapInbox fun _ => inbox).interpret env item).2.map
          (fun event => ⟨⟨env.now, c.fresh, event⟩, c.machine⟩) := by
        simp [handed, running, received]
      cases item with
      | event event =>
          refine .plain (by rw [prepared]; rfl) fun e h => ?_
          obtain rfl := Option.some.inj (hands.symm.trans h)
          exact own
      | peer sender message =>
          refine .plain (by rw [prepared]; rfl) fun e h => ?_
          obtain rfl := Option.some.inj (hands.symm.trans h)
          rfl
      | timer key g event =>
          obtain ⟨n, rfl⟩ := own
          simp only [interpret] at prepared hands
          by_cases counts : c.desk.timers.accepts key g = true
          · have counts' : (c.mapInbox fun _ => inbox).desk.timers.accepts key g = true := counts
            rw [if_pos counts'] at prepared hands
            by_cases sweep : key = .cleanup
            · subst sweep
              exact .sweeps (Timers.accepts_iff.mp counts) (by rw [prepared]; rfl) hands rfl
            · rw [if_neg sweep] at prepared hands
              exact .fires sweep (Timers.accepts_iff.mp counts) (by rw [prepared]; rfl) hands rfl
                first
          · have counts' : ¬ (c.mapInbox fun _ => inbox).desk.timers.accepts key g = true := counts
            rw [if_neg counts'] at prepared hands
            refine .plain (by rw [prepared]; rfl) fun e h => ?_
            cases hands.symm.trans h

theorem Hearing.cleanup (h : Hearing c env)
    (active : c.desk.timers.isActive .cleanup = true) :
    (c.prepare env).desk.timers.isActive .cleanup = true := by
  cases h with
  | plain same => rw [same, active]
  | sweeps counts again => rw [again, Timers.isActive, Timers.current?_start]; rfl
  | fires retry counts used =>
      rw [used, Timers.isActive, Timers.current?_accept, if_neg (fun h => retry h.1.symm)]
      exact active

/-- A retry timer is pending exactly if it still is, or has just run out. -/
theorem Hearing.isActive_iff {k : TimerKey} {e : Entry} (h : Hearing c env)
    (hands : c.handed env = some e) (retry : k ≠ .cleanup) :
    (c.prepare env).desk.timers.isActive k = true ∨ (∃ n, e.event = k.fire n) ↔
      c.desk.timers.isActive k = true := by
  have quiet (event : e.event.retryKey? = none) : ¬ ∃ n, e.event = k.fire n := by
    rintro ⟨n, fire⟩
    rw [fire, TimerKey.retryKey?_fire retry] at event
    cases event
  cases h with
  | plain same event => rw [same, or_iff_left (quiet (event e hands))]
  | sweeps counts again hands' event =>
      obtain rfl := Option.some.inj (hands'.symm.trans hands)
      rw [or_iff_left (quiet event), again, Timers.isActive, Timers.current?_start,
        if_neg retry, Timers.current?_accept, if_neg (fun h => retry h.1)]
      rfl
  | @fires k' g n e' retry' counts used hands' event =>
      obtain rfl := Option.some.inj (hands'.symm.trans hands)
      rw [used, Timers.isActive, Timers.current?_accept, event]
      by_cases here : k = k'
      · subst here
        simp [counts, Timers.isActive]
      · have other : ¬ ∃ n', k'.fire n = k.fire n' := by
          rintro ⟨n', same⟩
          exact here (TimerKey.fire_key same).symm
        rw [if_neg (fun h => here h.1), or_iff_left other]
        rfl

/-! ## Time goes on -/

theorem prepare_later (c : Coordinator) (env : Surroundings) :
    c.desk.timers.Later (c.prepare env).desk.timers := by
  unfold prepare
  cases c.progress with
  | starting => exact Timers.later_start
  | running =>
      cases received : c.inbox.receive? with
      | none => exact .refl _
      | some next =>
          obtain ⟨item, inbox⟩ := next
          cases item with
          | timer key g event =>
              simp only [interpret]
              split
              · split
                · exact Timers.later_accept.trans Timers.later_start
                · exact Timers.later_accept
              · exact .refl _
          | _ => exact .refl _
  | _ => exact .refl _

theorem Ended.later {settings : Settings} {desk : TimedInbox} (h : Ended settings desk c) :
    desk.timers.Later c.desk.timers := by
  cases h with
  | anew progress created same quiet => exact quiet ▸ Timers.later_cancelAll
  | gone progress quiet => exact quiet ▸ Timers.later_cancelAll.trans Timers.later_cancelAll
  | broken progress quiet => exact quiet ▸ Timers.later_cancelAll

theorem apply_later (c : Coordinator) (act : Act) :
    c.desk.timers.Later (c.apply act).desk.timers := by
  cases act with
  | turn env =>
      cases handing : c.handed env with
      | none =>
          rw [apply, step_idle handing]
          exact prepare_later c env
      | some e =>
          have performed := (prepare_later c env).trans
            (Timers.later_heedAll _ env.now e.effects)
          rw [← TimedInbox.heedAll_timers] at performed
          by_cases going : e.turn.outcome = .proceed
          · obtain ⟨-, -, -, desk⟩ := step_proceed handing going
            rw [apply, desk]
            exact performed
          · exact performed.trans (step_ended handing going).later
  | abort =>
      rcases abort_cases (c := c) with ⟨-, same⟩ | ⟨-, quiet⟩
      · rw [apply, same]
        exact .refl _
      · rw [apply, quiet]
        exact Timers.later_cancelAll
  | _ => exact Timers.later_of_bare (apply_frame rfl).2.2

theorem run_later (c : Coordinator) (acts : List Act) :
    c.desk.timers.Later (c.run acts).desk.timers := by
  induction acts generalizing c with
  | nil => exact .refl _
  | cons act acts ih => exact (apply_later c act).trans (ih (c.apply act))

theorem history_later {acts : List Act} {pre post : List Moment} {x : Moment}
    (place : c.history acts = pre ++ x :: post) :
    x.after.desk.timers.Later (c.run acts).desk.timers := by
  obtain ⟨before, after, rfl, -, start⟩ := history_split place
  have same : c.run (before ++ x.act :: after) = x.after.run after := by
    rw [Moment.after, start]
    simp [run]
  rw [same]
  exact run_later x.after after

end Coordinator

end ClusterSingleton
