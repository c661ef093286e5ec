import ClusterSingleton.Proofs.Supervisor.Ends
import ClusterSingleton.Proofs.Coordinator.Items
import ClusterSingleton.Proofs.Units.Account

/-!
# What a coordinator does with its units

Effects reach the supervisor in order, and nothing else that happens in a turn touches a unit,
except that an instance that is created anew stops the units of the last one. `step_concluded` says
how an instance ends, and `apply_dealing` sorts the acts by what they do with the units.
-/

namespace ClusterSingleton

/-- What a coordinator comes to whose last instance ends so. -/
def Outcome.final : Outcome → Progress
  | fatal e => .finished (.error e)
  | overflow => .brokeOff
  | _ => .finished (.ok ())

theorem Outcome.final_ne_starting (outcome : Outcome) : outcome.final ≠ .starting := by
  cases outcome <;> rintro ⟨⟩

/-- The unit whose end the event reports. -/
def Event.reported? : Event → Option UnitId
  | unitTerminated u => some u
  | _ => none

/-- No effect sets a report of the end of a unit for later. -/
theorem Entry.sets_no_report {e : Entry} {x : Effect} {i : Item} {u : UnitId} (mem : x ∈ e.effects)
    (sets : x.Sets i) : i.carried ≠ .unitTerminated u := by
  cases done : e.before.terminated with
  | true =>
      rw [effects, e.turn_terminated done] at mem
      cases mem
  | false =>
      cases (e.row done).emits x mem with
      | atOnce immediate => cases sets <;> cases immediate
      | @retry k count after =>
          cases sets
          cases k <;> nofun
      | announcement =>
          cases sets
          nofun

namespace Supervisor

/-- The supervisor after an effect. -/
def heed (s : Supervisor) : Effect → Supervisor
  | .startUnit id => s.start id
  | .terminateUnit id => s.terminate id
  | _ => s

def heedAll (s : Supervisor) (es : List Effect) : Supervisor := es.foldl heed s

variable {s : Supervisor}

/-- Only unit work reaches the supervisor. -/
theorem heedAll_unitWork (es : List Effect) :
    s.heedAll es = s.heedAll (es.filter Effect.isUnitWork) := by
  induction es generalizing s with
  | nil => rfl
  | cons x xs ih =>
      have rest : s.heedAll (x :: xs) = (s.heed x).heedAll (xs.filter Effect.isUnitWork) :=
        ih (s := s.heed x)
      cases work : x.isUnitWork with
      | true => rw [rest, List.filter_cons_of_pos work]; rfl
      | false =>
          have idle : s.heed x = s := by cases x <;> first | rfl | cases work
          rw [rest, idle, List.filter_cons_of_neg (by simp [work])]

theorem heedAll_of_start {t : Turn} {id : UnitId} (work : t.unitWork = [.startUnit id]) :
    s.heedAll t.effects = s.start id := by
  rw [heedAll_unitWork, ← Turn.unitWork, work]
  rfl

/-- What starting a unit and asking one to end keep, all effects keep. -/
theorem heedAll_keeps {P : Supervisor → Prop} {es : List Effect}
    (start : ∀ s id, .startUnit id ∈ es → P s → P (s.start id))
    (terminate : ∀ s id, P s → P (s.terminate id)) (h : P s) : P (s.heedAll es) := by
  induction es generalizing s with
  | nil => exact h
  | cons x xs ih =>
      refine ih (fun s id mem => start s id (List.mem_cons_of_mem x mem)) ?_
      cases x with
      | startUnit id => exact start s id (List.mem_cons_self ..) h
      | terminateUnit id => exact terminate s id h
      | _ => exact h

/-- A known unit that the effects tell to end has been asked to. -/
theorem asked_heedAll {es : List Effect} {id : UnitId} (known : id ∈ s.ids)
    (tells : .terminateUnit id ∈ es) (other : .startUnit id ∉ es) : (s.heedAll es).Asked id := by
  have apart {u : UnitId} {xs : List Effect} (none : .startUnit id ∉ xs) (mem : .startUnit u ∈ xs) :
      id ≠ u := by
    rintro rfl
    exact none mem
  induction es generalizing s with
  | nil => cases tells
  | cons x xs ih =>
      have rest : .startUnit id ∉ xs := fun mem => other (List.mem_cons_of_mem x mem)
      rcases List.mem_cons.mp tells with rfl | later
      · show ((s.terminate id).heedAll xs).Asked id
        exact heedAll_keeps (P := (·.Asked id))
          (fun s u mem asked => asked.startAs (apart rest mem)) (fun _ _ asked => asked.terminate)
          (asked_terminate known)
      · refine ih ?_ later rest
        cases x with
        | startUnit u =>
            show id ∈ (s.start u).ids
            rw [ids_start]
            refine List.mem_append_left _ (List.mem_filter.mpr ⟨known, ?_⟩)
            simpa using apart other (List.mem_cons_self ..)
        | terminateUnit u =>
            show id ∈ (s.terminate u).ids
            rw [goes_terminate.ids]
            exact known
        | _ => exact known

/-- Effects that start no unit are requests to known units. -/
theorem goes_heedAll {es : List Effect} (none : ∀ id, .startUnit id ∉ es) :
    Goes s (s.heedAll es) := by
  induction es generalizing s with
  | nil => exact .refl s
  | cons x xs ih =>
      have first : Goes s (s.heed x) := by
        cases x with
        | startUnit id => exact absurd (List.mem_cons_self ..) (none id)
        | terminateUnit id => exact goes_terminate
        | _ => exact .refl s
      exact first.trans (ih fun id mem => none id (List.mem_cons_of_mem x mem))

end Supervisor

namespace Coordinator

variable {c : Coordinator} {env : Surroundings}

/-! ## Turns -/

theorem prepare_units (c : Coordinator) (env : Surroundings) :
    (c.prepare env).supervisor = c.supervisor ∧ (c.prepare env).restartsLeft = c.restartsLeft := by
  unfold prepare
  cases c.progress with
  | running =>
      cases c.inbox.receive? with
      | none => exact ⟨rfl, rfl⟩
      | some next =>
          obtain ⟨item, inbox⟩ := next
          simp only [interpret]
          repeat' split
          all_goals exact ⟨rfl, rfl⟩
  | _ => exact ⟨rfl, rfl⟩

theorem perform_units (c : Coordinator) (env : Surroundings) (x : Effect) :
    (c.perform env x).1.supervisor = c.supervisor.heed x ∧
      (c.perform env x).1.restartsLeft = c.restartsLeft := by
  cases x with
  | startNotifier => simp only [perform]; split <;> exact ⟨rfl, rfl⟩
  | send target message => simp only [perform, post]; split <;> exact ⟨rfl, rfl⟩
  | _ => exact ⟨rfl, rfl⟩

theorem performAll_units (c : Coordinator) (env : Surroundings) (es : List Effect) :
    (c.performAll env es).1.supervisor = c.supervisor.heedAll es ∧
      (c.performAll env es).1.restartsLeft = c.restartsLeft := by
  induction es generalizing c with
  | nil => exact ⟨rfl, rfl⟩
  | cons x xs ih =>
      obtain ⟨supervisor, restarts⟩ := perform_units c env x
      obtain ⟨heeded, same⟩ := ih (c.perform env x).1
      rw [Supervisor.heedAll, List.foldl_cons, ← supervisor, ← restarts]
      exact ⟨heeded, same⟩

theorem process_units (c : Coordinator) (env : Surroundings) (event : Event) :
    (c.process env event).1.supervisor = c.supervisor.heedAll (c.answer env event).effects ∧
      (c.process env event).1.restartsLeft = c.restartsLeft := by
  obtain ⟨metrics, noted⟩ := noteEnd_frame c event
  have performed := performAll_units
    { c with metrics := metrics, machine := (c.answer env event).machine } env
    (c.answer env event).effects
  unfold process
  rw [noted]
  dsimp only
  repeat' split
  all_goals exact performed

theorem conclude_units (c : Coordinator) (result : Except Error Unit) :
    (c.conclude result).1.supervisor = c.supervisor ∧
      (c.conclude result).1.restartsLeft = c.restartsLeft ∧
      (c.conclude result).1.machine = c.machine := by
  unfold conclude
  cases result with
  | ok _ => exact ⟨rfl, rfl, rfl⟩
  | error e => dsimp only; split <;> exact ⟨rfl, rfl, rfl⟩

/-- The end of an instance that leaves `s` and `m` behind, with so many restarts left: another one
is about to begin, with the units stopped, or the coordinator is gone and leaves them alone. -/
inductive Concluded (outcome : Outcome) (s : Supervisor) (m : Machine) (budget : Nat)
    (d : Coordinator) : Prop where
  | anew (progress : d.progress = .starting) (stopped : d.supervisor = s.abortAll)
      (spent : d.restartsLeft + 1 = budget)
  | gone (progress : d.progress = outcome.final) (kept : d.supervisor = s)
      (machine : d.machine = m) (same : d.restartsLeft = budget)
      (unaided : ∀ e, outcome = .fatal e → e.isStuck = true → budget = 0)

/-- The settings make a machine. -/
def Usable (c : Coordinator) : Prop := ∃ m, Machine.ofSettings c.settings = .ok m

theorem proceed_concluded {outcome : Outcome} (stops : outcome ≠ .proceed) (usable : c.Usable) :
    Concluded outcome c.supervisor c.machine c.restartsLeft (c.proceed outcome).1 := by
  cases outcome with
  | proceed => exact absurd rfl stops
  | stopped => exact .gone rfl rfl rfl rfl nofun
  | overflow => exact .gone rfl rfl rfl rfl nofun
  | fatal e =>
      obtain ⟨supervisor, budget, machine⟩ := conclude_units c (.error e)
      have settings := (conclude_frame c (.error e)).1
      rw [← supervisor, ← budget, ← machine]
      show Concluded _ _ _ _ ((c.conclude (.error e)).1.afterwards (.error e))
      unfold afterwards
      dsimp only
      by_cases again : e.isStuck = true ∧ 0 < (c.conclude (.error e)).1.restartsLeft
      · obtain ⟨m, made⟩ := usable
        rw [← settings] at made
        rw [if_pos again, reset, made]
        exact .anew rfl rfl (Nat.sub_add_cancel again.2)
      · rw [if_neg again]
        refine .gone rfl rfl rfl rfl fun x same stuck => ?_
        obtain rfl := Outcome.fatal.inj same
        exact Nat.eq_zero_of_not_pos fun some => again ⟨stuck, some⟩

/-- A dispatch is the turn of the machine, and what its outcome leads to. -/
theorem dispatch_eq (c : Coordinator) (env : Surroundings) (event : Event) :
    (c.dispatch env event).1 =
      ((c.process env event).1.proceed (c.answer env event).outcome).1 := by
  obtain ⟨-, -, -, -, outcome⟩ := process_frame c env event
  rw [dispatch, outcome]

theorem dispatch_concluded {event : Event} (stops : (c.answer env event).outcome ≠ .proceed)
    (usable : c.Usable) :
    Concluded (c.answer env event).outcome (c.supervisor.heedAll (c.answer env event).effects)
      (c.answer env event).machine c.restartsLeft (c.dispatch env event).1 := by
  obtain ⟨heeded, restarts⟩ := process_units c env event
  obtain ⟨machine, -, settings, -, -⟩ := process_frame c env event
  rw [dispatch_eq, ← heeded, ← restarts, ← machine]
  exact proceed_concluded stops (by rw [Usable, settings]; exact usable)

theorem step_units {e : Entry} (hands : c.handed env = some e)
    (going : e.turn.outcome = .proceed) :
    (c.step env).1.supervisor = c.supervisor.heedAll e.effects ∧
      (c.step env).1.restartsLeft = c.restartsLeft := by
  obtain ⟨supervisor, restarts⟩ := prepare_units c env
  have processed := process_units (c.prepare env) env e.event
  rw [answer_prepare hands, supervisor, restarts] at processed
  have proceeds : ((c.prepare env).answer env e.event).outcome = .proceed := by
    rw [answer_prepare hands]
    exact going
  rw [step_eq, hands]
  simp only [dispatch_proceed proceeds]
  exact processed

theorem step_concluded {e : Entry} (hands : c.handed env = some e)
    (stops : e.turn.outcome ≠ .proceed) (usable : c.Usable) :
    Concluded e.turn.outcome (c.supervisor.heedAll e.effects) e.after c.restartsLeft
      (c.step env).1 := by
  obtain ⟨supervisor, restarts⟩ := prepare_units c env
  have stops' : ((c.prepare env).answer env e.event).outcome ≠ .proceed := by
    rw [answer_prepare hands]
    exact stops
  have usable' : (c.prepare env).Usable := by
    rw [Usable, (prepare_frame c env).2.2]
    exact usable
  have concluded := dispatch_concluded stops' usable'
  rw [answer_prepare hands, supervisor, restarts] at concluded
  rw [step_eq, hands]
  exact concluded

theorem step_idle_units (idle : c.handed env = none) :
    (c.step env).1.supervisor = c.supervisor ∧ (c.step env).1.restartsLeft = c.restartsLeft := by
  rw [step_idle idle]
  exact prepare_units c env

/-! ## Any act -/

theorem afterwards_settings (c : Coordinator) (result : Except Error Unit) :
    (c.afterwards result).settings = c.settings := by
  unfold afterwards
  cases result with
  | ok _ => rfl
  | error e =>
      dsimp only
      split
      · split
        next d restarted => exact (reset_frame restarted).2.2.1
        next => rfl
      · rfl

theorem dispatch_settings (c : Coordinator) (env : Surroundings) (event : Event) :
    (c.dispatch env event).1.settings = c.settings := by
  have processed := (process_frame c env event).2.2.1
  have concluded (result : Except Error Unit) :
      (((c.process env event).1.conclude result).1.afterwards result).settings = c.settings :=
    (afterwards_settings _ _).trans ((conclude_frame _ _).1.trans processed)
  simp only [dispatch, proceed]
  cases (c.process env event).2.2 with
  | proceed => exact processed
  | stopped => exact concluded (.ok ())
  | fatal e => exact concluded (.error e)
  | overflow => exact processed

theorem apply_settings (c : Coordinator) (act : Act) : (c.apply act).settings = c.settings := by
  cases act with
  | turn env =>
      have prepared := (prepare_frame c env).2.2
      rw [apply, step_eq]
      split
      · exact (dispatch_settings _ _ _).trans prepared
      · exact prepared
  | arrive items =>
      obtain ⟨inbox, same⟩ := arrive_eq c items
      rw [same]
      rfl
  | tell message => simp only [apply, tell]; split <;> rfl
  | abort => simp only [apply, abort]; split <;> rfl
  | _ => rfl

theorem create_units {settings : Settings} {supervisor : Supervisor} {restarts : Nat}
    (created : create settings supervisor restarts = .ok c) :
    c.Usable ∧ c.supervisor = supervisor ∧ c.restartsLeft = restarts := by
  obtain ⟨m, made, rfl⟩ := create_eq created
  exact ⟨⟨m, made⟩, rfl, rfl⟩

theorem arrive_units (c : Coordinator) (items : List Item) :
    (c.apply (.arrive items)).supervisor = c.supervisor ∧
      (c.apply (.arrive items)).restartsLeft = c.restartsLeft := by
  obtain ⟨inbox, same⟩ := arrive_eq c items
  rw [same]
  exact ⟨rfl, rfl⟩

/-- What an act does with the units: it asks something of those that are known, processes the end of
one, or hands the machine an event, after which the instance goes on or is over. -/
inductive Dealing (c : Coordinator) (act : Act) : Prop where
  | asks (silent : Moment.handed ⟨act, c⟩ = none) (machine : (c.apply act).machine = c.machine)
      (goes : c.supervisor.Goes (c.apply act).supervisor)
      (same : (c.apply act).restartsLeft = c.restartsLeft)
  | reaps {id : UnitId} (is : act = .reapUnit id)
  | works {e : Entry} (hands : Moment.handed ⟨act, c⟩ = some e)
      (going : e.turn.outcome = .proceed) (progress : (c.apply act).progress = .running)
      (machine : (c.apply act).machine = e.after)
      (heeded : (c.apply act).supervisor = c.supervisor.heedAll e.effects)
      (same : (c.apply act).restartsLeft = c.restartsLeft)
  | ends {e : Entry} (hands : Moment.handed ⟨act, c⟩ = some e)
      (stops : e.turn.outcome ≠ .proceed)
      (concluded : Concluded e.turn.outcome (c.supervisor.heedAll e.effects) e.after c.restartsLeft
        (c.apply act))

theorem apply_dealing (usable : c.Usable) (distinct : c.supervisor.Distinct) (act : Act) :
    Dealing c act := by
  have still (silent : Moment.handed ⟨act, c⟩ = none)
      (machine : (c.apply act).machine = c.machine)
      (supervisor : (c.apply act).supervisor = c.supervisor)
      (same : (c.apply act).restartsLeft = c.restartsLeft) : Dealing c act :=
    .asks silent machine (supervisor ▸ .refl _) same
  cases act with
  | turn env =>
      cases handing : c.handed env with
      | none =>
          obtain ⟨supervisor, same⟩ := step_idle_units handing
          have machine : (c.step env).1.machine = c.machine := by
            rw [step_idle handing]
            exact (prepare_frame c env).1
          exact still handing machine supervisor same
      | some e =>
          by_cases going : e.turn.outcome = .proceed
          · obtain ⟨machine, progress, -, -⟩ := step_proceed handing going
            obtain ⟨heeded, same⟩ := step_units handing going
            exact .works handing going progress machine heeded same
          · exact .ends handing going (step_concluded handing going usable)
  | elapse now => exact still rfl rfl rfl rfl
  | arrive items =>
      obtain ⟨supervisor, same⟩ := arrive_units c items
      exact still rfl (apply_frame rfl).1 supervisor same
  | reorder queue => exact still rfl rfl rfl rfl
  | runUnit now id => exact .asks rfl rfl (Supervisor.goes_runUnit distinct) rfl
  | endUnit id => exact .asks rfl rfl (Supervisor.goes_endUnit distinct) rfl
  | reapUnit id => exact .reaps rfl
  | tell message =>
      have told : c.supervisor.Goes (c.tell message).supervisor ∧
          (c.tell message).restartsLeft = c.restartsLeft := by
        unfold tell
        split
        · exact ⟨Supervisor.goes_tell, rfl⟩
        · exact ⟨.refl _, rfl⟩
      exact .asks rfl (apply_frame rfl).1 told.1 told.2
  | abort => refine still rfl ?_ ?_ ?_ <;> (simp only [apply, abort]; split <;> rfl)

/-- How far a coordinator comes in an act in which its machine is handed nothing. -/
theorem progress_of_silent {act : Act} (silent : Moment.handed ⟨act, c⟩ = none) :
    (c.apply act).progress = c.progress ∨ (c.apply act).progress = .aborted ∨
      c.progress = .starting ∧ (c.apply act).progress = .running := by
  cases act with
  | turn env =>
      rw [apply, step_idle silent]
      cases progress : c.progress with
      | starting => exact Or.inr (Or.inr ⟨rfl, prepare_progress (Or.inl progress)⟩)
      | running => exact Or.inl (prepare_progress (Or.inr progress))
      | _ => exact Or.inl (by simp [prepare, progress])
  | abort =>
      rcases abort_cases (c := c) with ⟨-, same⟩ | ⟨progress, -⟩
      · exact Or.inl (congrArg Coordinator.progress same)
      · exact Or.inr (Or.inl progress)
  | _ => exact Or.inl (apply_frame rfl).2.1

/-! ## Histories -/

/-- What the machines of a coordinator were handed in a run. -/
def entries (c : Coordinator) (acts : List Act) : List Entry :=
  (c.history acts).filterMap Moment.handed

theorem entries_snoc (c : Coordinator) (acts : List Act) (act : Act) :
    c.entries (acts ++ [act]) = c.entries acts ++ (Moment.handed ⟨act, c.run acts⟩).toList := by
  rw [entries, history_snoc, List.filterMap_append]
  cases h : Moment.handed ⟨act, c.run acts⟩ <;> simp [entries, h]

/-- The end of a unit is processed only when it has ended. -/
def Act.Orderly (c : Coordinator) : Act → Prop
  | .reapUnit id => id ∈ c.supervisor.ended
  | _ => True

/-- Besides, nobody but the supervisor reports the end of a unit, and what was delivered is at most
put in another order. -/
def Act.Truthful (c : Coordinator) : Act → Prop
  | .arrive items => ∀ i ∈ items, i.carried.reported? = none
  | .reorder queue => queue.Perm c.inbox.queue
  | .reapUnit id => id ∈ c.supervisor.ended
  | _ => True

instance (c : Coordinator) : (act : Act) → Decidable (act.Truthful c)
  | .arrive items => inferInstanceAs (Decidable (∀ i ∈ items, i.carried.reported? = none))
  | .reorder queue => inferInstanceAs (Decidable (queue.Perm c.inbox.queue))
  | .reapUnit id => inferInstanceAs (Decidable (id ∈ c.supervisor.ended))
  | .turn _ | .elapse _ | .runUnit _ _ | .endUnit _ | .tell _ | .abort => .isTrue trivial

theorem Act.Truthful.orderly {act : Act} (h : act.Truthful c) : act.Orderly c := by
  cases act <;> first | exact h | trivial

/-- What comes to pass when nobody lies: a report that is under way was so before, or the end of the
unit is processed in this act. -/
theorem reported_apply {act : Act} {i : Item} {u : UnitId} (truthful : act.Truthful c)
    (underWay : i ∈ (c.apply act).desk.items) (report : i.carried = .unitTerminated u) :
    i ∈ c.desk.items ∨ act = .reapUnit u := by
  rcases mem_items_apply underWay with before | brings
  · exact Or.inl before
  · cases brings with
    | cleanup cleanup =>
        obtain ⟨generation, rfl⟩ := cleanup
        cases report
    | effect hands mem sets => exact absurd report (Entry.sets_no_report mem sets)
    | arrival mem =>
        have silent := truthful i mem
        rw [report] at silent
        cases silent
    | place mem =>
        have queued := (List.Perm.mem_iff truthful).mp mem
        exact Or.inl (TimedInbox.mem_items.mpr (Or.inl (List.mem_append_left _ queued)))
    | report same =>
        subst same
        cases report
        exact Or.inr rfl

/-- A report that the machine is handed was under way. -/
theorem handed_report {e : Entry} {u : UnitId} (hands : c.handed env = some e)
    (report : e.reports u) : ∃ i ∈ c.desk.items, i.carried = .unitTerminated u := by
  rcases handed_carried hands with start | ⟨i, mem, same⟩
  · rw [Entry.reports, start] at report
    cases report
  · exact ⟨i, mem, same ▸ report⟩

end Coordinator

end ClusterSingleton
