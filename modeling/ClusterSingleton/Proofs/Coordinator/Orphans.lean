import ClusterSingleton.Proofs.Coordinator.Units

/-!
# Units that are left behind

A coordinator that returns does not touch its units any more. `parted_or_abandoned` says what
became of each unit that it has started: it has ended, was told to end or is stopped, unless the
coordinator left at a moment at which leaving the unit to its supervisor is all that it does. Whoever
was told to end was asked so by its supervisor, in the way that the supervisor has of doing that.
-/

namespace ClusterSingleton

namespace Machine

/-- The ways to stop that leave a unit which is hosted, and whose end was not seen, to its
supervisor: the node itself is removed without having left, or nobody takes the unit over. -/
inductive Abandons (m : Machine) (u : UnitId) : Event → Outcome → Prop where
  | ownRemoval (held : m.phase.hold = .hosted u false) (present : m.selfExited = false) :
      Abandons m u (.memberRemoved m.self) .stopped
  | stuck {a : Address} {count : UInt32} (phase : m.phase = .wasOldest u false (some a))
      (exhausted : m.limits.takeOver < count)
      (running : m.clusterTerminated = false ∧ m.selfExited = false) :
      Abandons m u (.takeOverRetry count) (.fatal (takeOverStuck (some a)))

variable {m : Machine} {now : Nat} {fresh u : UnitId} {e : Event}

theorem Abandons.held {outcome : Outcome} (h : Abandons m u e outcome) :
    m.phase.hold = .hosted u false := by
  cases h with
  | ownRemoval held => exact held
  | stuck phase =>
      rw [phase]
      rfl

theorem Abandons.stuck_of_ne {outcome : Outcome} (h : Abandons m u e outcome)
    (other : outcome ≠ .stopped) : ∃ x, outcome = .fatal x ∧ x.isStuck = true := by
  cases h with
  | ownRemoval => exact absurd rfl other
  | stuck => exact ⟨_, rfl, rfl⟩

theorem handOverDone_hold (m : Machine) (now : Nat) (target : Option Address) :
    (m.handOverDone now target).machine.phase.hold = .nothing ∨
      (m.handOverDone now target).machine.phase.hold = m.phase.hold := by
  simp only [handOverDone]
  split
  · exact Or.inr rfl
  · split
    · exact Or.inl (by rw [enter_machine]; rfl)
    · exact Or.inl (by rw [enter_machine]; rfl)

/-- Whoever parts from its unit does not host it alive any more. -/
theorem handOver_parts {unit : UnitId} {unitEnded : Bool} {target : Option Address}
    (held : m.phase.hold = .hosted unit unitEnded) :
    (m.handOver now unit unitEnded target).machine.phase.hold ≠ .hosted u false := by
  unfold handOver
  split
  next ended =>
    subst ended
    rcases handOverDone_hold m now target with free | same
    · rw [free]
      nofun
    · rw [same, held]
      nofun
  · rw [enter_machine]
    nofun

theorem windDown_parts {unit : UnitId} {unitEnded : Bool}
    (held : m.phase.hold = .hosted unit unitEnded) :
    (m.windDown now unit unitEnded).machine.phase.hold ≠ .hosted u false := by
  unfold windDown
  split
  next ended =>
    subst ended
    rw [stop_machine, held]
    nofun
  · rw [enter_machine]
    nofun

/-- Nobody stops on the way into a phase that hosts a unit. -/
theorem enter_hosting {p : Phase} {effects : List Effect}
    (hosts : (m.enter now p effects).machine.phase.hold = .hosted u false) :
    (m.enter now p effects).outcome = .proceed := by
  rw [enter_machine] at hosts
  cases p <;> first | rfl | cases hosts

/-- **Whoever stops while it hosts a unit abandons it**, unless the step breaks off. -/
theorem Row.abandons {t : Turn} (row : Row m now fresh e t)
    (hosts : t.machine.phase.hold = .hosted u false) (stops : t.outcome ≠ .proceed)
    (cut : t.outcome ≠ .overflow) : Abandons m u e t.outcome := by
  cases row with
  | selfRemovedAsWasOldest h present => exact .ownRemoval hosts present
  | stuckTakeOver h exhausted going known =>
      have held : m.phase.hold = .hosted u false := hosts
      rw [h] at held
      obtain ⟨rfl, rfl⟩ := Hold.hosted.inj held
      exact .stuck h exhausted going
  | ignores h =>
      rw [fallback_ends] at stops ⊢
      rw [fallback_frame.1] at hosts
      split at stops
      next own =>
        rw [if_pos own]
        obtain ⟨rfl, present⟩ := own
        exact .ownRemoval hosts present
      next => exact absurd rfl stops
  | hosts grounds => exact absurd (enter_hosting hosts) stops
  | unsafeFromStart | waitsFromStart | asksPrevious | yields =>
      exact absurd (enter_hosting hosts) stops
  | handsOver reason =>
      refine absurd hosts (handOver_parts ?_)
      rw [reason.phase]
      exact reason.held.1
  | endsQuietly h | findsNobody h => exact absurd hosts (windDown_parts (by rw [h]; rfl))
  | completes h =>
      rcases handOverDone_hold m now _ with free | same
      · rw [free] at hosts
        cases hosts
      · rw [same, h] at hosts
        cases hosts
  | selfRemovedWaiting h =>
      have held : m.phase.hold = .hosted u false := hosts
      cases phase : m.phase <;> simp [phase, waits, Phase.hold] at held h
  | overflowsHandOver | overflowsTakeOver => exact absurd rfl cut
  | quitsHandOver h | stuckHandOver h | unitEndsStopping h | selfRemovedAtEnd h =>
      have held : m.phase.hold = .hosted u false := hosts
      rw [h] at held
      cases held
  | _ => exact absurd rfl stops

end Machine

/-- Whether a coordinator was stopped from outside or broke off, so that it does not return. -/
def Progress.isCut : Progress → Bool
  | aborted => true
  | brokeOff => true
  | _ => false

namespace Coordinator

/-- In a turn in which the machine has told the unit to end, the unit was asked to. -/
def Told (c : Coordinator) (acts : List Act) (u : UnitId) : Prop :=
  ∃ x ∈ c.history acts, ∃ e, x.handed = some e ∧ e.tells u ∧ x.after.supervisor.Asked u

/-- The coordinator was handed a report of the end of the unit before the unit had ended. -/
def Misreported (log : List Moment) (u : UnitId) : Prop :=
  ∃ x ∈ log, ∃ e, x.handed = some e ∧ e.reports u ∧ ¬ x.before.supervisor.HasEnded u

/-- The unit has ended, was told to end or is stopped, or its end was reported falsely. -/
def Parted (c : Coordinator) (acts : List Act) (u : UnitId) : Prop :=
  (c.run acts).supervisor.HasEnded u ∨ c.Told acts u ∨
    (c.run acts).supervisor.Aborts u ∨ Misreported (c.history acts) u

/-- The coordinator has returned on an event with which it abandoned the unit, and no restart was
left to stop it. -/
def Abandoned (c : Coordinator) (acts : List Act) (u : UnitId) : Prop :=
  ∃ pre e outcome, c.entries acts = pre ++ [e] ∧ e.before.Abandons u e.event outcome ∧
    (c.run acts).progress = outcome.final ∧
    (outcome ≠ .stopped → (c.run acts).restartsLeft = 0)

/-- The unit is hosted and known. -/
def InHand (c : Coordinator) (u : UnitId) : Prop :=
  (c.progress = .starting ∨ c.progress = .running) ∧ c.machine.phase.hold = .hosted u false ∧
    u ∈ c.supervisor.ids

/-- What is known of all units of a run. -/
structure Tended (c : Coordinator) (acts : List Act) : Prop where
  usable : (c.run acts).Usable
  sound : (c.run acts).Sound
  distinct : (c.run acts).supervisor.Distinct
  logged : (c.run acts).supervisor.Logged
  /-- Whatever was started is in hand or done with, unless the coordinator was cut short. -/
  fate : (c.run acts).progress.isCut = false → ∀ u, (∃ e ∈ c.entries acts, e.starts u) →
    (c.run acts).InHand u ∨ c.Parted acts u ∨ c.Abandoned acts u

variable {c : Coordinator} {acts : List Act} {act : Act} {u : UnitId} {e : Entry}

/-! ## One act -/

theorem Told.snoc (told : c.Told acts u) : c.Told (acts ++ [act]) u := by
  obtain ⟨x, mem, rest⟩ := told
  exact ⟨x, by rw [history_snoc]; exact List.mem_append_left _ mem, rest⟩

theorem told_of_act (hands : Moment.handed ⟨act, c.run acts⟩ = some e) (tells : e.tells u)
    (asked : ((c.run acts).apply act).supervisor.Asked u) : c.Told (acts ++ [act]) u := by
  refine ⟨⟨act, c.run acts⟩, ?_, e, hands, tells, asked⟩
  rw [history_snoc]
  exact List.mem_append_right _ (List.mem_singleton_self _)

/-- Whoever was asked to end was told so by a machine. -/
theorem Told.tells (told : c.Told acts u) : ∃ e ∈ c.entries acts, e.tells u := by
  obtain ⟨x, mem, e, hands, tells, -⟩ := told
  exact ⟨e, List.mem_filterMap.mpr ⟨x, mem, hands⟩, tells⟩

theorem misreported_snoc (lied : Misreported (c.history acts) u) :
    Misreported (c.history (acts ++ [act])) u := by
  obtain ⟨x, mem, rest⟩ := lied
  exact ⟨x, by rw [history_snoc]; exact List.mem_append_left _ mem, rest⟩

/-- Starting a unit and asking one to end takes no end back. -/
theorem hasEnded_heedAll {s : Supervisor} {es : List Effect} (ended : s.HasEnded u) :
    (s.heedAll es).HasEnded u :=
  Supervisor.heedAll_keeps (P := (·.HasEnded u)) (fun _ _ _ h => h)
    (fun _ _ h => Supervisor.goes_terminate.hasEnded h) ended

/-- No act takes the end of a unit back. -/
theorem hasEnded_apply (kept : Tended c acts) (ended : (c.run acts).supervisor.HasEnded u) :
    ((c.run acts).apply act).supervisor.HasEnded u := by
  cases apply_dealing kept.usable kept.distinct act with
  | asks _ _ goes => exact goes.hasEnded ended
  | reaps is =>
      subst is
      exact ended
  | works _ _ _ _ heeded =>
      rw [heeded]
      exact hasEnded_heedAll ended
  | ends _ _ concluded =>
      cases concluded with
      | anew _ stopped =>
          rw [stopped]
          exact Supervisor.goes_abortAll.hasEnded (hasEnded_heedAll ended)
      | gone _ same =>
          rw [same]
          exact hasEnded_heedAll ended

theorem aborts_heedAll {s : Supervisor} {es : List Effect} (aborted : s.Aborts u)
    (other : .startUnit u ∉ es) : (s.heedAll es).Aborts u :=
  Supervisor.heedAll_keeps (P := (·.Aborts u))
    (fun _ _ mem h => h.startAs (by rintro rfl; exact other mem))
    (fun _ _ h => Supervisor.goes_terminate.aborts u h) aborted

/-- A unit that is started is hosted, and nothing else is asked of any unit. -/
theorem hosted_of_starts (running : e.before.terminated = false) (start : e.starts u) :
    e.turn.unitWork = [.startUnit u] ∧ e.after.phase.hold = .hosted u false := by
  have mem : .startUnit u ∈ e.turn.unitWork := List.mem_filter.mpr ⟨start, rfl⟩
  cases e.unitTurn running with
  | starts free work hosts =>
      rw [work] at mem
      obtain rfl := Effect.startUnit.inj (List.mem_singleton.mp mem)
      exact ⟨work, hosts⟩
  | keeps work | reports _ _ work | promises _ _ work => simp [work] at mem
  | tells _ _ work | releases _ work =>
      rcases work with work | ⟨a, work⟩ <;> simp [work] at mem

/-- A unit that is hosted stays so until it is told to end or its end is reported. -/
theorem hosted_next (running : e.before.terminated = false)
    (held : e.before.phase.hold = .hosted u false) :
    e.turn.unitWork = [] ∧ e.after.phase.hold = .hosted u false ∨ e.tells u ∨ e.reports u := by
  have same {v : UnitId} {b : Bool} (other : e.before.phase.hold = .hosted v b) :
      u = v ∧ false = b := Hold.hosted.inj (held.symm.trans other)
  cases e.unitTurn running with
  | keeps work still => exact Or.inl ⟨work, still.trans held⟩
  | starts free =>
      rw [held] at free
      cases free
  | reports other event =>
      obtain ⟨rfl, -⟩ := same other
      exact Or.inr (Or.inr event)
  | tells other event work =>
      obtain ⟨rfl, -⟩ := same other
      refine Or.inr (Or.inl ?_)
      rcases work with work | ⟨b, work⟩ <;> rw [Account.tells_of_work work] <;> simp
  | promises told =>
      rw [held] at told
      cases told
  | releases other =>
      rcases other with other | ⟨told, -⟩
      · cases (same other).2
      · rw [held] at told
        cases told

/-- What becomes of a unit in a turn, before it is clear whether the instance goes on. -/
theorem turn_fate (kept : Tended c acts) (env : Surroundings)
    (hands : (c.run acts).handed env = some e)
    (started : ∃ x ∈ c.entries (acts ++ [.turn env]), x.starts u) :
    let s := (c.run acts).supervisor.heedAll e.effects
    (e.after.phase.hold = .hosted u false ∧ u ∈ s.ids) ∨ s.HasEnded u ∨ s.Aborts u ∨
      (e.tells u ∧ s.Asked u ∨ c.Told (acts ++ [.turn env]) u) ∨
      Misreported (c.history (acts ++ [.turn env])) u := by
  intro s
  have here : Moment.handed ⟨.turn env, c.run acts⟩ = some e := hands
  have entries : c.entries (acts ++ [.turn env]) = c.entries acts ++ [e] := by
    rw [entries_snoc, here]
    rfl
  have machine : e.before = (c.run acts).machine := by rw [handed_before hands]
  have alive := progress_of_handed hands
  have running := running_of_handed kept.sound hands
  by_cases start : e.starts u
  · obtain ⟨work, hosts⟩ := hosted_of_starts running start
    refine Or.inl ⟨hosts, ?_⟩
    have same : s = (c.run acts).supervisor.start u := Supervisor.heedAll_of_start work
    rw [same, Supervisor.ids_start]
    exact List.mem_append_right _ (List.mem_singleton_self u)
  · have before : ∃ x ∈ c.entries acts, x.starts u := by
      obtain ⟨x, mem, starts⟩ := started
      rw [entries, List.mem_append, List.mem_singleton] at mem
      rcases mem with mem | rfl
      · exact ⟨x, mem, starts⟩
      · exact absurd starts start
    have going : (c.run acts).progress.isCut = false := by
      rcases alive with h | h <;> rw [h] <;> rfl
    rcases kept.fate going u before with
      ⟨-, held, known⟩ | parted | ⟨_, _, outcome, -, -, finished, -⟩
    · rw [← machine] at held
      rcases hosted_next running held with ⟨work, hosts⟩ | tells | report
      · refine Or.inl ⟨hosts, ?_⟩
        have same : s = (c.run acts).supervisor := by
          show (c.run acts).supervisor.heedAll e.effects = _
          rw [Supervisor.heedAll_unitWork]
          exact congrArg (Supervisor.heedAll _) work
        rw [same]
        exact known
      · exact Or.inr (Or.inr (Or.inr (Or.inl
          (Or.inl ⟨tells, Supervisor.asked_heedAll known tells start⟩))))
      · by_cases ended : (c.run acts).supervisor.HasEnded u
        · exact Or.inr (Or.inl (hasEnded_heedAll ended))
        · refine Or.inr (Or.inr (Or.inr (Or.inr
            ⟨⟨.turn env, c.run acts⟩, ?_, e, hands, report, ended⟩)))
          rw [history_snoc]
          exact List.mem_append_right _ (List.mem_singleton_self _)
    · rcases parted with ended | told | aborted | lied
      · exact Or.inr (Or.inl (hasEnded_heedAll ended))
      · exact Or.inr (Or.inr (Or.inr (Or.inl (Or.inr told.snoc))))
      · exact Or.inr (Or.inr (Or.inl (aborts_heedAll aborted start)))
      · exact Or.inr (Or.inr (Or.inr (Or.inr (misreported_snoc lied))))
    · rcases alive with h | h <;> rw [h] at finished <;> cases outcome <;> cases finished

/-- What becomes of a unit while the machine is handed nothing. -/
theorem silent_fate (kept : Tended c acts) (silent : Moment.handed ⟨act, c.run acts⟩ = none)
    (machine : ((c.run acts).apply act).machine = (c.run acts).machine)
    (known : u ∈ (c.run acts).supervisor.ids →
      u ∈ ((c.run acts).apply act).supervisor.ids ∨ ((c.run acts).apply act).supervisor.HasEnded u)
    (ended : (c.run acts).supervisor.HasEnded u → ((c.run acts).apply act).supervisor.HasEnded u)
    (aborted : (c.run acts).supervisor.Aborts u →
      ((c.run acts).apply act).supervisor.Aborts u ∨
        ((c.run acts).apply act).supervisor.HasEnded u)
    (restarts : ((c.run acts).apply act).restartsLeft = (c.run acts).restartsLeft)
    (going : ((c.run acts).apply act).progress.isCut = false)
    (started : ∃ e ∈ c.entries acts, e.starts u) :
    (c.run (acts ++ [act])).InHand u ∨ c.Parted (acts ++ [act]) u ∨
      c.Abandoned (acts ++ [act]) u := by
  have entries : c.entries (acts ++ [act]) = c.entries acts := by
    rw [entries_snoc, silent, Option.toList_none, List.append_nil]
  have moved := progress_of_silent silent
  have running : ((c.run acts).apply act).progress ≠ .aborted := by
    intro gone
    rw [gone] at going
    cases going
  have before : (c.run acts).progress.isCut = false := by
    rcases moved with same | gone | ⟨starting, -⟩
    · exact same ▸ going
    · exact absurd gone running
    · rw [starting]
      rfl
  have past : ((c.run acts).apply act).supervisor.HasEnded u → c.Parted (acts ++ [act]) u := by
    intro h
    refine Or.inl ?_
    rw [run_snoc]
    exact h
  rcases kept.fate before u started with
    ⟨alive, held, here⟩ | parted | ⟨pre, e, outcome, last, rest⟩
  · rcases known here with here | h
    · refine Or.inl ⟨?_, ?_, ?_⟩
      · rw [run_snoc]
        rcases moved with same | gone | ⟨-, runs⟩
        · rw [same]
          exact alive
        · exact absurd gone running
        · exact Or.inr runs
      · rw [run_snoc, machine]
        exact held
      · rw [run_snoc]
        exact here
    · exact Or.inr (Or.inl (past h))
  · refine Or.inr (Or.inl ?_)
    rcases parted with h | told | gone | lied
    · exact past (ended h)
    · exact Or.inr (Or.inl told.snoc)
    · rcases aborted gone with gone | h
      · refine Or.inr (Or.inr (Or.inl ?_))
        rw [run_snoc]
        exact gone
      · exact past h
    · exact Or.inr (Or.inr (Or.inr (misreported_snoc lied)))
  · obtain ⟨abandons, finished, spent⟩ := rest
    refine Or.inr (Or.inr ⟨pre, e, outcome, entries.trans last, abandons, ?_, ?_⟩)
    · rw [run_snoc]
      rcases moved with same | gone | ⟨starting, -⟩
      · exact same.trans finished
      · exact absurd gone running
      · rw [starting] at finished
        cases outcome <;> cases finished
    · rw [run_snoc, restarts]
      exact spent

/-- **Every act tends to all units**, as long as no end is processed before it has come. -/
theorem Tended.snoc (kept : Tended c acts) (orderly : act.Orderly (c.run acts)) :
    Tended c (acts ++ [act]) := by
  have usable : (c.run (acts ++ [act])).Usable := by
    rw [Usable, run_snoc, apply_settings]
    exact kept.usable
  have sound : (c.run (acts ++ [act])).Sound := by
    rw [run_snoc]
    exact apply_sound kept.sound act
  have distinct_heedAll {es : List Effect} : ((c.run acts).supervisor.heedAll es).Distinct :=
    Supervisor.heedAll_keeps (fun _ _ _ h => h.startAs)
      (fun _ _ h => Supervisor.goes_terminate.distinct h) kept.distinct
  have logged_heedAll {es : List Effect} : ((c.run acts).supervisor.heedAll es).Logged :=
    Supervisor.heedAll_keeps (fun _ _ _ h => h.startAs)
      (fun _ _ h => Supervisor.goes_terminate.logged h) kept.logged
  cases apply_dealing kept.usable kept.distinct act with
  | asks silent machine goes same =>
      refine ⟨usable, sound, ?_, ?_, fun going u started => ?_⟩
      · rw [run_snoc]
        exact goes.distinct kept.distinct
      · rw [run_snoc]
        exact goes.logged kept.logged
      · rw [run_snoc] at going
        rw [entries_snoc, silent, Option.toList_none, List.append_nil] at started
        exact silent_fate kept silent machine (fun known => Or.inl (goes.ids ▸ known)) goes.hasEnded
          (fun gone => Or.inl (goes.aborts u gone)) same going started
  | @reaps id is =>
      subst is
      obtain ⟨v, here, past, rfl⟩ := Supervisor.mem_ended.mp orderly
      have ended : (c.run acts).supervisor.HasEnded v.id := kept.logged v here past
      refine ⟨usable, sound, ?_, ?_, fun going u started => ?_⟩
      · rw [run_snoc]
        exact kept.distinct.reap
      · rw [run_snoc]
        exact kept.logged.reap
      · rw [run_snoc] at going
        rw [entries_snoc, Moment.handed, Option.toList_none, List.append_nil] at started
        refine silent_fate kept rfl rfl (fun known => ?_) id (fun gone => ?_) rfl going started
        · by_cases same : u = v.id
          · exact Or.inr (same ▸ ended)
          · refine Or.inl ?_
            show u ∈ ((c.run acts).supervisor.reap v.id).ids
            rw [Supervisor.ids_reap]
            exact List.mem_filter.mpr ⟨known, by simpa using same⟩
        · by_cases same : u = v.id
          · exact Or.inr (same ▸ ended)
          · exact Or.inl (gone.reap same)
  | @works e hands going progress machine heeded same =>
      obtain ⟨env, rfl⟩ := turn_of_handed hands
      refine ⟨usable, sound, ?_, ?_, fun _ u started => ?_⟩
      · rw [run_snoc, heeded]
        exact distinct_heedAll
      · rw [run_snoc, heeded]
        exact logged_heedAll
      · have fate := turn_fate kept env hands started
        rw [← heeded, ← machine, ← run_snoc] at fate
        rcases fate with ⟨hosts, known⟩ | ended | aborted | (⟨tells, asked⟩ | told) | lied
        · exact Or.inl ⟨Or.inr (by rw [run_snoc]; exact progress), hosts, known⟩
        · exact Or.inr (Or.inl (Or.inl ended))
        · exact Or.inr (Or.inl (Or.inr (Or.inr (Or.inl aborted))))
        · rw [run_snoc] at asked
          exact Or.inr (Or.inl (Or.inr (Or.inl (told_of_act hands tells asked))))
        · exact Or.inr (Or.inl (Or.inr (Or.inl told)))
        · exact Or.inr (Or.inl (Or.inr (Or.inr (Or.inr lied))))
  | @ends e hands stops concluded =>
      obtain ⟨env, rfl⟩ := turn_of_handed hands
      have fate {u : UnitId} := turn_fate (u := u) kept env hands
      rw [← run_snoc] at concluded
      cases concluded with
      | anew progress stopped spent =>
          refine ⟨usable, sound, ?_, ?_, fun _ u started => Or.inr (Or.inl ?_)⟩
          · rw [stopped]
            exact Supervisor.goes_abortAll.distinct distinct_heedAll
          · rw [stopped]
            exact Supervisor.goes_abortAll.logged logged_heedAll
          · rw [Parted, stopped]
            rcases fate started with ⟨-, known⟩ | ended | aborted | (⟨tells, asked⟩ | told) | lied
            · exact Or.inr (Or.inr (Or.inl (Supervisor.aborts_abortAll known)))
            · exact Or.inl (Supervisor.goes_abortAll.hasEnded ended)
            · exact Or.inr (Or.inr (Or.inl (Supervisor.goes_abortAll.aborts u aborted)))
            · refine Or.inr (Or.inl (told_of_act hands tells ?_))
              rw [← run_snoc, stopped]
              exact asked.abortAll
            · exact Or.inr (Or.inl told)
            · exact Or.inr (Or.inr (Or.inr lied))
      | gone progress same machine budget unaided =>
          refine ⟨usable, sound, ?_, ?_, fun whole u started => Or.inr ?_⟩
          · rw [same]
            exact distinct_heedAll
          · rw [same]
            exact logged_heedAll
          · rw [Parted, same]
            rcases fate started with ⟨hosts, -⟩ | ended | aborted | (⟨tells, asked⟩ | told) | lied
            · have running := running_of_handed kept.sound hands
              have cut : e.turn.outcome ≠ .overflow := by
                intro broke
                rw [progress, broke] at whole
                cases whole
              have abandons := (e.row running).abandons hosts stops cut
              have last : c.entries (acts ++ [.turn env]) = c.entries acts ++ [e] := by
                rw [entries_snoc, hands]
                rfl
              refine Or.inr ⟨c.entries acts, e, _, last, abandons, progress, fun other => ?_⟩
              obtain ⟨x, outcome, stuck⟩ := abandons.stuck_of_ne other
              exact budget.trans (unaided x outcome stuck)
            · exact Or.inl (Or.inl ended)
            · exact Or.inl (Or.inr (Or.inr (Or.inl aborted)))
            · refine Or.inl (Or.inr (Or.inl (told_of_act hands tells ?_)))
              rw [← run_snoc, same]
              exact asked
            · exact Or.inl (Or.inr (Or.inl told))
            · exact Or.inl (Or.inr (Or.inr (Or.inr lied)))

/-! ## Whole runs -/

section Run

variable {settings : Settings} {name : String} {signal : TerminationSignal}
  {script : List Behaviour} {restarts : Nat}
  (created : create settings (.create name signal script) restarts = .ok c)

include created

theorem tended_of_run (orderly : ∀ x ∈ c.history acts, x.act.Orderly x.before) :
    Tended c acts := by
  induction acts using List.reverseRecOn with
  | nil =>
      obtain ⟨usable, supervisor, -⟩ := create_units created
      refine ⟨usable, create_sound created, ?_, ?_, ?_⟩
      · show c.supervisor.ids.Nodup
        rw [supervisor]
        exact List.nodup_nil
      · show c.supervisor.Logged
        rw [supervisor]
        intro u mem
        cases mem
      · rintro - u ⟨e, mem, -⟩
        cases mem
  | append_singleton acts act ih =>
      rw [history_snoc, List.forall_mem_append, List.forall_mem_singleton] at orderly
      exact (ih orderly.1).snoc orderly.2

/-- When nobody lies, each report that is under way is that of a unit that has ended, and so is each
that was handled. -/
theorem truly_reported (truthful : ∀ x ∈ c.history acts, x.act.Truthful x.before) :
    (∀ i ∈ (c.run acts).desk.items, ∀ u, i.carried = .unitTerminated u →
      (c.run acts).supervisor.HasEnded u) ∧ ∀ u, ¬ Misreported (c.history acts) u := by
  induction acts using List.reverseRecOn with
  | nil =>
      obtain ⟨-, -, desk⟩ := create_frame created
      refine ⟨?_, ?_⟩
      · show ∀ i ∈ c.desk.items, _
        rw [desk]
        nofun
      · rintro u ⟨x, mem, -⟩
        cases mem
  | append_singleton acts act ih =>
      rw [history_snoc, List.forall_mem_append, List.forall_mem_singleton] at truthful
      obtain ⟨before, truthful⟩ := truthful
      obtain ⟨known, silent⟩ := ih before
      have kept := tended_of_run created fun x mem => (before x mem).orderly
      constructor
      · intro i underWay u report
        rw [run_snoc] at underWay ⊢
        rcases reported_apply truthful underWay report with earlier | rfl
        · exact hasEnded_apply kept (known i earlier u report)
        · obtain ⟨v, here, past, rfl⟩ := Supervisor.mem_ended.mp truthful
          exact hasEnded_apply kept (kept.logged v here past)
      · rintro u ⟨x, mem, e, hands, report, alive⟩
        rw [history_snoc, List.mem_append, List.mem_singleton] at mem
        rcases mem with mem | rfl
        · exact silent u ⟨x, mem, e, hands, report, alive⟩
        · obtain ⟨env, rfl⟩ := turn_of_handed hands
          obtain ⟨i, underWay, same⟩ := handed_report hands report
          exact alive (known i underWay u same)

/-- **No unit is left behind without a reason.** When a coordinator has returned, each unit that it
has started has ended, was told and asked to end, is stopped, or is the one that it hosted when its
own node was removed without having left, or when nobody took the unit over and no restart was left.
Besides, a false report may have made it believe that the unit had ended; no report of the supervisor
is false. -/
theorem parted_or_abandoned {u : UnitId} {result : Except Error Unit}
    (orderly : ∀ x ∈ c.history acts, x.act.Orderly x.before)
    (returned : (c.run acts).progress = .finished result)
    (started : ∃ e ∈ c.entries acts, e.starts u) :
    ((c.run acts).supervisor.HasEnded u ∨ c.Told acts u ∨
      (c.run acts).supervisor.Aborts u ∨ c.Abandoned acts u ∨
      Misreported (c.history acts) u) ∧
      ((∀ x ∈ c.history acts, x.act.Truthful x.before) → ¬ Misreported (c.history acts) u) := by
  refine ⟨?_, fun truthful => (truly_reported created truthful).2 u⟩
  have kept := tended_of_run created orderly
  have going : (c.run acts).progress.isCut = false := by
    rw [returned]
    rfl
  rcases kept.fate going u started with ⟨alive, -⟩ | parted | abandoned
  · rcases alive with h | h <;> rw [returned] at h <;> cases h
  · rcases parted with ended | told | aborted | lied
    · exact Or.inl ended
    · exact Or.inr (Or.inl told)
    · exact Or.inr (Or.inr (Or.inl aborted))
    · exact Or.inr (Or.inr (Or.inr (Or.inr lied)))
  · exact Or.inr (Or.inr (Or.inr (Or.inl abandoned)))

end Run

deriving instance DecidableEq for Progress

/-- A node that is the oldest and whose new oldest never asks for the unit begins anew with its only
restart, and is removed then: the unit is stopped. -/
theorem parted_or_abandoned_removedAfterRestart :
    let world : Surroundings := ⟨0, fun _ => true⟩
    let acts : List Act :=
      [.turn world,
        .arrive [.event (.initialOldest (some ⟨"a"⟩) true), .event (.oldestChanged (some ⟨"b"⟩)),
          .event (.takeOverRetry 1000), .event (.memberRemoved ⟨"a"⟩)],
        .turn world, .turn world, .turn world, .turn world, .turn world]
    ∃ c, create (.forNode ⟨"a"⟩) (.ofSettings .default []) 1 = .ok c ∧
      (∀ x ∈ c.history acts, x.act.Orderly x.before) ∧
      (c.run acts).progress = .finished (.ok ()) ∧ (∃ e ∈ c.entries acts, e.starts (.nth 1)) ∧
      (c.run acts).supervisor.Aborts (.nth 1) := by
  intro world acts
  have created : create (.forNode ⟨"a"⟩) (.ofSettings .default []) 1 = .ok _ := rfl
  have honest : ∀ act ∈ acts, ∀ d : Coordinator, act.Truthful d := by
    simp [acts, Act.Truthful, Item.carried, Event.reported?]
  have truthful (c : Coordinator) : ∀ x ∈ c.history acts, x.act.Truthful x.before :=
    fun x mem => honest x.act (act_mem_of_history mem) x.before
  have orderly (c : Coordinator) : ∀ x ∈ c.history acts, x.act.Orderly x.before :=
    fun x mem => (truthful c x mem).orderly
  refine ⟨_, created, orderly _, by decide +kernel, by decide +kernel, ?_⟩
  obtain ⟨fate, nobody⟩ := parted_or_abandoned (u := .nth 1) created (orderly _)
    (by decide +kernel : _ = Progress.finished (.ok ())) (by decide +kernel)
  rcases fate with ended | told | aborted | ⟨pre, e, outcome, last, abandons, -⟩ | lied
  · exact absurd ended (by decide +kernel)
  · exact absurd told.tells (by decide +kernel)
  · exact aborted
  · -- the last event met a machine that had just begun
    have held := congrArg (fun log => log.getLast?.map fun e : Entry => e.before.phase.hold) last
    simp only [List.getLast?_append, List.getLast?_singleton, Option.some_or, Option.map_some,
      abandons.held] at held
    exact absurd held (by decide +kernel)
  · exact absurd lied (nobody (truthful _))

/-- A unit was started and runs on, and nothing was ever asked of it. -/
def RunsOn (c : Coordinator) (acts : List Act) (u : UnitId) : Prop :=
  (∃ e ∈ c.entries acts, e.starts u) ∧ ((c.run acts).supervisor.get? u).isSome = true ∧
    ¬ (c.run acts).supervisor.HasEnded u ∧ (∀ e ∈ c.entries acts, ¬ e.tells u) ∧
    ¬ (c.run acts).supervisor.Aborts u

instance (c : Coordinator) (acts : List Act) (u : UnitId) : Decidable (c.RunsOn acts u) :=
  inferInstanceAs (Decidable (_ ∧ _))

/-- The exceptions are there: the unit of a node that is removed without having left, that of a node
whose new oldest never asks for it, and one whose end was reported falsely, all run on. -/
theorem runsOn_afterReturn :
    let world : Surroundings := ⟨0, fun _ => true⟩
    let removed : List Act :=
      [.turn world,
        .arrive [.event (.initialOldest (some ⟨"a"⟩) true), .event (.memberRemoved ⟨"a"⟩)],
        .turn world, .turn world]
    let stuck : List Act :=
      [.turn world,
        .arrive [.event (.initialOldest (some ⟨"a"⟩) true), .event (.oldestChanged (some ⟨"b"⟩)),
          .event (.takeOverRetry 1000)],
        .turn world, .turn world, .turn world]
    let lied : List Act :=
      [.turn world,
        .arrive [.event (.initialOldest (some ⟨"a"⟩) true), .event (.unitTerminated (.nth 1)),
          .peer ⟨"b"⟩ .handOverToMe, .event (.memberRemoved ⟨"a"⟩)],
        .turn world, .turn world, .turn world, .turn world]
    ∃ c, create (.forNode ⟨"a"⟩) (.ofSettings .default []) 0 = .ok c ∧
      ((c.run removed).progress = .finished (.ok ()) ∧ c.RunsOn removed (.nth 1)) ∧
      ((c.run stuck).progress = .finished (.error (Machine.takeOverStuck (some ⟨"b"⟩))) ∧
        c.RunsOn stuck (.nth 1)) ∧
      (c.run lied).progress = .finished (.ok ()) ∧ c.RunsOn lied (.nth 1) := by
  intro world removed stuck lied
  have created : create (.forNode ⟨"a"⟩) (.ofSettings .default []) 0 = .ok _ := rfl
  exact ⟨_, created, ⟨by decide +kernel, by decide +kernel⟩, ⟨by decide +kernel, by decide +kernel⟩,
    by decide +kernel, by decide +kernel⟩

end Coordinator

end ClusterSingleton
