import ClusterSingleton.Proofs.Coordinator.Restarts
import ClusterSingleton.Proofs.Retries.Counts
import ClusterSingleton.Proofs.Units.Token

/-!
# The metrics account for the run

`metrics_account` says what each figure of the metrics comes to, over all instances of a coordinator.
Within one instance the units that were started and those that were terminated balance: the end of a
unit is counted once, whatever is reported, since the machine knows the one unit whose end is open.
-/

namespace ClusterSingleton

/-- The unit was started, and its end was not handled since. -/
def Outstanding (log : List Entry) (u : UnitId) : Prop :=
  ∃ p s q, log = p ++ s :: q ∧ s.starts u ∧ ∀ r ∈ q, ¬ r.reports u

theorem mem_liveUnits {log : List Entry} {u : UnitId} :
    u ∈ liveUnits log ↔ Outstanding log u := by
  induction log using List.reverseRecOn with
  | nil =>
      constructor
      · rintro ⟨⟩
      · rintro ⟨p, s, q, place, -⟩
        simp at place
  | append_singleton log e ih =>
      rw [liveUnits_snoc, List.mem_append, List.mem_filter, ih, Entry.mem_started,
        decide_eq_true_eq]
      constructor
      · rintro (⟨⟨p, s, q, rfl, start, silent⟩, still⟩ | start)
        · refine ⟨p, s, q ++ [e], by simp, start, ?_⟩
          rw [List.forall_mem_append, List.forall_mem_singleton]
          exact ⟨silent, still⟩
        · exact ⟨log, e, [], rfl, start, by simp⟩
      · rintro ⟨p, s, q, place, start, silent⟩
        rcases split_snoc place with ⟨rfl, rfl, rfl⟩ | ⟨q', rfl, rfl⟩
        · exact Or.inr start
        · rw [List.forall_mem_append, List.forall_mem_singleton] at silent
          exact Or.inl ⟨⟨p, s, q', rfl, start, silent.1⟩, silent.2⟩

/-! ## One machine -/

/-- The unit whose end is open is the one that the machine takes for running. -/
theorem Account.Agrees.open_eq {m : Machine} {a : Option Account} (h : Account.Agrees m a)
    (running : m.terminated = false) : Account.open? a = m.phase.runningUnit?.toList := by
  have free (held : m.phase.hold = .nothing) : Account.open? a = [] := by
    cases a with
    | none => rfl
    | some x => simp [Account.open?, h.nothing running held x rfl]
  cases phase : m.phase with
  | oldest unit ended | wasOldest unit ended newOldest =>
      rw [h.hosted running unit ended (by rw [phase]; rfl)]
      cases ended <;> rfl
  | handingOver unit target | stopping unit =>
      rw [h.told running unit (by rw [phase]; rfl)]
      rfl
  | _ => exact free (by rw [phase]; rfl)

section Machine

variable {p : Profile} {xs : List Input} {pre post : List Entry} {e : Entry}

/-- **One step of the balance.** The end of a unit is counted exactly if it is that of the one unit
that is alive. -/
theorem liveUnits_step (split : p.machine.history xs = pre ++ e :: post)
    (running : e.before.terminated = false) :
    (liveUnits (pre ++ [e])).length + (if e.settles then 1 else 0) =
      (liveUnits pre).length + e.started.length := by
  obtain ⟨ys, zs, -, rfl, before⟩ := Machine.history_split split
  have agrees := Account.accounts_agree p ys
  rw [← before] at agrees
  have live : liveUnits (p.machine.history ys) = e.before.phase.runningUnit?.toList :=
    (liveUnits_eq_open p ys).trans (agrees.open_eq running)
  rw [liveUnits_snoc, live, List.length_append]
  unfold Entry.settles
  cases known : e.before.phase.runningUnit? with
  | none => cases event : e.event <;> simp
  | some u =>
      by_cases report : e.reports u
      · have event : e.event = .unitTerminated u := report
        simp [report, event, Nat.add_comm]
      · cases event : e.event with
        | unitTerminated v =>
            have other : u ≠ v := fun same => report (same ▸ event)
            simp [report, other]
        | _ => simp [report]

/-- **The balance of one machine**: a unit that was started has ended or is alive. -/
theorem started_eq_settled_add_live
    (running : ∀ e ∈ p.machine.history xs, e.before.terminated = false) :
    ((p.machine.history xs).flatMap Entry.started).length =
      (p.machine.history xs).countP Entry.settles + (liveUnits (p.machine.history xs)).length := by
  induction xs using List.reverseRecOn with
  | nil => rfl
  | append_singleton xs x ih =>
      have place := Machine.history_snoc p.machine xs x
      rw [place, List.forall_mem_append, List.forall_mem_singleton] at running
      have before := ih running.1
      have step := liveUnits_step place running.2
      rw [place, List.flatMap_append, List.flatMap_singleton, List.length_append,
        List.countP_append, List.countP_singleton]
      omega

theorem liveUnits_le_one : (liveUnits (p.machine.history xs)).length ≤ 1 := by
  rw [liveUnits_eq_open]
  exact (Account.accounts_agree p xs).open_le_owed.trans (Account.owed_le_one _)

end Machine

namespace Coordinator

variable {c : Coordinator} {acts : List Act} {env : Surroundings} {e : Entry}

/-! ## One instance -/

/-- What the machine of one instance is handed is a history of that machine, which is not terminated
as long as it is handed anything. -/
theorem entries_of_instance (usable : c.Usable) (sound : c.Sound)
    (same : ∀ x ∈ c.history acts, x.recreates = false) :
    ∃ xs, c.entries acts = c.machine.history xs ∧ (c.run acts).machine = c.machine.run xs ∧
      ∀ e ∈ c.entries acts, e.before.terminated = false := by
  induction acts using List.reverseRecOn with
  | nil => exact ⟨[], rfl, rfl, fun e mem => by cases mem⟩
  | append_singleton acts act ih =>
      rw [history_snoc, List.forall_mem_append, List.forall_mem_singleton] at same
      obtain ⟨xs, entries, machine, running⟩ := ih same.1
      have turned {env : Surroundings} {e : Entry} (is : act = .turn env)
          (hands : (c.run acts).handed env = some e)
          (after : ((c.run acts).apply act).machine = e.after) :
          ∃ xs, c.entries (acts ++ [act]) = c.machine.history xs ∧
            (c.run (acts ++ [act])).machine = c.machine.run xs ∧
            ∀ e ∈ c.entries (acts ++ [act]), e.before.terminated = false := by
        subst is
        have here : Moment.handed ⟨.turn env, c.run acts⟩ = some e := hands
        have whole : Entry.mk e.toInput (c.machine.run xs) = e := by
          rw [← machine, handed_before hands]
        rw [entries_snoc, here, run_snoc, Option.toList_some]
        refine ⟨xs ++ [e.toInput], ?_, ?_, ?_⟩
        · rw [Machine.history_snoc, whole, entries]
        · rw [Machine.run_snoc, whole, after]
        · rw [List.forall_mem_append, List.forall_mem_singleton]
          exact ⟨running, running_of_handed (sound_run sound acts) hands⟩
      cases apply_course (usable.run acts) act with
      | silent idle machine' =>
          rw [entries_snoc, idle, run_snoc, machine', Option.toList_none, List.append_nil]
          exact ⟨xs, entries, machine, running⟩
      | goesOn is hands going after => exact turned is hands after
      | returns is hands stops last after => exact turned is hands after
      | restarts is hands stuck created metrics budget progress =>
          have again := recreates_of_handed is hands
          rw [progress, same.2] at again
          cases again

theorem Moment.deeds_started (x : Moment) :
    x.deeds.countP Deed.startsUnit = (x.handed.toList.flatMap Entry.started).length := by
  rw [← gains_performed]
  obtain ⟨act, d⟩ := x
  cases act with
  | turn env =>
      simp only [gains, handed]
      cases d.handed env with
      | none => rfl
      | some e =>
          rw [Option.toList_some, List.flatMap_singleton, Entry.started,
            List.length_filterMap_eq_countP]
          show e.effects.countP _ = _
          congr 1
          funext x
          cases x <;> rfl
  | _ => rfl

theorem deeds_started (c : Coordinator) (acts : List Act) :
    (c.deeds acts).countP Deed.startsUnit = ((c.entries acts).flatMap Entry.started).length := by
  induction acts using List.reverseRecOn with
  | nil => rfl
  | append_singleton acts act ih =>
      rw [deeds_snoc, entries_snoc, List.countP_append, List.flatMap_append, List.length_append,
        ih, Moment.deeds_started]

end Coordinator

/-- By how much more units were started than terminated since `since`. -/
def Metrics.excess (since m : Metrics) : Int :=
  ((m.unitsStarted : Int) - since.unitsStarted) - (m.unitsTerminated - since.unitsTerminated)

/-- The excess of an instance that began with the metrics `since`: one if there is a unit whose end
is outstanding, and none otherwise. -/
structure Balanced (since m : Metrics) (log : List Entry) : Prop where
  outstanding : (∃ u, Outstanding log u) → since.excess m = 1
  settled : (¬ ∃ u, Outstanding log u) → since.excess m = 0

namespace Coordinator

variable {c : Coordinator} {acts : List Act}

/-- **The balance of an instance.** -/
theorem balanced_of_instance {p : Profile} (usable : c.Usable) (sound : c.Sound)
    (begins : c.machine = p.machine) (same : ∀ x ∈ c.history acts, x.recreates = false) :
    Balanced c.metrics (c.run acts).metrics (c.entries acts) := by
  obtain ⟨xs, entries, -, running⟩ := entries_of_instance usable sound same
  have started := tally_deeds Metrics.accrues_unitsStarted usable acts
  have ended := tally_entries Metrics.accrues_unitsTerminated usable acts
  rw [deeds_started] at started
  rw [begins] at entries
  rw [entries] at started ended running ⊢
  have balance := started_eq_settled_add_live running
  have one : (liveUnits (p.machine.history xs)).length ≤ 1 := liveUnits_le_one
  have excess : c.metrics.excess (c.run acts).metrics =
      (liveUnits (p.machine.history xs)).length := by
    rw [Metrics.excess, started, ended]
    omega
  constructor
  · rintro ⟨u, out⟩
    have alive := List.length_pos_of_mem (mem_liveUnits.mpr out)
    omega
  · intro none
    have empty : liveUnits (p.machine.history xs) = [] :=
      List.eq_nil_iff_forall_not_mem.mpr fun u mem => none ⟨u, mem_liveUnits.mp mem⟩
    rw [excess, empty]
    rfl

/-! ## The whole run -/

/-- What the metrics come to after a run. -/
structure Accounted (c : Coordinator) (acts : List Act) : Prop where
  gauge : (c.run acts).metrics.state = (c.run acts).machine.state.code
  transitions : (c.run acts).metrics.transitionsTotal = (c.entries acts).countP Entry.moves
  messages : (c.run acts).metrics.messagesSent + (c.run acts).metrics.messagesDropped =
    (c.deeds acts).countP Deed.isSend
  handOvers : (c.run acts).metrics.handOversCompleted = (c.deeds acts).countP Deed.handsOver
  handOverRetries : (c.run acts).metrics.handOverRetries =
    (c.entries acts).countP (Entry.reschedules .handOverRetry)
  takeOverRetries : (c.run acts).metrics.takeOverRetries =
    (c.entries acts).countP (Entry.reschedules .takeOverRetry)
  units : (c.run acts).metrics.unitsStarted = (c.deeds acts).countP Deed.startsUnit
  /-- As long as no other instance takes its place, an instance is in balance since it began. -/
  balance : ∀ pre post, acts = pre ++ post → (c.run pre).progress = .starting →
    (∀ x ∈ (c.run pre).history post, x.recreates = false) →
    Balanced (c.run pre).metrics (c.run acts).metrics ((c.run pre).entries post)

section Run

variable {settings : Settings} {supervisor : Supervisor} {restarts : Nat}
  (created : create settings supervisor restarts = .ok c)

include created

/-- Every instance begins with the same machine. -/
theorem machine_of_starting (acts : List Act) (starting : (c.run acts).progress = .starting) :
    (c.run acts).machine = c.machine := by
  induction acts using List.reverseRecOn with
  | nil => rfl
  | append_singleton acts act ih =>
      rw [run_snoc] at starting ⊢
      obtain ⟨usable, -, -⟩ := create_units created
      cases apply_course (usable.run acts) act with
      | silent idle machine =>
          rw [machine]
          refine ih ?_
          rcases progress_of_silent idle with still | gone | ⟨-, runs⟩
          · exact still.symm.trans starting
          · cases gone.symm.trans starting
          · cases runs.symm.trans starting
      | goesOn is hands going machine metrics budget progress => cases progress.symm.trans starting
      | @returns env e received is hands stops last machine metrics budget progress =>
          exact absurd (progress.symm.trans starting) (Outcome.final_ne_starting _)
      | restarts is hands stuck again =>
          have made := (create_frame created).2.1
          rw [run_settings, (create_begins created).1] at again
          exact Except.ok.inj (again.symm.trans made)

/-- **The metrics account for the run**, when no retry comes from elsewhere, whatever else does. -/
theorem metrics_account (honest : ∀ x ∈ c.history acts, x.act.Honest x.before) :
    c.Accounted acts := by
  obtain ⟨usable, -, -⟩ := create_units created
  obtain ⟨-, made, -⟩ := create_frame created
  obtain ⟨-, zero⟩ := create_begins created
  have handOver : TimerKey.handOverRetry ≠ .cleanup := by rintro ⟨⟩
  have takeOver : TimerKey.takeOverRetry ≠ .cleanup := by rintro ⟨⟩
  have deeds {figure : Metrics → Nat} {counts : Deed → Bool}
      (h : Metrics.Accrues figure (Metrics.performed counts)) (none : figure .zero = 0) :
      figure (c.run acts).metrics = (c.deeds acts).countP counts := by
    rw [tally_deeds h usable, zero, none, Nat.zero_add]
  constructor
  · refine shown_run ?_ usable acts
    rw [Shown, zero, Machine.state, (ofSettings_machine made).1]
    rfl
  · rw [tally_entries Metrics.accrues_transitionsTotal usable, zero]
    exact Nat.zero_add _
  · rw [deeds Metrics.accrues_messagesSent rfl, deeds Metrics.accrues_messagesDropped rfl]
    exact Deed.countP_isSend _
  · exact deeds Metrics.accrues_handOversCompleted rfl
  · rw [deeds Metrics.accrues_handOverRetries rfl]
    exact retries_counted created honest handOver
  · rw [deeds Metrics.accrues_takeOverRetries rfl]
    exact retries_counted created honest takeOver
  · exact deeds Metrics.accrues_unitsStarted rfl
  · rintro pre post rfl starts same
    obtain ⟨limits, -, profile⟩ := ofSettings_eq made
    have first := (machine_of_starting created pre starts).trans profile
    rw [run_append]
    exact balanced_of_instance (p := ⟨_, _, _, _, _⟩) (usable.run pre)
      (sound_run (create_sound created) pre) first same

end Run

/-- A node that is the oldest tells the new one twice, in vain, and begins anew; its second unit is
outstanding, whatever is reported of its first one. -/
theorem metrics_account_beginsAnew :
    let world : Surroundings := ⟨0, fun _ => false⟩
    let node : Settings := .forNode ⟨"a"⟩
    let settings : Settings :=
      { node with singleton := { node.singleton with minHandOverRetries := 1 } }
    let first : List Act :=
      [.turn world,
        .arrive [.event (.initialOldest (some ⟨"a"⟩) true), .event (.unitTerminated (.nth 7)),
          .event (.oldestChanged (some ⟨"b"⟩))],
        .turn world, .turn world, .turn world, .elapse 1000000000, .turn world,
        .elapse 1000000000, .turn world]
    let second : List Act :=
      [.turn world,
        .arrive [.event (.initialOldest (some ⟨"a"⟩) true), .event (.unitTerminated (.nth 1))],
        .turn world, .turn world]
    ∃ c, create settings (.ofSettings settings []) 1 = .ok c ∧
      (∀ x ∈ c.history (first ++ second), x.act.Honest x.before) ∧
      (c.run (first ++ second)).metrics.transitionsTotal = 3 ∧
      (c.run (first ++ second)).metrics.takeOverRetries = 1 ∧
      (c.run (first ++ second)).metrics.messagesSent +
        (c.run (first ++ second)).metrics.messagesDropped = 2 ∧
      (c.run first).metrics.excess (c.run (first ++ second)).metrics = 1 := by
  intro world node settings first second
  have created : create settings (.ofSettings settings []) 1 = .ok _ := rfl
  have truthful : ∀ act ∈ first ++ second, ∀ d : Coordinator, act.Honest d := by
    simp [first, second, Act.Honest, Item.Foreign, Event.retryKey?]
  have honest (c : Coordinator) : ∀ x ∈ c.history (first ++ second), x.act.Honest x.before :=
    fun x mem => truthful x.act (act_mem_of_history mem) x.before
  have account := metrics_account created (honest _)
  refine ⟨_, created, honest _, account.transitions.trans (by decide +kernel),
    account.takeOverRetries.trans (by decide +kernel), account.messages.trans (by decide +kernel), ?_⟩
  have balanced := account.balance first second rfl
    (Progress.isStarting_iff.mp (by decide +kernel)) (by decide +kernel)
  exact balanced.outstanding ⟨.nth 2, mem_liveUnits.mp (by decide +kernel)⟩

end Coordinator

end ClusterSingleton
