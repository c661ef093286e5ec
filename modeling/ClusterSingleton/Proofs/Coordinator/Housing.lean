import ClusterSingleton.Proofs.Coordinator.Orphans
import ClusterSingleton.Proofs.Units.Lifecycle

/-!
# One running unit

One instance of a coordinator, its supervisor, and units that end when they like and are reported
when they have. `one_running_unit` says that the supervisor never knows more than one unit, and that
it is the one that was started last and whose end was not handled.
-/

namespace ClusterSingleton

theorem FreshUnits.of_append {log more : List Entry} (h : FreshUnits (log ++ more)) :
    FreshUnits log := by
  unfold FreshUnits at h
  rw [List.flatMap_append] at h
  exact (List.nodup_append.mp h).1

namespace Coordinator

/-- How the units that the supervisor knows and the reports that are under way stand to the account
of what the machine was handed. -/
structure Housed (c : Coordinator) (acts : List Act) : Prop where
  agrees : Account.Agrees (c.run acts).machine (Account.ofHistory (c.entries acts))
  /-- A unit that is known is the current one, and its end was not handled. -/
  current : ∀ u ∈ (c.run acts).supervisor.ids, ∃ x, Account.ofHistory (c.entries acts) = some x ∧
    x.unit = u ∧ x.reported = false
  /-- A unit whose end is being reported was started, and is known no more. -/
  away : ∀ i ∈ (c.run acts).desk.items, ∀ u, i.carried = .unitTerminated u →
    u ∉ (c.run acts).supervisor.ids ∧ u ∈ (c.entries acts).flatMap Entry.started

variable {c : Coordinator} {acts : List Act} {act : Act} {u : UnitId} {e : Entry}

theorem Housed.started (h : Housed c acts) (known : u ∈ (c.run acts).supervisor.ids) :
    u ∈ (c.entries acts).flatMap Entry.started := by
  obtain ⟨x, account, rfl, -⟩ := h.current u known
  obtain ⟨q, ⟨p, s, place, starts, -⟩, -⟩ := Account.current_of_history account
  rw [place, List.mem_flatMap]
  exact ⟨s, by simp, Entry.mem_started.mpr starts⟩

/-- Reports that are under way after an act, when the units that are known have become no more. -/
theorem Housed.away_apply (h : Housed c acts) (truthful : act.Truthful (c.run acts)) {i : Item}
    (underWay : i ∈ ((c.run acts).apply act).desk.items) (report : i.carried = .unitTerminated u) :
    (u ∉ (c.run acts).supervisor.ids ∨ act = .reapUnit u) ∧
      u ∈ (c.entries acts).flatMap Entry.started := by
  rcases reported_apply truthful underWay report with before | rfl
  · obtain ⟨unknown, started⟩ := h.away i before u report
    exact ⟨Or.inl unknown, started⟩
  · obtain ⟨v, here, -, rfl⟩ := Supervisor.mem_ended.mp truthful
    exact ⟨Or.inr rfl, h.started (Supervisor.mem_ids.mpr ⟨v, here, rfl⟩)⟩

/-- What a turn makes of the units that are known: it leaves them as they are, or there was none and
the turn starts one. -/
theorem Housed.ids_turn (h : Housed c acts) {env : Surroundings}
    (hands : (c.run acts).handed env = some e) :
    e.started = [] ∧
        ((c.run acts).supervisor.heedAll e.effects).ids = (c.run acts).supervisor.ids ∨
      ∃ v, e.turn.unitWork = [.startUnit v] ∧ e.started = [v] ∧
        ((c.run acts).supervisor.heedAll e.effects).ids = [v] := by
  have machine : e.before = (c.run acts).machine := by rw [handed_before hands]
  have work : Account.WorkOf (Account.ofHistory (c.entries acts)) e :=
    Account.workOf (machine ▸ h.agrees)
  rcases work.started with none | ⟨v, alone, ended⟩
  · refine Or.inl ⟨none, (Supervisor.goes_heedAll fun id mem => ?_).ids⟩
    have started := Entry.mem_started.mpr mem
    rw [none] at started
    cases started
  · refine Or.inr ⟨v, alone, Account.started_of_work alone, ?_⟩
    have nobody : (c.run acts).supervisor.ids = [] := by
      refine List.eq_nil_iff_forall_not_mem.mpr fun u known => ?_
      obtain ⟨x, account, -, alive⟩ := h.current u known
      rw [ended x account] at alive
      cases alive
    have same : (c.run acts).supervisor.heedAll e.effects = (c.run acts).supervisor.start v :=
      Supervisor.heedAll_of_start alone
    rw [same, Supervisor.ids_start, nobody]
    rfl

/-- A turn keeps everything housed, whether or not the instance goes on. -/
theorem Housed.turn (h : Housed c acts) {env : Surroundings}
    (hands : (c.run acts).handed env = some e) (fresh : FreshUnits (c.entries acts ++ [e]))
    (machine : (c.run (acts ++ [.turn env])).machine = e.after)
    (supervisor : (c.run (acts ++ [.turn env])).supervisor =
      (c.run acts).supervisor.heedAll e.effects) : Housed c (acts ++ [.turn env]) := by
  have entries : c.entries (acts ++ [.turn env]) = c.entries acts ++ [e] := by
    have here : Moment.handed ⟨.turn env, c.run acts⟩ = some e := hands
    rw [entries_snoc, here]
    rfl
  have before : e.before = (c.run acts).machine := by rw [handed_before hands]
  constructor
  case agrees =>
    rw [entries, Account.ofHistory_snoc, machine]
    exact Account.agrees_next (before ▸ h.agrees)
  case current =>
    intro u known
    rw [entries, Account.ofHistory_snoc]
    rw [supervisor] at known
    rcases h.ids_turn hands with ⟨none, same⟩ | ⟨v, alone, -, only⟩
    · rw [same] at known
      obtain ⟨x, account, rfl, alive⟩ := h.current u known
      -- a report of its end would say that it is known no more
      have silent : ¬ e.reports x.unit := by
        intro report
        obtain ⟨i, underWay, carried⟩ := handed_report hands report
        exact (h.away i underWay x.unit carried).1 known
      rw [account, Account.next_of_started_nil none]
      exact ⟨_, rfl, rfl, by simp [alive, silent]⟩
    · rw [only, List.mem_singleton] at known
      rw [Account.next_of_start alone]
      exact ⟨_, rfl, known.symm, rfl⟩
  case away =>
    intro i underWay u report
    rw [run_snoc] at underWay
    have truthful : Act.Truthful (c.run acts) (.turn env) := trivial
    obtain ⟨unknown, started⟩ := h.away_apply truthful underWay report
    have unknown : u ∉ (c.run acts).supervisor.ids := unknown.resolve_right nofun
    rw [supervisor, entries, List.flatMap_append]
    refine ⟨?_, List.mem_append_left _ started⟩
    rcases h.ids_turn hands with ⟨-, same⟩ | ⟨v, -, alone, only⟩
    · rw [same]
      exact unknown
    · rw [only, List.mem_singleton]
      rintro rfl
      unfold FreshUnits at fresh
      rw [List.flatMap_append, List.nodup_append] at fresh
      exact fresh.2.2 u started u (by simp [alone]) rfl

/-- **Every act keeps everything housed**, unless it begins a new instance. -/
theorem Housed.snoc (h : Housed c acts) (kept : Tended c acts)
    (truthful : act.Truthful (c.run acts)) (fresh : FreshUnits (c.entries (acts ++ [act])))
    (same : ((c.run acts).apply act).restartsLeft = (c.run acts).restartsLeft) :
    Housed c (acts ++ [act]) := by
  have silently (silent : Moment.handed ⟨act, c.run acts⟩ = none)
      (machine : ((c.run acts).apply act).machine = (c.run acts).machine)
      (fewer : ∀ u ∈ ((c.run acts).apply act).supervisor.ids,
        u ∈ (c.run acts).supervisor.ids ∧ act ≠ .reapUnit u) : Housed c (acts ++ [act]) := by
    have entries : c.entries (acts ++ [act]) = c.entries acts := by
      rw [entries_snoc, silent, Option.toList_none, List.append_nil]
    constructor
    case agrees =>
      rw [entries, run_snoc, machine]
      exact h.agrees
    case current =>
      intro u known
      rw [run_snoc] at known
      rw [entries]
      exact h.current u (fewer u known).1
    case away =>
      intro i underWay u report
      rw [run_snoc] at underWay ⊢
      obtain ⟨unknown, started⟩ := h.away_apply truthful underWay report
      rw [entries]
      refine ⟨fun known => ?_, started⟩
      obtain ⟨here, other⟩ := fewer u known
      exact unknown.elim (fun unknown => unknown here) other
  cases apply_dealing kept.usable kept.distinct act with
  | asks silent machine goes =>
      refine silently silent machine fun u known => ⟨goes.ids ▸ known, ?_⟩
      rintro rfl
      have known : u ∈ ((c.run acts).supervisor.reap u).ids := known
      simp at known
  | @reaps id is =>
      subst is
      refine silently rfl rfl fun u known => ?_
      have known : u ∈ ((c.run acts).supervisor.reap id).ids := known
      rw [Supervisor.ids_reap, List.mem_filter] at known
      have apart : u ≠ id := by simpa using known.2
      exact ⟨known.1, fun same => apart (Act.reapUnit.inj same).symm⟩
  | @works e hands going progress machine heeded =>
      obtain ⟨env, rfl⟩ := turn_of_handed hands
      rw [entries_snoc, hands] at fresh
      exact h.turn hands fresh (by rw [run_snoc]; exact machine) (by rw [run_snoc]; exact heeded)
  | @ends e hands stops concluded =>
      obtain ⟨env, rfl⟩ := turn_of_handed hands
      rw [entries_snoc, hands] at fresh
      cases concluded with
      | anew progress stopped spent =>
          rw [same] at spent
          exact absurd spent (Nat.succ_ne_self _)
      | gone progress supervisor machine =>
          exact h.turn hands fresh (by rw [run_snoc]; exact machine)
            (by rw [run_snoc]; exact supervisor)

/-- No act gives a restart back. -/
theorem restarts_apply (kept : Tended c acts) (act : Act) :
    ((c.run acts).apply act).restartsLeft ≤ (c.run acts).restartsLeft := by
  cases apply_dealing kept.usable kept.distinct act with
  | asks _ _ _ same => exact Nat.le_of_eq same
  | reaps is =>
      subst is
      exact Nat.le_refl _
  | works _ _ _ _ _ same => exact Nat.le_of_eq same
  | ends _ _ concluded =>
      cases concluded with
      | anew _ _ spent => exact Nat.le_of_succ_le (Nat.le_of_eq spent)
      | gone _ _ _ same => exact Nat.le_of_eq same

section Run

variable {settings : Settings} {name : String} {signal : TerminationSignal}
  {script : List Behaviour} {restarts : Nat}
  (created : create settings (.create name signal script) restarts = .ok c)

include created

theorem restarts_run (orderly : ∀ x ∈ c.history acts, x.act.Orderly x.before) :
    (c.run acts).restartsLeft ≤ restarts := by
  induction acts using List.reverseRecOn with
  | nil => exact Nat.le_of_eq (create_units created).2.2
  | append_singleton acts act ih =>
      rw [history_snoc, List.forall_mem_append] at orderly
      rw [run_snoc]
      exact Nat.le_trans (restarts_apply (tended_of_run created orderly.1) act) (ih orderly.1)

theorem housed_of_run (truthful : ∀ x ∈ c.history acts, x.act.Truthful x.before)
    (fresh : FreshUnits (c.entries acts)) (first : (c.run acts).restartsLeft = restarts) :
    Housed c acts := by
  induction acts using List.reverseRecOn with
  | nil =>
      obtain ⟨-, made, desk⟩ := create_frame created
      obtain ⟨-, supervisor, -⟩ := create_units created
      constructor
      case agrees =>
        have idle : c.machine.phase.hold = .nothing := by rw [(ofSettings_machine made).1]; rfl
        exact .of_nothing idle nofun
      case current =>
        show ∀ u ∈ c.supervisor.ids, _
        rw [supervisor]
        nofun
      case away =>
        show ∀ i ∈ c.desk.items, _
        rw [desk]
        nofun
  | append_singleton acts act ih =>
      rw [history_snoc, List.forall_mem_append, List.forall_mem_singleton] at truthful
      have orderly : ∀ x ∈ c.history acts, x.act.Orderly x.before :=
        fun x mem => (truthful.1 x mem).orderly
      have kept := tended_of_run created orderly
      rw [run_snoc] at first
      have earlier : (c.run acts).restartsLeft = restarts :=
        Nat.le_antisymm (restarts_run created orderly) (first ▸ restarts_apply kept act)
      have before := fresh
      rw [entries_snoc] at before
      exact (ih truthful.1 before.of_append earlier).snoc kept truthful.2 fresh
        (first.trans earlier.symm)

/-- **At most one unit runs.** While a coordinator is in its first instance, and nobody but its
supervisor reports the end of a unit, at most one unit is known at any time, whatever happens in
which order; and it is the unit that was started last, and no report of its end was handled. -/
theorem one_running_unit (truthful : ∀ x ∈ c.history acts, x.act.Truthful x.before)
    (fresh : FreshUnits (c.entries acts)) (first : (c.run acts).restartsLeft = restarts) :
    (c.run acts).supervisor.runningCount ≤ 1 ∧
      ∀ u, ((c.run acts).supervisor.get? u).isSome = true →
        ∃ q, Current (c.entries acts) u q ∧ ∀ e ∈ q, ¬ e.reports u := by
  have housed := housed_of_run created truthful fresh first
  have kept := tended_of_run created fun x mem => (truthful x mem).orderly
  constructor
  · rw [Supervisor.runningCount_eq]
    have distinct : (c.run acts).supervisor.ids.Nodup := kept.distinct
    cases known : (c.run acts).supervisor.ids with
    | nil => exact Nat.zero_le 1
    | cons u rest =>
        cases rest with
        | nil => exact Nat.le_refl 1
        | cons v rest =>
            -- both would be the current unit
            obtain ⟨x, account, rfl, -⟩ := housed.current u (by simp [known])
            obtain ⟨y, account', rfl, -⟩ := housed.current v (by simp [known])
            rw [account] at account'
            obtain rfl := Option.some.inj account'
            rw [known] at distinct
            simp at distinct
  · intro u some
    obtain ⟨x, account, rfl, alive⟩ := housed.current u (Supervisor.isSome_get?.mp some)
    obtain ⟨q, current, -, reported, -⟩ := Account.current_of_history account
    refine ⟨q, current, fun e mem report => ?_⟩
    rw [reported.mpr ⟨e, mem, report⟩] at alive
    cases alive

end Run

/-- A node hands its unit over to `b` and is the oldest again: the second unit starts when the first
has ended and `b` is done. -/
theorem one_running_unit_hostedAgain :
    let world : Surroundings := ⟨0, fun _ => true⟩
    let acts : List Act :=
      [.turn world, .arrive [.event (.initialOldest (some ⟨"a"⟩) true)], .turn world,
        .runUnit 0 (.nth 1), .arrive [.peer ⟨"b"⟩ .handOverToMe], .turn world,
        .runUnit 0 (.nth 1), .reapUnit (.nth 1),
        .arrive [.event (.oldestChanged (some ⟨"a"⟩)), .peer ⟨"b"⟩ .handOverDone], .turn world,
        .turn world, .turn world]
    ∃ c, create (.forNode ⟨"a"⟩) (.ofSettings .default []) 0 = .ok c ∧
      (∀ x ∈ c.history acts, x.act.Truthful x.before) ∧ FreshUnits (c.entries acts) ∧
      (c.run acts).restartsLeft = 0 ∧ (c.run acts).supervisor.runningCount = 1 ∧
      ∃ q, Current (c.entries acts) (.nth 2) q ∧ ∀ e ∈ q, ¬ e.reports (.nth 2) := by
  intro world acts
  have created : create (.forNode ⟨"a"⟩) (.ofSettings .default []) 0 = .ok _ := rfl
  have housed := one_running_unit created
    (by decide +kernel : ∀ x ∈ history _ acts, x.act.Truthful x.before) (by decide +kernel)
    (by decide +kernel)
  exact ⟨_, created, by decide +kernel, by decide +kernel, by decide +kernel, by decide +kernel,
    housed.2 (.nth 2) (by decide +kernel)⟩

end Coordinator

end ClusterSingleton
