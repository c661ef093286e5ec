import Mathlib.Data.List.Induction
import ClusterSingleton.Simulation
import ClusterSingleton.Proofs.Simulation.Books

/-!
# The nodes of a simulation

What the steps of a simulation make of its nodes. `Moment.Does` lists what a step can do: it is refused
and changes nothing, it lets time pass, it starts a node, or it takes one out. The books of the cluster
and the figures of the simulation are kept by each of these, so that after any steps they tell the same
story (`books_kept`).
-/

namespace ClusterSingleton

namespace ScenarioStep

/-- Whether the step starts a node or takes one out. -/
def moves : ScenarioStep → Bool
  | join _ | leave _ | crash _ => true
  | wait _ | assert _ => false

def isLeave : ScenarioStep → Bool
  | leave _ => true
  | _ => false

def isCrash : ScenarioStep → Bool
  | crash _ => true
  | _ => false

end ScenarioStep

/-- Whether a cluster lacks the node for a step, or has it already. -/
def Cluster.Refuses (c : Cluster) : ScenarioStep → Prop
  | .join node => c.Runs node
  | .leave node | .crash (.named node) => ¬ c.Runs node
  | .crash .oldest | .crash .random => c.running = []
  | .wait _ | .assert _ => False

namespace Simulation

open Cluster (Start)

/-! ## Histories -/

/-- A step and the simulation that took it. -/
structure Moment : Type where
  step : ScenarioStep
  before : Simulation

namespace Moment

def after (x : Moment) : Simulation := (x.before.step x.step).1

def result (x : Moment) : Except SimulationError Unit := (x.before.step x.step).2

def Fails (x : Moment) : Prop := ∃ e, x.result = .error e

/-- The node that was started. -/
def started? (x : Moment) : Option Start :=
  match x.step with
  | .join node => (x.before.cluster.start node).2.toOption.map (Start.mk node)
  | _ => none

end Moment

/-- The simulation after some steps, each of them taken whether the ones before it went well or not. -/
def goThrough (s : Simulation) (steps : List ScenarioStep) : Simulation :=
  steps.foldl (fun s x => (s.step x).1) s

def history (s : Simulation) : List ScenarioStep → List Moment
  | [] => []
  | x :: xs => ⟨x, s⟩ :: (s.step x).1.history xs

/-- The nodes that were started, one after the other. -/
def starts (log : List Moment) : List Start := log.filterMap Moment.started?

/-- How many steps of a kind went well. -/
def done (kind : ScenarioStep → Bool) (log : List Moment) : Nat :=
  log.countP fun x => x.result.isOk && kind x.step

theorem goThrough_snoc (s : Simulation) (steps : List ScenarioStep) (x : ScenarioStep) :
    s.goThrough (steps ++ [x]) = ((s.goThrough steps).step x).1 := List.foldl_concat ..

theorem history_snoc (s : Simulation) (steps : List ScenarioStep) (x : ScenarioStep) :
    s.history (steps ++ [x]) = s.history steps ++ [⟨x, s.goThrough steps⟩] := by
  induction steps generalizing s with
  | nil => rfl
  | cons y ys ih =>
      rw [List.cons_append, history, ih, history]
      rfl

theorem starts_snoc (log : List Moment) (x : Moment) :
    starts (log ++ [x]) = starts log ++ x.started?.toList := by
  unfold starts
  rw [List.filterMap_append]
  cases h : x.started? <;> simp [h]

theorem starts_snoc_none {log : List Moment} {x : Moment} (news : x.started? = none) :
    starts (log ++ [x]) = starts log := by
  rw [starts_snoc, news, Option.toList_none, List.append_nil]

/-! ## What a step does -/

/-- What a step can do. -/
inductive Moment.Does (x : Moment) : Prop where
  /-- Nothing: the step is refused. -/
  | refused (moves : x.step.moves = true) (refuses : x.before.cluster.Refuses x.step)
      (fails : x.Fails) (news : x.started? = none) (same : x.after = x.before)
  /-- Time passes. -/
  | passes (rests : x.step.moves = false) (news : x.started? = none)
      (waits : x.before.cluster.Waits x.after.cluster)
      (metrics : x.after.metrics = x.before.metrics)
      (departed : x.after.departed = x.before.departed)
  /-- A node starts, and it is waited for. -/
  | begins {node : String} {c : Cluster} (step : x.step = .join node) (ok : x.result = .ok ())
      (new : ¬ x.before.cluster.Runs node)
      (news : x.started? = some ⟨node, .ofParts "sim" node x.before.cluster.nextPort⟩)
      (begun : x.before.cluster.Begins node (.ofParts "sim" node x.before.cluster.nextPort) c)
      (waits : c.Waits x.after.cluster)
      (metrics : x.after.metrics = x.before.metrics.recordJoin)
      (departed : x.after.departed = x.before.departed.filter (· ≠ node))
  /-- A node leaves or crashes. -/
  | departs {n : RunningNode} (allowed : ¬ x.before.cluster.Refuses x.step) (ok : x.result = .ok ())
      (news : x.started? = none) (mem : n ∈ x.before.cluster.running)
      (gone : (x.before.cluster.take n).Departs n x.after.cluster)
      (metrics : x.step.isLeave = true ∧ x.after.metrics = x.before.metrics.recordLeave ∨
        x.step.isCrash = true ∧ x.after.metrics = x.before.metrics.recordCrash)
      (departed : x.after.departed = x.before.departed ++ [n.name])

variable {past : List Start} {s : Simulation} {node : String}

theorem record_ok {α : Type} {r : Cluster × Except ClusterError α} {c : Cluster} {a : α}
    (count : Simulation → Simulation) (h : r = (c, .ok a)) :
    s.record r count = (count { s with cluster := c }, .ok ()) := by
  rw [h]
  rfl

theorem record_refused {α : Type} {r : Cluster × Except ClusterError α} {e : ClusterError}
    (count : Simulation → Simulation) (h : r = (s.cluster, .error e)) :
    s.record r count = (s, .error (.cluster e)) := by
  rw [h]
  rfl

theorem Moment.does_of_refused {x : Moment} {e : SimulationError} (moves : x.step.moves = true)
    (refuses : x.before.cluster.Refuses x.step) (news : x.started? = none)
    (stays : x.before.step x.step = (x.before, .error e)) : x.Does :=
  .refused moves refuses ⟨e, congrArg Prod.snd stays⟩ news (congrArg Prod.fst stays)

theorem Moment.does_of_departs {x : Moment} {n : RunningNode} {c : Cluster}
    {figures : SimulationMetrics} {dice : List Nat} (allowed : ¬ x.before.cluster.Refuses x.step)
    (news : x.started? = none) (mem : n ∈ x.before.cluster.running)
    (gone : (x.before.cluster.take n).Departs n c)
    (counted : x.step.isLeave = true ∧ figures = x.before.metrics.recordLeave ∨
      x.step.isCrash = true ∧ figures = x.before.metrics.recordCrash)
    (goes : x.before.step x.step =
      ({ x.before with
          cluster := c
          metrics := figures
          departed := x.before.departed ++ [n.name]
          dice := dice }, .ok ())) : x.Does := by
  have after : x.after = _ := congrArg Prod.fst goes
  refine .departs allowed (congrArg Prod.snd goes) news mem ?_ ?_ ?_
  · rw [after]
    exact gone
  · rw [after]
    exact counted
  · rw [after]

/-- To wait for something is to let time pass, whether it comes to hold or not. -/
theorem waitFor_cases (s : Simulation) (holds : Cluster → Bool) :
    ∃ c met, s.waitFor holds = ({ s with cluster := c }, met) ∧ s.cluster.Waits c := by
  have waits := Cluster.waitFor_waits s.cluster holds
  unfold waitFor
  generalize s.cluster.waitFor holds = r at waits ⊢
  exact ⟨r.1, r.2, rfl, waits⟩

theorem join_started {c : Cluster} {a : Address} (done : s.cluster.start node = (c, .ok a)) :
    ∃ c', c.Waits c' ∧ s.join node =
      ({ s with
          cluster := c'
          metrics := s.metrics.recordJoin
          departed := s.departed.filter (· ≠ node) }, .ok ()) := by
  unfold join
  rw [record_ok _ done]
  obtain ⟨c', met, waited, waits⟩ := waitFor_cases
    { s with
      cluster := c
      metrics := s.metrics.recordJoin
      departed := s.departed.filter (· ≠ node) } fun c => c.stateOf node != some .start
  refine ⟨c', waits, ?_⟩
  simp only [waited]

theorem join_does (books : s.cluster.Books past) : (Moment.mk (.join node) s).Does := by
  have step : s.step (.join node) = s.join node := rfl
  by_cases runs : s.cluster.Runs node
  · have refused : s.cluster.start node = (s.cluster, .error (.alreadyRunning node)) := by
      refine if_pos (Option.isSome_iff_ne_none.mpr fun missing => ?_)
      exact Cluster.not_runs_iff.mpr missing runs
    unfold join at step
    refine Moment.does_of_refused rfl runs ?_ (step.trans (record_refused _ refused))
    simp only [Moment.started?, refused]
    rfl
  · obtain ⟨c, done, begun⟩ := Cluster.start_begins books.valid (Cluster.not_runs_iff.mp runs)
    obtain ⟨c', waits, joined⟩ := join_started done
    have goes := step.trans joined
    have after : (Moment.mk (.join node) s).after = _ := congrArg Prod.fst goes
    refine .begins rfl (congrArg Prod.snd goes) runs ?_ begun ?_ ?_ ?_
    · simp only [Moment.started?, done]
      rfl
    · rw [after]
      exact waits
    · rw [after]
    · rw [after]

theorem leave_does (books : s.cluster.Books past) (few : past.length ≤ 62984) :
    (Moment.mk (.leave node) s).Does := by
  have step : s.step (.leave node) = s.leave node := rfl
  unfold leave at step
  by_cases runs : s.cluster.Runs node
  · obtain ⟨n, c, mem, rfl, done, gone⟩ := books.withoutNode Cluster.retire_takesOut few runs
    exact Moment.does_of_departs (fun refuses => refuses runs) rfl mem gone (Or.inl ⟨rfl, rfl⟩)
      (step.trans (record_ok _ done))
  · exact Moment.does_of_refused rfl runs rfl
      (step.trans (record_refused _ (Cluster.withoutNode_unknown runs)))

/-- The target of a crash is a node that runs, or the crash is refused. -/
theorem resolve_cases (books : s.cluster.Books past) (target : NodeTarget) :
    (∃ e, s.resolve target = (s, .error e) ∧ s.cluster.Refuses (.crash target)) ∨
      (∃ node, s.resolve target = (s, .ok node) ∧ ¬ s.cluster.Runs node ∧
        s.cluster.Refuses (.crash target)) ∨
      ∃ dice node, s.resolve target = ({ s with dice := dice }, .ok node) ∧ s.cluster.Runs node ∧
        ¬ s.cluster.Refuses (.crash target) := by
  have some_of_runs {node : String} (runs : s.cluster.Runs node) : s.cluster.running ≠ [] := by
    obtain ⟨n, mem, -⟩ := runs
    exact List.ne_nil_of_mem mem
  cases target with
  | named node =>
      by_cases runs : s.cluster.Runs node
      · exact Or.inr (Or.inr ⟨s.dice, node, rfl, runs, fun refuses => refuses runs⟩)
      · exact Or.inr (Or.inl ⟨node, rfl, runs, runs⟩)
  | oldest =>
      rcases books.oldest_cases with ⟨none_runs, missing⟩ | ⟨node, runs, found⟩
      · refine Or.inl ⟨.noOldest, ?_, none_runs⟩
        rw [resolve, missing]
      · refine Or.inr (Or.inr ⟨s.dice, node, ?_, runs, some_of_runs runs⟩)
        rw [resolve, found]
  | random =>
      simp only [resolve]
      split
      next node found =>
        have runs := Cluster.mem_names_iff.mp (List.mem_of_getElem? found)
        exact Or.inr (Or.inr ⟨_, node, rfl, runs, some_of_runs runs⟩)
      next missing =>
        refine Or.inl ⟨.noNode, rfl, ?_⟩
        rw [List.getElem?_eq_none_iff, Cluster.length_names] at missing
        show s.cluster.running = []
        refine List.length_eq_zero_iff.mp (Nat.eq_zero_of_not_pos fun some_run => ?_)
        exact absurd (Nat.mod_lt _ some_run) (Nat.not_lt.mpr missing)

theorem crash_does (books : s.cluster.Books past) (few : past.length ≤ 62984)
    (target : NodeTarget) : (Moment.mk (.crash target) s).Does := by
  have step : s.step (.crash target) = s.crash target := rfl
  unfold crash at step
  rcases resolve_cases books target with
    ⟨e, resolved, refuses⟩ | ⟨node, resolved, missing, refuses⟩ |
    ⟨dice, node, resolved, runs, allowed⟩
  · rw [resolved] at step
    exact Moment.does_of_refused rfl refuses rfl step
  · rw [resolved] at step
    exact Moment.does_of_refused rfl refuses rfl
      (step.trans (record_refused _ (Cluster.withoutNode_unknown missing)))
  · rw [resolved] at step
    obtain ⟨n, c, mem, rfl, done, gone⟩ := books.withoutNode Cluster.fail_takesOut few runs
    exact Moment.does_of_departs allowed rfl mem gone (Or.inr ⟨rfl, rfl⟩)
      (step.trans (record_ok _ done))

/-- Whatever is asserted, and whether it holds or not, only time passes. -/
theorem check_cases (s : Simulation) (condition : Condition) :
    ∃ c, s.cluster.Waits c ∧ (s.check condition).1 = { s with cluster := c } := by
  unfold check
  by_cases at_once : condition = .atMostOneUnit
  · rw [if_pos at_once]
    exact ⟨s.cluster, .refl s.cluster, rfl⟩
  · obtain ⟨c, met, waited, waits⟩ := waitFor_cases s fun c => holds c condition
    rw [if_neg at_once, waited]
    exact ⟨c, waits, rfl⟩

theorem wait_cases (s : Simulation) (millis : UInt64) :
    ∃ c, s.cluster.Waits c ∧ s.wait millis = { s with cluster := c } :=
  ⟨_, Cluster.sleep_waits s.cluster _, rfl⟩

/-- A step that leaves the figures alone and takes its time. -/
theorem passes_of_waits {x : Moment} {c : Cluster} (rests : x.step.moves = false)
    (waits : x.before.cluster.Waits c) (same : x.after = { x.before with cluster := c }) :
    x.Does := by
  refine .passes rests ?_ ?_ ?_ ?_
  · unfold Moment.started?
    generalize x.step = step at rests
    cases step <;> first | rfl | cases rests
  · rw [same]
    exact waits
  · rw [same]
  · rw [same]

/-- **A step does one of four things.** -/
theorem Moment.does {x : Moment} (books : x.before.cluster.Books past)
    (few : past.length ≤ 62984) : x.Does := by
  obtain ⟨step, s⟩ := x
  cases step with
  | join node => exact join_does books
  | leave node => exact leave_does books few
  | crash target => exact crash_does books few target
  | wait millis =>
      obtain ⟨c, waits, same⟩ := wait_cases s millis
      exact passes_of_waits rfl waits same
  | assert condition =>
      obtain ⟨c, waits, same⟩ := check_cases s condition
      exact passes_of_waits rfl waits same

/-! ## What every step keeps -/

/-- The figures and the lists of a simulation agree with its history. -/
structure Balanced (log : List Moment) (s : Simulation) : Prop where
  books : s.cluster.Books (starts log)
  joins : s.metrics.joins = (starts log).length
  leaves : s.metrics.leaves = done ScenarioStep.isLeave log
  crashes : s.metrics.crashes = done ScenarioStep.isCrash log
  balance : s.metrics.joins = s.metrics.leaves + s.metrics.crashes + s.cluster.running.length
  once : s.departed.Nodup
  gone : ∀ name, name ∈ s.departed ↔
    (∃ x ∈ starts log, x.name = name) ∧ ¬ s.cluster.Runs name

theorem balanced_create {settings : ClusterSettings} (valid : settings.Valid) (speed : Float)
    (dice : List Nat) : (create settings speed dice).Balanced [] where
  books := Cluster.books_create valid
  joins := rfl
  leaves := rfl
  crashes := rfl
  balance := rfl
  once := .nil
  gone := by simp [create, starts]

variable {log : List Moment} {x : Moment}

theorem done_snoc (kind : ScenarioStep → Bool) (log : List Moment) (x : Moment) :
    done kind (log ++ [x]) = done kind log + (x.result.isOk && kind x.step).toNat := by
  unfold done
  rw [List.countP_append, List.countP_singleton]
  cases x.result.isOk && kind x.step <;> rfl

theorem done_snoc_eq (kind : ScenarioStep → Bool) (other : kind x.step = false) :
    done kind (log ++ [x]) = done kind log := by
  rw [done_snoc, other, Bool.and_false]
  rfl

theorem figures_of_departs
    (metrics : x.step.isLeave = true ∧ x.after.metrics = x.before.metrics.recordLeave ∨
      x.step.isCrash = true ∧ x.after.metrics = x.before.metrics.recordCrash) :
    x.after.metrics.joins = x.before.metrics.joins ∧
      x.after.metrics.leaves = x.before.metrics.leaves + x.step.isLeave.toNat ∧
        x.after.metrics.crashes = x.before.metrics.crashes + x.step.isCrash.toNat ∧
          x.step.isLeave.toNat + x.step.isCrash.toNat = 1 := by
  rcases metrics with ⟨kind, metrics⟩ | ⟨kind, metrics⟩
  all_goals
    rw [metrics]
    generalize x.step = step at kind
    cases step <;> first | exact ⟨rfl, rfl, rfl, rfl⟩ | cases kind

/-- Who comes back is not gone any more. -/
theorem Balanced.gone_begins (h : s.Balanced log) {c : Cluster} {a : Address}
    (runs : ∀ name, c.Runs name ↔ s.cluster.Runs name ∨ name = node) (name : String) :
    name ∈ s.departed.filter (· ≠ node) ↔
      (∃ y ∈ starts log ++ [⟨node, a⟩], y.name = name) ∧ ¬ c.Runs name := by
  rw [runs, List.mem_filter, h.gone name, decide_eq_true_eq, not_or]
  constructor
  · rintro ⟨⟨⟨y, mem, same⟩, idle⟩, other⟩
    exact ⟨⟨y, List.mem_append_left _ mem, same⟩, idle, other⟩
  · rintro ⟨⟨y, mem, same⟩, idle, other⟩
    rcases List.mem_append.mp mem with old | last
    · exact ⟨⟨⟨y, old, same⟩, idle⟩, other⟩
    · obtain rfl := List.mem_singleton.mp last
      exact absurd same.symm other

/-- Who goes was not gone before. -/
theorem Balanced.once_departs (h : s.Balanced log) {n : RunningNode}
    (mem : n ∈ s.cluster.running) : (s.departed ++ [n.name]).Nodup := by
  rw [List.nodup_append]
  refine ⟨h.once, List.nodup_singleton _, ?_⟩
  intro name old last new same
  have idle := ((h.gone name).mp old).2
  exact idle ⟨n, mem, (same.trans (List.mem_singleton.mp new)).symm⟩

theorem Balanced.gone_departs (h : s.Balanced log) {n : RunningNode} (mem : n ∈ s.cluster.running)
    {c : Cluster} (runs : ∀ name, c.Runs name ↔ s.cluster.Runs name ∧ name ≠ n.name)
    (name : String) :
    name ∈ s.departed ++ [n.name] ↔ (∃ y ∈ starts log, y.name = name) ∧ ¬ c.Runs name := by
  rw [runs, List.mem_append, h.gone name, List.mem_singleton]
  have started : ∃ y ∈ starts log, y.name = n.name :=
    ⟨_, List.mem_of_getElem? (h.books.started n mem), rfl⟩
  constructor
  · rintro (⟨known, idle⟩ | rfl)
    · exact ⟨known, fun runs => idle runs.1⟩
    · exact ⟨started, fun runs => runs.2 rfl⟩
  · rintro ⟨known, idle⟩
    by_cases same : name = n.name
    · exact Or.inr same
    · exact Or.inl ⟨known, fun runs => idle ⟨runs, same⟩⟩

/-- **Every step keeps the balance.** -/
theorem Balanced.snoc (h : x.before.Balanced log) (few : (starts log).length < 62984) :
    x.after.Balanced (log ++ [x]) := by
  cases Moment.does h.books (Nat.le_of_lt few) with
  | refused moves refuses fails news same =>
      obtain ⟨e, fails⟩ := fails
      have none_starts : starts (log ++ [x]) = starts log := starts_snoc_none news
      have none_done (kind : ScenarioStep → Bool) : done kind (log ++ [x]) = done kind log := by
        rw [done_snoc, fails]
        rfl
      rw [same]
      exact
        { books := none_starts ▸ h.books
          joins := by rw [none_starts, h.joins]
          leaves := by rw [none_done, h.leaves]
          crashes := by rw [none_done, h.crashes]
          balance := h.balance
          once := h.once
          gone := by
            rw [none_starts]
            exact h.gone }
  | passes rests news waits metrics departed =>
      have none_starts : starts (log ++ [x]) = starts log := starts_snoc_none news
      have others : x.step.isLeave = false ∧ x.step.isCrash = false := by
        generalize x.step = step at rests
        cases step <;> first | exact ⟨rfl, rfl⟩ | cases rests
      exact
        { books := none_starts ▸ h.books.waits waits
          joins := by rw [metrics, none_starts, h.joins]
          leaves := by rw [metrics, done_snoc_eq _ others.1, h.leaves]
          crashes := by rw [metrics, done_snoc_eq _ others.2, h.crashes]
          balance := by rw [metrics, waits.running, h.balance]
          once := departed ▸ h.once
          gone := by
            intro name
            rw [departed, none_starts, waits.runs_iff]
            exact h.gone name }
  | @begins node c step ok new news begun waits metrics departed =>
      have one_starts : starts (log ++ [x]) =
          starts log ++ [⟨node, .ofParts "sim" node x.before.cluster.nextPort⟩] := by
        rw [starts_snoc, news, Option.toList_some]
      have others : x.step.isLeave = false ∧ x.step.isCrash = false := by
        rw [step]
        exact ⟨rfl, rfl⟩
      have balance := h.balance
      exact
        { books := one_starts ▸ (h.books.begins few new begun).waits waits
          joins := by
            rw [metrics, one_starts, List.length_append, ← h.joins]
            rfl
          leaves := by
            rw [metrics, done_snoc_eq _ others.1]
            exact h.leaves
          crashes := by
            rw [metrics, done_snoc_eq _ others.2]
            exact h.crashes
          balance := by
            rw [metrics, waits.running, begun.running, List.length_append, List.length_singleton]
            simp only [SimulationMetrics.recordJoin]
            omega
          once := departed ▸ h.once.filter _
          gone := by
            rw [departed, one_starts]
            exact h.gone_begins fun name => waits.runs_iff.trans begun.runs_iff }
  | @departs n allowed ok news mem gone metrics departed =>
      have none_starts : starts (log ++ [x]) = starts log := starts_snoc_none news
      have one_done (kind : ScenarioStep → Bool) :
          done kind (log ++ [x]) = done kind log + (kind x.step).toNat := by
        rw [done_snoc, ok]
        rfl
      obtain ⟨joins, leaves, crashes, one⟩ := figures_of_departs metrics
      have fewer := h.books.length_departs mem gone
      have balance := h.balance
      exact
        { books := none_starts ▸ h.books.departs (Nat.le_of_lt few) mem gone
          joins := by rw [joins, none_starts, h.joins]
          leaves := by rw [leaves, one_done, h.leaves]
          crashes := by rw [crashes, one_done, h.crashes]
          balance := by
            rw [joins, leaves, crashes]
            omega
          once := departed ▸ h.once_departs mem
          gone := by
            rw [departed, none_starts]
            exact h.gone_departs mem fun name => gone.runs_iff }

/-- A step that moves a node is refused for that node alone, and leaves everything as it was. -/
def Moment.Answered (x : Moment) : Prop :=
  (x.Fails ↔ x.before.cluster.Refuses x.step) ∧ (x.Fails → x.after = x.before)

theorem Moment.Does.answered (does : x.Does) (moves : x.step.moves = true) : x.Answered := by
  have succeeds (ok : x.result = .ok ()) : ¬ x.Fails := by
    rintro ⟨e, fails⟩
    cases ok.symm.trans fails
  cases does with
  | refused _ refuses fails _ same => exact ⟨iff_of_true fails refuses, fun _ => same⟩
  | passes rests => cases moves.symm.trans rests
  | begins step ok new =>
      have allowed : ¬ x.before.cluster.Refuses x.step := step ▸ new
      exact ⟨iff_of_false (succeeds ok) allowed, fun fails => absurd fails (succeeds ok)⟩
  | departs allowed ok =>
      exact ⟨iff_of_false (succeeds ok) allowed, fun fails => absurd fails (succeeds ok)⟩

/-! ## Any steps -/

theorem length_starts_le (s : Simulation) (steps : List ScenarioStep) :
    (starts (s.history steps)).length ≤ steps.length := by
  have length : (s.history steps).length = steps.length := by
    induction steps generalizing s with
    | nil => rfl
    | cons x xs ih => exact congrArg Nat.succ (ih _)
  exact length ▸ List.length_filterMap_le ..

theorem balanced_goThrough {settings : ClusterSettings} (valid : settings.Valid) (speed : Float)
    (dice : List Nat) (steps : List ScenarioStep)
    (few : (starts ((create settings speed dice).history steps)).length < 62984) :
    ((create settings speed dice).goThrough steps).Balanced
        ((create settings speed dice).history steps) ∧
      ∀ x ∈ (create settings speed dice).history steps, x.step.moves = true → x.Answered := by
  -- by the last step, which meets a balanced simulation
  induction steps using List.reverseRecOn with
  | nil => exact ⟨balanced_create valid speed dice, List.forall_mem_nil _⟩
  | append_singleton steps step ih =>
      rw [history_snoc, starts_snoc, List.length_append] at few
      have fewer := Nat.lt_of_le_of_lt (Nat.le_add_right _ _) few
      obtain ⟨balanced, answered⟩ := ih fewer
      rw [history_snoc, goThrough_snoc]
      refine ⟨Balanced.snoc balanced fewer, ?_⟩
      intro x mem
      rcases List.mem_append.mp mem with old | last
      · exact answered x old
      · obtain rfl := List.mem_singleton.mp last
        exact (Moment.does balanced.books (Nat.le_of_lt fewer)).answered

/-- **The books of a simulation are kept.** After any steps, failed ones and those that had to wait too
long among them, the members of the cluster are the nodes that run, with the numbers of their starts,
and the mailboxes are theirs; the figures and the list of those who are gone agree with the history. No
address was used twice, each start shows its metrics, and a start, a leave or a crash was refused for the
name alone and then changed nothing. -/
theorem books_kept {settings : ClusterSettings} (valid : settings.Valid) (speed : Float)
    (dice : List Nat) (steps : List ScenarioStep)
    (few : (starts ((create settings speed dice).history steps)).length < 62984) :
    let log := (create settings speed dice).history steps
    let s := (create settings speed dice).goThrough steps
    s.Balanced log ∧ ((starts log).map Start.address).Nodup ∧
      s.cluster.metrics.Perm (s.cluster.network.nodes.map fun n => n.coordinator.metrics) ∧
      s.cluster.metrics.length = s.metrics.joins ∧
      ∀ x ∈ log, x.step.moves = true → x.Answered := by
  intro log s
  obtain ⟨balanced, answered⟩ := balanced_goThrough valid speed dice steps few
  have shown := balanced.books.metrics_perm
  refine ⟨balanced, balanced.books.nodup_addresses (Nat.le_of_lt few), shown, ?_, answered⟩
  rw [shown.length_eq, List.length_map, balanced.books.length_nodes, balanced.joins]

/-- A node that comes back after it has left, and steps that are refused in between. -/
theorem books_kept_cameBack :
    let settings := ClusterSettings.default
    let steps : List ScenarioStep :=
      [.join "a", .join "b", .join "a", .leave "a", .crash (.named "a"), .join "a", .crash .oldest,
        .leave "b"]
    let first := create settings 1 []
    let log := first.history steps
    let s := first.goThrough steps
    settings.Valid ∧ (starts log).length < 62984 ∧
      s.Balanced log ∧ ((starts log).map Start.address).Nodup ∧
      s.cluster.metrics.Perm (s.cluster.network.nodes.map fun n => n.coordinator.metrics) ∧
      s.cluster.metrics.length = s.metrics.joins ∧
      ∀ x ∈ log, x.step.moves = true → x.Answered := by
  intro settings steps first log s
  have valid : settings.Valid := ClusterSettings.valid_iff.mpr ⟨by decide, by decide⟩
  have few : (starts log).length < 62984 :=
    Nat.lt_of_le_of_lt (length_starts_le first steps) (by decide)
  exact ⟨valid, few, books_kept valid 1 [] steps few⟩

end Simulation

end ClusterSingleton
