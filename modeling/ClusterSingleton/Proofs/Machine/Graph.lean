import ClusterSingleton.Proofs.Machine.Split

/-!
# The graph of the states

Where a machine can go from each state. A turn follows an edge of the graph or stays, and the last
two states are left by no turn and ask for nothing. `transition_graph` says so of a machine that
keeps its state and its data apart, at every point of every run, and that the two never come apart.
-/

namespace ClusterSingleton

/-- The states that can follow. -/
def State.successors : State → List State
  | start => [younger, becomingOldest, oldest]
  | younger => [becomingOldest, oldest]
  | becomingOldest => [oldest]
  | oldest => [wasOldest, handingOver, younger, ended]
  | wasOldest => [handingOver, stopping, younger, ended]
  | handingOver => [younger, ended]
  | stopping => []
  | ended => []

/-- A turn of a machine in the first state leaves it there, or leads to one of the others. -/
def Turn.Leads (t : Turn) (source : State) (targets : List State) : Prop :=
  t.machine.state = source ∨ t.machine.state ∈ targets

namespace Machine

variable {m : Machine} {now : Nat} {fresh : UnitId} {e : Event}

/-! ## Where the moves lead -/

theorem enter_leads {p : Phase} {effects : List Effect} {source : State} {targets : List State}
    (edge : p.state ∈ targets) : (m.enter now p effects).Leads source targets := by
  right
  rw [enter_machine]
  exact edge

theorem handOverDone_leads {target : Option Address} {targets : List State}
    (younger : .younger ∈ targets) (ended : .ended ∈ targets) :
    (m.handOverDone now target).Leads m.state targets := by
  simp only [handOverDone]
  split
  · exact Or.inl rfl
  · split
    · exact enter_leads ended
    · exact enter_leads younger

theorem handOver_leads {unit : UnitId} {unitEnded : Bool} {target : Option Address}
    {targets : List State} (handingOver : .handingOver ∈ targets) (younger : .younger ∈ targets)
    (ended : .ended ∈ targets) :
    (m.handOver now unit unitEnded target).Leads m.state targets := by
  unfold handOver
  split
  · exact handOverDone_leads younger ended
  · exact enter_leads handingOver

theorem windDown_leads {unit : UnitId} {unitEnded : Bool} {targets : List State}
    (stopping : .stopping ∈ targets) :
    (m.windDown now unit unitEnded).Leads m.state targets := by
  unfold windDown
  split
  · exact Or.inl rfl
  · exact enter_leads stopping

/-! ## Every turn follows the graph -/

theorem Grounds.source {m' : Machine} (h : Grounds m now e m') :
    m.state = .start ∨ m.state = .younger ∨ m.state = .becomingOldest := by
  cases h with
  | safeFromStart h => exact Or.inl (congrArg Phase.state h)
  | nobodyBefore h => exact Or.inr (Or.inl (congrArg Phase.state h))
  | handedOver h | marginPassed h | retriesOver h =>
      exact Or.inr (Or.inr (congrArg Phase.state h))

theorem Release.source {m' : Machine} {unit : UnitId} {unitEnded : Bool} {target : Option Address}
    (h : Release m now unit unitEnded e m' target) :
    m.state = .oldest ∨ m.state = .wasOldest := by
  cases h with
  | claimOfRemoved h | askedAsOldest h => exact Or.inl (congrArg Phase.state h)
  | askedAsWasOldest h | newOldestRemoved h => exact Or.inr (congrArg Phase.state h)

theorem Row.leads {t : Turn} (row : Row m now fresh e t) : t.Leads m.state m.state.successors := by
  cases row with
  | hosts grounds =>
      refine enter_leads ?_
      show State.oldest ∈ m.state.successors
      rcases grounds.source with source | source | source <;> rw [source] <;> decide
  | @handsOver unit unitEnded _ m' target reason =>
      have same : m'.state = m.state := congrArg Phase.state reason.phase
      have leads : (m'.handOver now unit unitEnded target).Leads m'.state m.state.successors := by
        rcases reason.source with source | source <;> rw [source] <;>
          exact handOver_leads (by decide) (by decide) (by decide)
      exact same ▸ leads
  | unsafeFromStart h | waitsFromStart h | asksPrevious h | yields h =>
      refine enter_leads ?_
      rw [state, h]
      simp [Phase.state, State.successors]
  | endsQuietly h | findsNobody h =>
      refine windDown_leads ?_
      rw [state, h]
      simp [Phase.state, State.successors]
  | completes h =>
      refine handOverDone_leads ?_ ?_ <;>
      · rw [state, h]
        simp [Phase.state, State.successors]
  | follows h | forgets h | adopts h | unitEndsAsOldest h | unitEndsAsWasOldest h =>
      left
      rw [state, state, h]
      rfl
  | ignores => exact Or.inl (congrArg Phase.state fallback_frame.1)
  | _ => exact Or.inl rfl

theorem handle_leads (e : Event) : (m.handle now fresh e).Leads m.state m.state.successors := by
  cases done : m.terminated with
  | true =>
      rw [handle_terminated done]
      exact Or.inl rfl
  | false => exact (handle_row done e).leads

/-! ## The last two states -/

/-- A machine that has given up its unit for good ends the run, or does not answer. -/
theorem inPhase_resting (rests : m.state = .stopping ∨ m.state = .ended) :
    m.inPhase now fresh e = none ∨ m.inPhase now fresh e = some (m.stop []) := by
  cases h : m.phase with
  | stopping unit =>
      cases e with
      | unitTerminated u =>
          by_cases same : u = unit <;> simp [inPhase, h, inStopping, same]
      | _ => simp [inPhase, h, inStopping]
  | ended =>
      cases e with
      | memberRemoved a =>
          by_cases self : a = m.self <;> simp [inPhase, h, inEnded, self]
      | _ => simp [inPhase, h, inEnded]
  | _ => simp [state, h, Phase.state] at rests

theorem handle_resting (rests : m.state = .stopping ∨ m.state = .ended) (e : Event) :
    (m.handle now fresh e).effects = [] ∧ (m.handle now fresh e).machine.state = m.state := by
  unfold handle
  split
  · exact ⟨rfl, rfl⟩
  · rcases inPhase_resting rests with silent | stops
    · rw [silent]
      exact ⟨fallback_effects, congrArg Phase.state fallback_frame.1⟩
    · rw [stops]
      exact ⟨rfl, rfl⟩

end Machine

/-! ## Every run -/

/-- **State, data and the graph.** Wherever a run leads, the data goes with the state and no effect
was left behind; the next event leaves the state or leads along an edge of the graph. The last two
states are not left and ask for nothing, and after an end nothing changes and nothing is asked for.
All this is what a machine does that keeps state and data in one. -/
theorem transition_graph (p : Profile) (xs : List Input) (x : Input) :
    let s := (SplitMachine.ofProfile p).run xs
    let r := s.handle x.now x.fresh x.event
    s.Fits ∧ s.outbox = [] ∧
      (r.machine.state = s.state ∨ r.machine.state ∈ s.state.successors) ∧
      (s.state = .stopping ∨ s.state = .ended → r.effects = [] ∧ r.machine.state = s.state) ∧
      (r.outcome ≠ .proceed → ∀ ys : List Input, r.machine.run ys = r.machine ∧
        ∀ y : Input, r.machine.handle y.now y.fresh y.event = ⟨r.machine, [], .stopped⟩) ∧
      s = .ofMachine (p.machine.run xs) ∧
      r = .ofTurn ((p.machine.run xs).handle x.now x.fresh x.event) := by
  intro s r
  have stands : s = .ofMachine (p.machine.run xs) := SplitMachine.run_ofProfile p xs
  have answers : r = .ofTurn ((p.machine.run xs).handle x.now x.fresh x.event) := by
    show s.handle _ _ _ = _
    rw [stands]
    exact SplitMachine.handle_ofMachine ..
  rw [answers, stands]
  refine ⟨SplitMachine.fits_holding, rfl, Machine.handle_leads x.event,
    fun rests => Machine.handle_resting rests x.event, ?_, rfl, rfl⟩
  intro stops ys
  have done : ((p.machine.run xs).handle x.now x.fresh x.event).machine.terminated = true :=
    Bool.not_eq_false _ ▸ mt (Machine.handle_proceed_iff x.event).mpr stops
  exact ⟨SplitMachine.run_terminated done ys, fun y => SplitMachine.handle_terminated done y.event⟩

end ClusterSingleton
