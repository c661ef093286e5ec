import ClusterSingleton.Proofs.Machine.History

/-!
# A hand-over is completed for the node that asked

A node that has told its unit to end for another node keeps both in mind until the end of the unit is
reported. `Entry.HandsOver` lists what it can do meanwhile, and when: nothing, but for promising the
hand-over again to whoever was promised it before, stopping when the node itself is removed, and
completing the hand-over. `handOver_completes` says so of every step of a run.
-/

namespace ClusterSingleton

/-- How a node stands back when it has handed its unit over. -/
inductive Entry.StandsBack (e : Entry) (left : Prop) (target : Option Address) : Prop where
  | stops (gone : e.before.isRemoved e.before.self e.now = true) (outcome : e.turn.outcome = .stopped)
  | ends (present : e.before.isRemoved e.before.self e.now = false) (leaves : left)
      (phase : e.after.phase = .ended) (outcome : e.turn.outcome = .proceed)
  | follows (present : e.before.isRemoved e.before.self e.now = false) (stays : ¬ left)
      (phase : e.after.phase = .younger target) (outcome : e.turn.outcome = .proceed)

/-- The answers of a node that hands its unit over to `target`, where `left` says that the node itself
has left. -/
inductive Entry.HandsOver (e : Entry) (left : Prop) (unit : UnitId) (target : Option Address) :
    Prop where
  | completes (ended : e.event = .unitTerminated unit)
      (told : e.turn.sent = target.toList.map fun a => (a, .handOverDone))
      (back : e.StandsBack left target)
  | assures {a : Address} (requester : target = some a) (asked : e.event = .peer a .handOverToMe)
      (effects : e.effects = [.send a .handOverInProgress]) (outcome : e.turn.outcome = .proceed)
      (same : e.after = e.before)
  | stops (removed : e.event = .memberRemoved e.before.self) (stays : ¬ left) (silent : e.effects = [])
      (outcome : e.turn.outcome = .stopped)
  | waits (running : e.event ≠ .unitTerminated unit)
      (others : ∀ a, target = some a → e.event ≠ .peer a .handOverToMe)
      (present : e.event = .memberRemoved e.before.self → left) (silent : e.effects = [])
      (outcome : e.turn.outcome = .proceed) (same : e.after.phase = e.before.phase)

/-! ## One step -/

namespace Machine

variable {m : Machine} {now : Nat} {target : Option Address}

/-- Whatever a move into another phase does besides, it sends what it is given. -/
theorem enter_sent {p : Phase} {effects : List Effect} :
    (m.enter now p effects).sent = effects.filterMap Effect.sent? := by
  have left : (leave m.state).filterMap Effect.sent? = [] := by cases m.state <;> rfl
  have arriving : (m.arrival p).filterMap Effect.sent? = [] := by
    cases p with
    | younger | oldest =>
        simp only [arrival, request]
        split <;> rfl
    | _ => rfl
  rw [Turn.sent, enter_effects, List.filterMap_append, List.filterMap_append, left, arriving,
    List.append_nil, List.append_nil]

theorem sendTo_sent {message : Message} :
    (sendTo target message).filterMap Effect.sent? = target.toList.map fun a => (a, message) := by
  cases target <;> rfl

theorem handOverDone_sent :
    (m.handOverDone now target).sent = target.toList.map fun a => (a, .handOverDone) := by
  simp only [handOverDone]
  split
  · exact sendTo_sent
  · split <;> exact enter_sent.trans sendTo_sent

/-- A node that is not removed stops nowhere on its way. -/
theorem enter_proceeds {p : Phase} {effects : List Effect} (running : m.terminated = false)
    (present : m.isRemoved m.self now = false) : (m.enter now p effects).outcome = .proceed := by
  rw [enter_outcome running, enter_machine, running, present, Bool.and_false]
  rfl

end Machine

section Step

variable {e : Entry} {left : Prop} {unit : UnitId} {target : Option Address} {m : Machine} {now : Nat}

theorem standsBack_of_handOverDone (running : e.before.terminated = false)
    (turn : e.turn = e.before.handOverDone e.now target)
    (exited : e.before.selfExited = true ↔ left) : e.StandsBack left target := by
  simp only [Machine.handOverDone] at turn
  cases gone : e.before.isRemoved e.before.self e.now with
  | true =>
      rw [gone, if_pos rfl] at turn
      exact .stops gone (congrArg Turn.outcome turn)
  | false =>
      rw [gone, if_neg Bool.false_ne_true] at turn
      cases leaves : e.before.selfExited with
      | true =>
          rw [leaves, if_pos rfl] at turn
          refine .ends gone (exited.mp leaves) ?_ ?_
          · rw [Entry.after, turn, Machine.enter_machine]
          · rw [turn, Machine.enter_proceeds running gone]
      | false =>
          rw [leaves, if_neg Bool.false_ne_true] at turn
          refine .follows gone ?_ ?_ ?_
          · intro left
            cases leaves.symm.trans (exited.mpr left)
          · rw [Entry.after, turn, Machine.enter_machine]
          · rw [turn, Machine.enter_proceeds running gone]

/-- What is left to the fallback stops the node at its own removal, and else is waited out. -/
theorem handsOver_of_fallback (turn : e.turn = e.before.fallback e.now e.event)
    (alive : e.event ≠ .unitTerminated unit)
    (others : ∀ a, target = some a → e.event ≠ .peer a .handOverToMe)
    (exited : e.before.selfExited = true ↔ left) : e.HandsOver left unit target := by
  have silent : e.effects = [] := (congrArg Turn.effects turn).trans Machine.fallback_effects
  have outcome := (congrArg Turn.outcome turn).trans (Machine.fallback_ends e.event)
  have same : e.after.phase = e.before.phase :=
    (congrArg (fun t : Turn => t.machine.phase) turn).trans Machine.fallback_frame.1
  split at outcome
  next own =>
    refine .stops own.1 ?_ silent outcome
    intro left
    cases own.2.symm.trans (exited.mpr left)
  next other =>
    refine .waits alive others ?_ silent outcome same
    intro own
    by_contra stays
    rw [← exited, Bool.not_eq_true] at stays
    exact other ⟨own, stays⟩

/-- An event that is neither the end of the unit nor a request of the target is left to the
fallback. -/
theorem Machine.inHandingOver_eq_none {event : Event} (alive : event ≠ .unitTerminated unit)
    (others : ∀ a, target = some a → event ≠ .peer a .handOverToMe) :
    m.inHandingOver unit target now event = none := by
  cases event with
  | unitTerminated u =>
      rw [inHandingOver, if_neg]
      rintro rfl
      exact alive rfl
  | peer sender message =>
      cases message with
      | handOverToMe =>
          rw [inHandingOver, if_neg]
          intro requester
          exact others sender requester rfl
      | _ => rfl
  | _ => rfl

theorem handsOver_of_phase (running : e.before.terminated = false)
    (there : e.before.phase = .handingOver unit target)
    (exited : e.before.selfExited = true ↔ left) : e.HandsOver left unit target := by
  have turn : e.turn = (e.before.inHandingOver unit target e.now e.event).getD
      (e.before.fallback e.now e.event) := by
    rw [Entry.turn, Machine.handle, running, Machine.inPhase, there]
    rfl
  by_cases ended : e.event = .unitTerminated unit
  · rw [ended, Machine.inHandingOver, if_pos rfl, Option.getD_some] at turn
    refine .completes ended ?_ (standsBack_of_handOverDone running turn exited)
    rw [turn, Machine.handOverDone_sent]
  by_cases asked : ∃ a, target = some a ∧ e.event = .peer a .handOverToMe
  · obtain ⟨a, requester, asked⟩ := asked
    rw [asked, Machine.inHandingOver, if_pos requester, Option.getD_some] at turn
    exact .assures requester asked (congrArg Turn.effects turn) (congrArg Turn.outcome turn)
      (congrArg Turn.machine turn)
  · have others : ∀ a, target = some a → e.event ≠ .peer a .handOverToMe := by
      intro a requester event
      exact asked ⟨a, requester, event⟩
    rw [Machine.inHandingOver_eq_none ended others, Option.getD_none] at turn
    exact handsOver_of_fallback turn ended others exited

/-- A step that stays does not forget the unit, nor for whom it is to end. -/
theorem Entry.HandsOver.keeps (step : e.HandsOver left unit target)
    (there : e.before.phase = .handingOver unit target) (after : e.after.state = .handingOver)
    (going : e.after.terminated = false) : e.after.phase = .handingOver unit target := by
  have outcome := Entry.proceed_iff.mpr going
  cases step with
  | completes _ _ back =>
      cases back with
      | stops _ stopped => cases outcome.symm.trans stopped
      | ends _ _ phase => cases after.symm.trans (congrArg Phase.state phase)
      | follows _ _ phase => cases after.symm.trans (congrArg Phase.state phase)
  | assures _ _ _ _ same =>
      rw [same]
      exact there
  | stops _ _ _ stopped => cases outcome.symm.trans stopped
  | waits _ _ _ _ _ same => exact same.trans there

/-- What ends a hand-over. -/
theorem Entry.HandsOver.leaves_iff (step : e.HandsOver left unit target)
    (there : e.before.phase = .handingOver unit target) :
    (e.after.state ≠ .handingOver ∨ e.after.terminated = true) ↔
      e.event = .unitTerminated unit ∨ e.event = .memberRemoved e.before.self ∧ ¬ left := by
  have ends (outcome : e.turn.outcome = .stopped) : e.after.terminated = true :=
    Entry.terminated_iff.mpr (by rw [outcome]; decide)
  have goes (outcome : e.turn.outcome = .proceed) (same : e.after.phase = e.before.phase) :
      ¬ (e.after.state ≠ .handingOver ∨ e.after.terminated = true) := by
    rintro (elsewhere | done)
    · exact elsewhere (congrArg Phase.state (same.trans there))
    · exact Entry.terminated_iff.mp done outcome
  cases step with
  | completes ended _ back =>
      refine ⟨fun _ => Or.inl ended, fun _ => ?_⟩
      cases back with
      | stops _ outcome => exact Or.inr (ends outcome)
      | ends _ _ phase | follows _ _ phase =>
          left
          rw [Machine.state, phase]
          rintro ⟨⟩
  | assures _ asked _ outcome same =>
      refine ⟨fun h => absurd h (goes outcome (congrArg Machine.phase same)), ?_⟩
      rw [asked]
      rintro (⟨⟨⟩⟩ | ⟨⟨⟩, -⟩)
  | stops removed stays _ outcome =>
      exact ⟨fun _ => Or.inr ⟨removed, stays⟩, fun _ => Or.inr (ends outcome)⟩
  | waits alive _ present _ outcome same =>
      refine ⟨fun h => absurd h (goes outcome same), ?_⟩
      rintro (ended | ⟨removed, stays⟩)
      · exact absurd ended alive
      · exact absurd (present removed) stays

end Step

/-! ## A run -/

section Run

variable {unit : UnitId} {target : Option Address}

/-- As long as a node hands its unit over, unit and target stay the same. -/
theorem Machine.run_handingOver {m : Machine} {ys : List Input}
    (there : m.phase = .handingOver unit target) (running : m.terminated = false)
    (stays : ∀ d ∈ m.history ys, d.after.state = .handingOver ∧ d.after.terminated = false) :
    (m.run ys).phase = .handingOver unit target ∧ (m.run ys).terminated = false := by
  induction ys using List.reverseRecOn with
  | nil => exact ⟨there, running⟩
  | append_singleton ys x ih =>
      rw [history_snoc, List.forall_mem_append, List.forall_mem_singleton] at stays
      obtain ⟨here, alive⟩ := ih stays.1
      obtain ⟨after, going⟩ := stays.2
      -- whether the node has left plays no part here, so the flag stands for it
      have step := handsOver_of_phase (e := ⟨x, m.run ys⟩) alive here Iff.rfl
      rw [run_snoc]
      exact ⟨step.keeps here after going, going⟩

/-- **A hand-over is completed for the node that asked.** Say a node hands its unit over after the
inputs `ws`, and goes on to do so throughout the inputs `ys`. Then it still hands over the same unit
to the same node, whatever came between, and answers the next input as `Entry.HandsOver` has it. Only
the end of the unit and the removal of the node, unless the node has left, put an end to the
hand-over. -/
theorem handOver_completes {p : Profile} {ws ys : List Input}
    (there : (p.machine.run ws).phase = .handingOver unit target)
    (running : (p.machine.run ws).terminated = false)
    (stays : ∀ d ∈ (p.machine.run ws).history ys,
      d.after.state = .handingOver ∧ d.after.terminated = false) (x : Input) :
    let e : Entry := ⟨x, p.machine.run (ws ++ ys)⟩
    let left := ∃ d ∈ p.machine.history (ws ++ ys), d.event = .memberExited p.self
    e.before.phase = .handingOver unit target ∧ e.HandsOver left unit target ∧
      (e.after.state ≠ .handingOver ∨ e.after.terminated = true ↔
        e.event = .unitTerminated unit ∨ e.event = .memberRemoved p.self ∧ ¬ left) := by
  intro e left
  have still : e.before.phase = .handingOver unit target ∧ e.before.terminated = false := by
    show (p.machine.run (ws ++ ys)).phase = _ ∧ (p.machine.run (ws ++ ys)).terminated = _
    rw [Machine.run_append]
    exact Machine.run_handingOver there running stays
  obtain ⟨here, alive⟩ := still
  have place : p.machine.history ((ws ++ ys) ++ [x]) = p.machine.history (ws ++ ys) ++ e :: [] :=
    Machine.history_snoc ..
  have step : e.HandsOver left unit target :=
    handsOver_of_phase alive here (Machine.selfExited_iff place alive)
  have own : e.before.self = p.self := Machine.run_self ..
  refine ⟨here, step, ?_⟩
  rw [← own]
  exact step.leaves_iff here

end Run

/-- A node that hands its unit over to `b` is asked by `c` as well, leaves, and is asked by `b` again;
then its unit ends. It tells `b`, and nobody else. -/
theorem handOver_completes_exited :
    let p : Profile := ⟨⟨"a"⟩, ⟨5, 2⟩, 1000, 2000, 900000⟩
    let ws : List Input := [⟨0, .nth 0, .startNotifier⟩,
      ⟨0, .nth 1, .initialOldest (some ⟨"a"⟩) true⟩, ⟨10, .nth 0, .peer ⟨"b"⟩ .handOverToMe⟩]
    let ys : List Input := [⟨20, .nth 0, .peer ⟨"c"⟩ .handOverToMe⟩,
      ⟨30, .nth 0, .memberExited ⟨"a"⟩⟩, ⟨1010, .nth 0, .peer ⟨"b"⟩ .handOverToMe⟩]
    let e : Entry := ⟨⟨1500, .nth 0, .unitTerminated (.nth 1)⟩, p.machine.run (ws ++ ys)⟩
    e.turn.sent = [(⟨"b"⟩, .handOverDone)] ∧ e.after.phase = .ended := by
  intro p ws ys e
  have there : (p.machine.run ws).phase = .handingOver (.nth 1) (some ⟨"b"⟩) := by decide
  have stays : ∀ d ∈ (p.machine.run ws).history ys,
      d.after.state = .handingOver ∧ d.after.terminated = false := by decide
  have leaves : ∃ d ∈ p.machine.history (ws ++ ys), d.event = .memberExited p.self := by decide
  obtain ⟨-, step, -⟩ := handOver_completes there (by decide) stays e.toInput
  cases step with
  | completes _ told back =>
      refine ⟨told, ?_⟩
      cases back with
      | ends _ _ phase => exact phase
      | stops gone => exact absurd gone (by decide)
      | follows _ never => exact absurd leaves never
  | assures _ asked => cases asked
  | stops removed => cases removed
  | waits alive => exact absurd rfl alive

end ClusterSingleton
