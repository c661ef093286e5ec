import ClusterSingleton.Proofs.Machine.History
import ClusterSingleton.SplitMachine

/-!
# State and data keep together

A machine with state and data apart is followed from where a `Machine` stands: each decision that it
carries out is the end of a turn, so each handler gives the answer of the phase, and finds its data.
`handle_ofMachine` says so of one event, and `run_ofProfile` of a whole run: it never stands anywhere
else.
-/

namespace ClusterSingleton

namespace SplitMachine

/-- A machine with some effects that it is about to ask for. -/
def holding (m : Machine) (effects : List Effect) : SplitMachine := ⟨m.state, m, effects⟩

def ofMachine (m : Machine) : SplitMachine := holding m []

def ofProfile (p : Profile) : SplitMachine := ⟨.start, p.machine, []⟩

def run (s : SplitMachine) (xs : List Input) : SplitMachine :=
  xs.foldl (fun s x => (s.handle x.now x.fresh x.event).machine) s

end SplitMachine

def Reply.ofTurn (t : Turn) : Reply := ⟨.ofMachine t.machine, t.effects, t.outcome⟩

namespace SplitMachine

variable {m : Machine} {now : Nat} {fresh : UnitId} {effects : List Effect}

theorem fits_holding : (holding m effects).Fits := rfl

@[simp] theorem core_holding : (holding m effects).core = m := rfl

@[simp] theorem emit_holding {x : Effect} :
    (holding m effects).emit x = holding m (effects ++ [x]) := rfl

@[simp] theorem send_holding {target : Option Address} {message : Message} :
    (holding m effects).send target message =
      holding m (effects ++ Machine.sendTo target message) := by
  cases target with
  | some a => rfl
  | none => simp [send, Machine.sendTo]

@[simp] theorem noticed_holding : (holding m effects).noticed = holding m.noticed effects := rfl

@[simp] theorem record_holding {a : Address} :
    (holding m effects).record a now =
      holding { m with removed := m.removed.add a now } effects := rfl

/-- A machine that heard nothing since it asked is one that has asked. -/
theorem asked_of_not_noticed (silent : m.noticeReceived = false) : m.asked = m := by
  cases m
  cases silent
  rfl

@[simp] theorem requestNext_holding :
    (holding m effects).requestNext = holding m.asked (effects ++ m.request) := by
  cases heard : m.noticeReceived with
  | true => simp [requestNext, holding, emit, heard, Machine.request, Machine.asked, Machine.state]
  | false =>
      rw [asked_of_not_noticed heard]
      simp [requestNext, holding, heard, Machine.request]

/-! ## A decision carried out is a turn -/

section Conclude

theorem depart_holding {source : State} :
    (holding m effects).depart source = holding m (effects ++ Machine.leave source) := by
  cases source <;> simp [depart, Machine.leave]

theorem arrive_holding {p : Phase} :
    (holding { m with phase := p } effects).arrive p.state =
      holding { m with phase := p, noticeReceived := m.noticeReceived && !Machine.asksOnEntry p }
        (effects ++ m.arrival p) := by
  cases p with
  | younger oldest | oldest unit unitEnded =>
      simp [arrive, Phase.state, Machine.asksOnEntry, Machine.arrival, Machine.asked,
        Machine.request]
  | becomingOldest previous =>
      simp [arrive, Phase.state, Machine.asksOnEntry, Machine.arrival]
  | _ => simp [arrive, Phase.state, Machine.asksOnEntry, Machine.arrival]

/-- A change of state is the entry into the new phase. -/
theorem conclude_goto {p : Phase} (running : m.terminated = false) (other : m.state ≠ p.state) :
    conclude now (holding m effects, .goto p.state p) = .ofTurn (m.enter now p effects) := by
  have ends : ∀ b : Bool, (p.state = .younger ∨ p.state = .ended) ∧ b = true ↔
      (Machine.endsRemoved p && b) = true := by
    intro b
    cases p <;> simp [Phase.state, Machine.endsRemoved]
  have moved : carryOut (holding m effects) now (.goto p.state p) =
      (holding { m with phase := p, noticeReceived := m.noticeReceived && !Machine.asksOnEntry p }
        (effects ++ Machine.leave m.state ++ m.arrival p),
        Machine.quiet (Machine.endsRemoved p && m.isRemoved m.self now)) := by
    show (if m.state ≠ p.state then
      (holding { m with phase := p } effects).transit m.state p.state now else _) = _
    rw [if_pos other, transit, depart_holding, arrive_holding]
    simp only [ends]
    show (if (Machine.endsRemoved p && m.isRemoved m.self now) = true then _ else _) = _
    rw [Machine.quiet]
    split <;> rfl
  rw [conclude, moved, Reply.ofTurn, Machine.enter_outcome running, Machine.enter_effects,
    Machine.enter_machine, running]
  cases Machine.endsRemoved p && m.isRemoved m.self now with
  | false => rfl
  | true => rfl

theorem conclude_stay : conclude now (holding m effects, .stay) = .ofTurn (m.stay effects) := rfl

theorem conclude_stayUsing {p : Phase} (same : p.state = m.state) :
    conclude now (holding m effects, .stayUsing p) = .ofTurn (m.stayAs p effects) := by
  show Reply.mk ⟨m.state, { m with phase := p }, []⟩ effects .proceed = _
  rw [← same]
  rfl

theorem conclude_stop : conclude now (holding m effects, .stop) = .ofTurn (m.stop effects) := rfl

theorem conclude_fail {x : Error} : conclude now (holding m [], .fail x) = .ofTurn (m.fail x) := rfl

theorem conclude_askAgain {target : Option Address} {message : Message} {key : TimerKey}
    {retry : UInt32 → Event} {count : UInt32} :
    conclude now ((holding m []).askAgain target message key retry count) =
      .ofTurn (m.askAgain target message key retry count) := by
  by_cases fits : count.toNat < RetryLimits.bound
  · rw [askAgain, Machine.askAgain, if_pos fits, if_pos fits, send_holding, emit_holding]
    exact conclude_stay
  · rw [askAgain, Machine.askAgain, if_neg fits, if_neg fits]
    rfl

theorem conclude_host (running : m.terminated = false) (other : m.state ≠ .oldest) :
    conclude now ((holding m []).host fresh) = .ofTurn (m.host now fresh) :=
  conclude_goto (p := .oldest fresh false) running other

theorem conclude_yieldTo {unit : UnitId} {unitEnded : Bool} {newOldest : Option Address}
    (running : m.terminated = false) (other : m.state ≠ .wasOldest) :
    conclude now ((holding m []).yieldTo unit unitEnded newOldest) =
      .ofTurn (m.yieldTo now unit unitEnded newOldest) := by
  rw [yieldTo, send_holding, emit_holding]
  exact conclude_goto (p := .wasOldest unit unitEnded newOldest) running other

theorem conclude_handOverDone {target : Option Address} (running : m.terminated = false)
    (notYounger : m.state ≠ .younger) (notEnded : m.state ≠ .ended) :
    conclude now ((holding m []).handOverDone now target) =
      .ofTurn (m.handOverDone now target) := by
  rw [handOverDone, send_holding, core_holding, Machine.handOverDone]
  by_cases gone : m.isRemoved m.self now = true
  · rw [if_pos gone, if_pos gone]
    exact conclude_stop
  · rw [if_neg gone, if_neg gone]
    by_cases exited : m.selfExited = true
    · rw [if_pos exited, if_pos exited]
      exact conclude_goto (p := .ended) running notEnded
    · rw [if_neg exited, if_neg exited]
      exact conclude_goto (p := .younger target) running notYounger

theorem conclude_handOver {unit : UnitId} {unitEnded : Bool} {target : Option Address}
    (running : m.terminated = false) (hosts : m.state = .oldest ∨ m.state = .wasOldest) :
    conclude now ((holding m []).handOver now unit unitEnded target) =
      .ofTurn (m.handOver now unit unitEnded target) := by
  have other : ∀ s, s ≠ .oldest → s ≠ .wasOldest → m.state ≠ s := by
    rintro s notOldest notWasOldest rfl
    rcases hosts with h | h
    · exact notOldest h
    · exact notWasOldest h
  cases unitEnded with
  | true =>
      exact conclude_handOverDone running (other _ (by decide) (by decide))
        (other _ (by decide) (by decide))
  | false =>
      rw [handOver, if_neg Bool.false_ne_true, send_holding, emit_holding]
      exact conclude_goto (p := .handingOver unit target) running
        (other .handingOver (by decide) (by decide))

theorem conclude_windDown {unit : UnitId} {unitEnded : Bool} (running : m.terminated = false)
    (other : m.state ≠ .stopping) :
    conclude now ((holding m []).windDown unit unitEnded) =
      .ofTurn (m.windDown now unit unitEnded) := by
  cases unitEnded with
  | true => exact conclude_stop
  | false => exact conclude_goto (p := .stopping unit) running other

theorem conclude_awaitMargin {a : Address} :
    conclude now ((holding m []).awaitMargin a) = .ofTurn (m.awaitMargin a) := by
  rw [awaitMargin, core_holding, Machine.awaitMargin]
  by_cases self : a = m.self
  · rw [if_pos self, if_pos self]
    exact conclude_stop
  · rw [if_neg self, if_neg self]
    exact conclude_stay

end Conclude

/-! ## The handlers -/

theorem state_ne {p : Phase} {s : State} (h : m.phase = p) (other : p.state ≠ s) :
    m.state ≠ s := by
  rw [Machine.state, h]
  exact other

section Handlers

variable {e : Event} (running : m.terminated = false)

include running

theorem inStart_holding (h : m.phase = .start) :
    ((holding m []).inStart fresh e).map (conclude now) =
      (m.inStart now fresh e).map .ofTurn := by
  cases e with
  | startNotifier =>
      simp only [inStart, Machine.inStart, emit_holding, requestNext_holding, Option.map_some]
      rfl
  | initialOldest oldest safe =>
      by_cases self : oldest = some m.self
      · cases safe with
        | true =>
            simp only [inStart, Machine.inStart, core_holding, noticed_holding, self, if_true]
            exact congrArg some (conclude_host running (state_ne h (by decide)))
        | false =>
            simp only [inStart, Machine.inStart, core_holding, noticed_holding, self, if_true]
            exact congrArg some
              (conclude_goto (p := .becomingOldest none) running (state_ne h (by decide)))
      · simp only [inStart, Machine.inStart, core_holding, noticed_holding, self, if_false]
        exact congrArg some
          (conclude_goto (p := .younger oldest) running (state_ne (s := .younger) h (by decide)))
  | _ => rfl

theorem inYounger_holding {oldest : Option Address} (h : m.phase = .younger oldest) :
    ((holding m []).inYounger oldest now fresh e).map (conclude now) =
      (m.inYounger oldest now fresh e).map .ofTurn := by
  cases e with
  | oldestChanged new =>
      by_cases self : new = some m.self
      · cases oldest with
        | none =>
            simp only [inYounger, Machine.inYounger, core_holding, noticed_holding, self, if_true]
            exact congrArg some (conclude_host running (state_ne h (by simp [Phase.state])))
        | some a =>
            by_cases gone : m.isRemoved a now = true
            · simp only [inYounger, Machine.inYounger, core_holding, noticed_holding, self, gone,
                if_true]
              exact congrArg some (conclude_host running (state_ne h (by simp [Phase.state])))
            · simp only [inYounger, Machine.inYounger, core_holding, noticed_holding, self, gone,
                if_true, send_holding, Machine.sendTo]
              exact congrArg some (conclude_goto (p := .becomingOldest (some a)) running
                (state_ne h (by simp [Phase.state])))
      · simp only [inYounger, Machine.inYounger, core_holding, noticed_holding, self, if_false,
          requestNext_holding]
        exact congrArg some (conclude_stayUsing (congrArg Phase.state h).symm)
  | memberRemoved a => exact congrArg some conclude_awaitMargin
  | delayedMemberRemoved a =>
      by_cases tracked : oldest = some a
      · simp only [inYounger, Machine.inYounger, record_holding, tracked, if_true]
        exact congrArg some (conclude_stayUsing (congrArg Phase.state h).symm)
      · simp only [inYounger, Machine.inYounger, tracked, if_false]
        rfl
  | _ => rfl

theorem retryHandOver_holding {previous : Option Address} {count : UInt32}
    (h : m.phase = .becomingOldest previous) :
    conclude now ((holding m []).retryHandOver previous now fresh count) =
      .ofTurn (m.retryHandOver previous now fresh count) := by
  by_cases within : count ≤ m.limits.handOver
  · simp only [retryHandOver, Machine.retryHandOver, core_holding, within, if_true]
    exact conclude_askAgain
  · by_cases gone : m.knownRemoved previous now = true
    · simp only [retryHandOver, Machine.retryHandOver, core_holding, within, gone, if_true, if_false]
      exact conclude_host running (state_ne h (by simp [Phase.state]))
    · by_cases shut : m.clusterTerminated = true
      · simp only [retryHandOver, Machine.retryHandOver, core_holding, within, gone, shut, if_true,
          if_false]
        exact conclude_stop
      · simp only [retryHandOver, Machine.retryHandOver, core_holding, within, gone, shut, if_false]
        exact conclude_fail

theorem inBecomingOldest_holding {previous : Option Address}
    (h : m.phase = .becomingOldest previous) :
    ((holding m []).inBecomingOldest previous now fresh e).map (conclude now) =
      (m.inBecomingOldest previous now fresh e).map .ofTurn := by
  have hosts : ∀ r, conclude now ((holding { m with removed := r } []).host fresh) =
      .ofTurn ({ m with removed := r }.host now fresh) :=
    fun r => conclude_host running (state_ne h (by simp [Phase.state]))
  cases e with
  | peer sender message =>
      cases message with
      | handOverToMe => rfl
      | handOverInProgress => rfl
      | handOverDone =>
          cases previous with
          | none => rfl
          | some a =>
              by_cases expected : a = sender
              · simp only [inBecomingOldest, Machine.inBecomingOldest, expected, if_true]
                exact congrArg some (hosts m.removed)
              · simp only [inBecomingOldest, Machine.inBecomingOldest, expected, if_false]
                rfl
      | takeOverFromMe =>
          cases previous with
          | none =>
              simp only [inBecomingOldest, Machine.inBecomingOldest, send_holding, Machine.sendTo]
              exact congrArg some (conclude_stayUsing (congrArg Phase.state h).symm)
          | some a =>
              by_cases expected : a = sender
              · simp only [inBecomingOldest, Machine.inBecomingOldest, expected, if_true]
                rfl
              · simp only [inBecomingOldest, Machine.inBecomingOldest, expected, if_false]
                rfl
  | memberRemoved a => exact congrArg some conclude_awaitMargin
  | delayedMemberRemoved a =>
      by_cases tracked : previous = some a
      · simp only [inBecomingOldest, Machine.inBecomingOldest, record_holding, tracked, if_true]
        exact congrArg some (hosts _)
      · simp only [inBecomingOldest, Machine.inBecomingOldest, tracked, if_false]
        rfl
  | handOverRetry count => exact congrArg some (retryHandOver_holding running h)
  | _ => rfl

theorem inOldest_holding {unit : UnitId} {unitEnded : Bool} (h : m.phase = .oldest unit unitEnded) :
    ((holding m []).inOldest unit unitEnded now e).map (conclude now) =
      (m.inOldest unit unitEnded now e).map .ofTurn := by
  have oldest : m.state = .oldest := congrArg Phase.state h
  have yields : ∀ new, conclude now ((holding m.noticed []).yieldTo unit unitEnded new) =
      .ofTurn (m.noticed.yieldTo now unit unitEnded new) :=
    fun new => conclude_yieldTo running (state_ne h (by simp [Phase.state]))
  cases e with
  | oldestChanged new =>
      cases new with
      | none => exact congrArg some (yields none)
      | some a =>
          by_cases self : a = m.self
          · simp only [inOldest, Machine.inOldest, core_holding, self, if_true]
            rfl
          · by_cases gone : (!m.selfExited && m.isRemoved a now) = true
            · simp only [inOldest, Machine.inOldest, core_holding, noticed_holding, self, gone,
                if_true, if_false]
              exact congrArg some (conclude_handOver running (Or.inl oldest))
            · simp only [inOldest, Machine.inOldest, core_holding, noticed_holding, self, gone,
                if_false]
              exact congrArg some (yields (some a))
  | peer sender message =>
      cases message with
      | handOverToMe => exact congrArg some (conclude_handOver running (Or.inl oldest))
      | _ => rfl
  | unitTerminated u =>
      by_cases same : u = unit
      · simp only [inOldest, Machine.inOldest, same, if_true]
        exact congrArg some (conclude_stayUsing oldest.symm)
      · simp only [inOldest, Machine.inOldest, same, if_false]
        rfl
  | _ => rfl

theorem retryTakeOver_holding {unit : UnitId} {unitEnded : Bool} {newOldest : Option Address}
    {count : UInt32} (h : m.phase = .wasOldest unit unitEnded newOldest) :
    conclude now ((holding m []).retryTakeOver unit unitEnded newOldest now count) =
      .ofTurn (m.retryTakeOver unit unitEnded newOldest now count) := by
  have winds : conclude now ((holding m []).windDown unit unitEnded) =
      .ofTurn (m.windDown now unit unitEnded) :=
    conclude_windDown running (state_ne h (by simp [Phase.state]))
  unfold retryTakeOver Machine.retryTakeOver
  rw [core_holding]
  split
  · exact winds
  · split
    · exact conclude_askAgain
    · split
      · exact winds
      · exact conclude_fail

theorem inWasOldest_holding {unit : UnitId} {unitEnded : Bool} {newOldest : Option Address}
    (h : m.phase = .wasOldest unit unitEnded newOldest) :
    ((holding m []).inWasOldest unit unitEnded newOldest now e).map (conclude now) =
      (m.inWasOldest unit unitEnded newOldest now e).map .ofTurn := by
  have wasOldest : m.state = .wasOldest := congrArg Phase.state h
  cases e with
  | takeOverRetry count => exact congrArg some (retryTakeOver_holding running h)
  | peer sender message =>
      cases message with
      | handOverToMe => exact congrArg some (conclude_handOver running (Or.inr wasOldest))
      | _ => rfl
  | memberRemoved a =>
      by_cases exited : m.selfExited = true
      · simp only [inWasOldest, Machine.inWasOldest, core_holding, exited, if_true,
          Bool.true_eq_false, and_false, if_false]
        rfl
      · have present : m.selfExited = false := Bool.eq_false_iff.mpr exited
        simp only [inWasOldest, Machine.inWasOldest, core_holding, record_holding, present,
          and_true, Bool.false_eq_true, if_false]
        by_cases self : a = m.self
        · simp only [self, if_true]
          rfl
        · by_cases tracked : newOldest = some a
          · simp only [self, tracked, if_true, if_false]
            exact congrArg some (conclude_handOver running (Or.inr wasOldest))
          · simp only [self, tracked, if_false]
            rfl
  | unitTerminated u =>
      by_cases same : u = unit
      · simp only [inWasOldest, Machine.inWasOldest, same, if_true]
        exact congrArg some (conclude_stayUsing wasOldest.symm)
      · simp only [inWasOldest, Machine.inWasOldest, same, if_false]
        rfl
  | _ => rfl

theorem inHandingOver_holding {unit : UnitId} {target : Option Address}
    (h : m.phase = .handingOver unit target) :
    ((holding m []).inHandingOver unit target now e).map (conclude now) =
      (m.inHandingOver unit target now e).map .ofTurn := by
  cases e with
  | unitTerminated u =>
      by_cases same : u = unit
      · simp only [inHandingOver, Machine.inHandingOver, same, if_true]
        exact congrArg some (conclude_handOverDone running (state_ne h (by simp [Phase.state]))
          (state_ne h (by simp [Phase.state])))
      · simp only [inHandingOver, Machine.inHandingOver, same, if_false]
        rfl
  | peer sender message =>
      cases message with
      | handOverToMe =>
          by_cases asked : target = some sender
          · simp only [inHandingOver, Machine.inHandingOver, asked, if_true]
            rfl
          · simp only [inHandingOver, Machine.inHandingOver, asked, if_false]
            rfl
      | _ => rfl
  | _ => rfl

omit running in
theorem inStopping_holding {unit : UnitId} :
    ((holding m []).inStopping unit e).map (conclude now) =
      (m.inStopping unit e).map .ofTurn := by
  cases e with
  | unitTerminated u =>
      by_cases same : u = unit
      · simp only [inStopping, Machine.inStopping, same, if_true]
        rfl
      · simp only [inStopping, Machine.inStopping, same, if_false]
        rfl
  | _ => rfl

omit running in
theorem inEnded_holding :
    ((holding m []).inEnded e).map (conclude now) = (m.inEnded e).map .ofTurn := by
  cases e with
  | memberRemoved a =>
      by_cases self : a = m.self
      · simp only [inEnded, Machine.inEnded, core_holding, self, if_true]
        rfl
      · simp only [inEnded, Machine.inEnded, core_holding, self, if_false]
        rfl
  | _ => rfl

omit running in
theorem fallback_holding :
    conclude now ((holding m []).fallback now e) = .ofTurn (m.fallback now e) := by
  cases e with
  | memberExited a =>
      by_cases self : a = m.self
      · simp only [fallback, Machine.fallback, core_holding, self, if_true]
        rfl
      · simp only [fallback, Machine.fallback, core_holding, self, if_false]
        rfl
  | memberRemoved a =>
      by_cases self : a = m.self ∧ m.selfExited = false
      · simp only [fallback, Machine.fallback, core_holding, self, and_self, if_true]
        rfl
      · simp only [fallback, Machine.fallback, core_holding, self, if_false]
        rfl
  | _ => rfl

/-- The handler of the state always finds its data. -/
theorem inState_holding :
    ((holding m []).inState now fresh e).map (conclude now) =
      (m.inPhase now fresh e).map .ofTurn := by
  -- with the phase written out, both sides pick the handler that goes with it
  rcases m with ⟨self, limits, interval, margin, phase, removed, notice, exited, cluster, done⟩
  cases phase with
  | start => exact inStart_holding running rfl
  | younger oldest => exact inYounger_holding running rfl
  | becomingOldest previous => exact inBecomingOldest_holding running rfl
  | oldest unit unitEnded => exact inOldest_holding running rfl
  | wasOldest unit unitEnded newOldest => exact inWasOldest_holding running rfl
  | handingOver unit target => exact inHandingOver_holding running rfl
  | stopping unit => exact inStopping_holding
  | ended => exact inEnded_holding

end Handlers

/-- **State and data keep together.** From where a machine stands, with state and data apart, an
event gets the answer of the machine, and leads to where the machine stands then. -/
theorem handle_ofMachine (m : Machine) (now : Nat) (fresh : UnitId) (e : Event) :
    (ofMachine m).handle now fresh e = .ofTurn (m.handle now fresh e) := by
  cases done : m.terminated with
  | true =>
      rw [Machine.handle_terminated done, handle, ofMachine, core_holding, if_pos done]
      rfl
  | false =>
      have answer : ((holding m []).inState now fresh e).map (conclude now) =
          (m.inPhase now fresh e).map .ofTurn := inState_holding done
      rw [handle, ofMachine, core_holding, Machine.handle, done, if_neg Bool.false_ne_true,
        if_neg Bool.false_ne_true]
      cases known : (holding m []).inState now fresh e with
      | some decision =>
          rw [known] at answer
          obtain ⟨t, ht, same⟩ := Option.map_eq_some_iff.mp answer.symm
          rw [ht]
          exact same.symm
      | none =>
          rw [known] at answer
          rw [Option.map_eq_none_iff.mp answer.symm]
          exact fallback_holding

/-! ## Whole runs -/

theorem handle_terminated {s : SplitMachine} (done : s.core.terminated = true) (e : Event) :
    s.handle now fresh e = ⟨s, [], .stopped⟩ := by
  rw [handle, if_pos done]

theorem run_terminated {s : SplitMachine} (done : s.core.terminated = true) (xs : List Input) :
    s.run xs = s := by
  induction xs with
  | nil => rfl
  | cons x xs ih =>
      rw [run, List.foldl_cons, handle_terminated done]
      exact ih

/-- **A machine with state and data apart goes through the machines of a run.** -/
theorem run_ofProfile (p : Profile) (xs : List Input) :
    (ofProfile p).run xs = ofMachine (p.machine.run xs) := by
  induction xs using List.reverseRecOn with
  | nil => rfl
  | append_singleton xs x ih =>
      rw [run, List.foldl_append, Machine.run_snoc]
      show ((((ofProfile p).run xs).handle x.now x.fresh x.event).machine) = _
      rw [ih, handle_ofMachine]
      rfl

end SplitMachine

end ClusterSingleton
