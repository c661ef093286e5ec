import Mathlib.Data.List.Basic
import ClusterSingleton.Proofs.Machine.History
import ClusterSingleton.Proofs.Units.Turns

/-!
# The account of a history

The account of a history is what it says of the unit that was started last: whether it was told to
end, whether its end was reported, and whether it was handed over. `accounts_agree` ties it to the
phase of the machine; from there every claim on the order of unit work is read off one step.
-/

namespace ClusterSingleton

namespace Entry

/-- The units that the step starts. -/
def started (e : Entry) : List UnitId :=
  e.effects.filterMap fun
    | .startUnit u => some u
    | _ => none

def starts (e : Entry) (u : UnitId) : Prop := .startUnit u ∈ e.effects

/-- The step tells the unit to end. -/
def tells (e : Entry) (u : UnitId) : Prop := .terminateUnit u ∈ e.effects

/-- The step handles the end of the unit. -/
def reports (e : Entry) (u : UnitId) : Prop := e.event = .unitTerminated u

def sends (e : Entry) (message : Message) : Prop := message ∈ e.messages

instance (e : Entry) (u : UnitId) : Decidable (e.starts u) :=
  inferInstanceAs (Decidable (_ ∈ e.effects))

instance (e : Entry) (u : UnitId) : Decidable (e.tells u) :=
  inferInstanceAs (Decidable (_ ∈ e.effects))

instance (e : Entry) (u : UnitId) : Decidable (e.reports u) :=
  inferInstanceAs (Decidable (e.event = _))

instance (e : Entry) (message : Message) : Decidable (e.sends message) :=
  inferInstanceAs (Decidable (message ∈ e.messages))

theorem mem_started {e : Entry} {u : UnitId} : u ∈ e.started ↔ e.starts u := by
  unfold started starts
  rw [List.mem_filterMap]
  constructor
  · rintro ⟨x, hx, hu⟩
    cases x with
    | startUnit v =>
        obtain rfl := Option.some.inj hu
        exact hx
    | _ => cases hu
  · intro h
    exact ⟨_, h, rfl⟩

end Entry

/-- What the step of a running machine does with the unit. -/
theorem Entry.unitTurn (e : Entry) (running : e.before.terminated = false) :
    Machine.UnitTurn e.before e.fresh e.event e.turn :=
  Machine.handle_unitTurn running e.event

/-- Whoever starts a unit has grounds to. -/
theorem Entry.grounds_of_starts {e : Entry} {u : UnitId} (start : e.starts u) :
    ∃ m, Machine.Grounds e.before e.now e.event m := by
  have mem : .startUnit u ∈ e.turn.unitWork := List.mem_filter.mpr ⟨start, rfl⟩
  cases running : e.before.terminated with
  | true =>
      rw [Entry.turn_terminated running] at mem
      cases mem
  | false =>
      cases e.unitTurn running with
      | starts free _ hosts => exact (e.row running).grounds free hosts
      | keeps work | reports _ _ work | promises _ _ work => simp [work] at mem
      | tells _ _ work | releases _ work =>
          rcases work with work | ⟨a, work⟩ <;> simp [work] at mem

/-- What a history says of the unit that was started last. -/
structure Account : Type where
  unit : UnitId
  told : Bool
  reported : Bool
  handedOver : Bool
deriving DecidableEq, Repr

namespace Account

/-- The account after one more step. -/
def next (a : Option Account) (e : Entry) : Option Account :=
  match e.started with
  | u :: _ => some ⟨u, false, false, false⟩
  | [] => a.map fun a =>
      { a with
        told := a.told || decide (e.tells a.unit)
        reported := a.reported || decide (e.reports a.unit)
        handedOver := a.handedOver || decide (e.sends .handOverDone) }

def ofHistory (log : List Entry) : Option Account := log.foldl next none

theorem ofHistory_snoc (log : List Entry) (e : Entry) :
    ofHistory (log ++ [e]) = next (ofHistory log) e := List.foldl_concat ..

/-- The account says what the phase of a running machine says. -/
structure Agrees (m : Machine) (a : Option Account) : Prop where
  /-- A machine that holds nothing has no unit whose end it waits for. -/
  nothing : m.terminated = false → m.phase.hold = .nothing → ∀ x, a = some x → x.reported = true
  hosted : m.terminated = false → ∀ u ended, m.phase.hold = .hosted u ended →
    a = some ⟨u, false, ended, false⟩
  told : m.terminated = false → ∀ u, m.phase.hold = .told u → a = some ⟨u, true, false, false⟩
  /-- No unit is handed over before its end was reported. -/
  handedOver : ∀ x, a = some x → x.handedOver = true → x.reported = true

/-! ## What unit work says of a step -/

section Work

variable {e : Entry} {work : List Effect}

theorem started_of_work (h : e.turn.unitWork = work) :
    e.started = work.filterMap fun
      | .startUnit u => some u
      | _ => none := by
  rw [← h, Turn.unitWork, List.filterMap_filter]
  unfold Entry.started Entry.effects
  congr 1
  funext x
  cases x with
  | startUnit u => rfl
  | _ => simp

theorem tells_of_work (h : e.turn.unitWork = work) (u : UnitId) :
    e.tells u ↔ .terminateUnit u ∈ work := by
  rw [← h, Turn.unitWork, List.mem_filter]
  exact ⟨fun hm => ⟨hm, rfl⟩, And.left⟩

theorem messages_of_work (h : e.turn.unitWork = work) {message : Message}
    (hm : message = .handOverInProgress ∨ message = .handOverDone) :
    e.messages.count message =
      work.countP fun
        | .send _ other => other == message
        | _ => false := by
  rw [← h, Turn.unitWork, List.countP_filter]
  unfold Entry.messages Entry.effects
  rw [List.count_filterMap]
  congr 1
  funext x
  cases x with
  | send a other => cases other <;> rcases hm with rfl | rfl <;> rfl
  | _ => rfl

/-- The account after a step that starts nothing. -/
theorem next_of_started_nil (h : e.started = []) (x : Account) :
    next (some x) e = some
      { x with
        told := x.told || decide (e.tells x.unit)
        reported := x.reported || decide (e.reports x.unit)
        handedOver := x.handedOver || decide (e.sends .handOverDone) } := by
  rw [next, h]
  rfl

theorem next_none_of_started_nil (h : e.started = []) : next none e = none := by
  rw [next, h]
  rfl

theorem sends_of_work (h : e.turn.unitWork = work) {message : Message}
    (hm : message = .handOverInProgress ∨ message = .handOverDone) :
    e.sends message ↔ ∃ a, .send a message ∈ work := by
  unfold Entry.sends
  rw [← List.count_pos_iff, messages_of_work h hm, List.countP_pos_iff]
  constructor
  · rintro ⟨x, hx, hp⟩
    cases x with
    | send a other =>
        obtain rfl := beq_iff_eq.mp hp
        exact ⟨a, hx⟩
    | _ => cases hp
  · rintro ⟨a, ha⟩
    exact ⟨_, ha, beq_self_eq_true message⟩

theorem next_of_noWork (h : e.turn.unitWork = []) (x : Account) :
    next (some x) e = some { x with reported := x.reported || decide (e.reports x.unit) } := by
  have tells : ¬ e.tells x.unit := by rw [tells_of_work h]; simp
  have sends : ¬ e.sends .handOverDone := by rw [sends_of_work h (Or.inr rfl)]; simp
  rw [next_of_started_nil (started_of_work h)]
  simp [tells, sends]

theorem next_of_start {u : UnitId} (h : e.turn.unitWork = [.startUnit u]) (a : Option Account) :
    next a e = some ⟨u, false, false, false⟩ := by
  rw [next, started_of_work h]
  rfl

end Work

/-! ## The account and the phase -/

/-- What is left of an agreement when a machine is done. -/
theorem Agrees.of_terminated {m : Machine} {a : Option Account} (done : m.terminated = true)
    (h : ∀ x, a = some x → x.handedOver = true → x.reported = true) : Agrees m a where
  nothing running := by rw [done] at running; cases running
  hosted running := by rw [done] at running; cases running
  told running := by rw [done] at running; cases running
  handedOver := h

theorem Agrees.of_nothing {m : Machine} {a : Option Account} (free : m.phase.hold = .nothing)
    (h : ∀ x, a = some x → x.reported = true) : Agrees m a where
  nothing _ _ := h
  hosted _ u ended held := by rw [free] at held; cases held
  told _ u held := by rw [free] at held; cases held
  handedOver x hx _ := h x hx

theorem Agrees.of_hosted {m : Machine} {u : UnitId} {ended : Bool}
    (held : m.phase.hold = .hosted u ended) : Agrees m (some ⟨u, false, ended, false⟩) where
  nothing _ free := by rw [held] at free; cases free
  hosted _ v b h := by
    rw [held] at h
    cases h
    rfl
  told _ v h := by rw [held] at h; cases h
  handedOver x hx gone := by
    cases hx
    cases gone

theorem Agrees.of_told {m : Machine} {u : UnitId} (held : m.phase.hold = .told u) :
    Agrees m (some ⟨u, true, false, false⟩) where
  nothing _ free := by rw [held] at free; cases free
  hosted _ v b h := by rw [held] at h; cases h
  told _ v h := by
    rw [held] at h
    cases h
    rfl
  handedOver x hx gone := by
    cases hx
    cases gone

/-- A step without unit work that reports no end of a unit that is held keeps the agreement. -/
theorem agrees_keep {e : Entry} {a : Option Account} (h : Agrees e.before a)
    (running : e.before.terminated = false) (work : e.turn.unitWork = [])
    (same : e.after.phase.hold = e.before.phase.hold)
    (silent : ∀ u b, e.before.phase.hold = .hosted u b ∨ e.before.phase.hold = .told u →
      ¬ e.reports u) : Agrees e.after (next a e) := by
  cases held : e.before.phase.hold with
  | nothing =>
      refine .of_nothing (same.trans held) ?_
      intro y hy
      cases a with
      | none =>
          rw [next_none_of_started_nil (started_of_work work)] at hy
          cases hy
      | some x =>
          rw [next_of_noWork work] at hy
          obtain rfl := Option.some.inj hy
          simp [h.nothing running held x rfl]
  | hosted u b =>
      rw [h.hosted running u b held, next_of_noWork work]
      have quiet : decide (e.reports u) = false := decide_eq_false (silent u b (Or.inl held))
      simp only [quiet, Bool.or_false]
      exact .of_hosted (same.trans held)
  | told u =>
      rw [h.told running u held, next_of_noWork work]
      have quiet : decide (e.reports u) = false := decide_eq_false (silent u false (Or.inr held))
      simp only [quiet, Bool.or_false]
      exact .of_told (same.trans held)

/-- A step that tells the unit to end starts nothing and hands nothing over. -/
theorem next_of_tell {e : Entry} {u : UnitId}
    (work : e.turn.unitWork = [.terminateUnit u] ∨
      ∃ b, e.turn.unitWork = [.send b .handOverInProgress, .terminateUnit u])
    (event : ¬ e.reports u) :
    next (some ⟨u, false, false, false⟩) e = some ⟨u, true, false, false⟩ := by
  have started : e.started = [] := by
    rcases work with work | ⟨b, work⟩ <;> rw [started_of_work work] <;> rfl
  have tells : e.tells u := by
    rcases work with work | ⟨b, work⟩ <;> rw [tells_of_work work] <;> simp
  have sends : ¬ e.sends .handOverDone := by
    rcases work with work | ⟨b, work⟩ <;> rw [sends_of_work work (Or.inr rfl)] <;> simp
  rw [next_of_started_nil started]
  simp [tells, sends, event]

theorem next_of_promise {e : Entry} {u : UnitId} {b : Address}
    (work : e.turn.unitWork = [.send b .handOverInProgress]) (event : ¬ e.reports u) :
    next (some ⟨u, true, false, false⟩) e = some ⟨u, true, false, false⟩ := by
  have sends : ¬ e.sends .handOverDone := by rw [sends_of_work work (Or.inr rfl)]; simp
  rw [next_of_started_nil (started_of_work work)]
  simp [sends, event]

/-- What a unit that is released was: its end is reported at the latest in this step. -/
theorem released_account {e : Entry} {a : Option Account} {u : UnitId} (h : Agrees e.before a)
    (running : e.before.terminated = false)
    (held : e.before.phase.hold = .hosted u true ∨
      e.before.phase.hold = .told u ∧ e.event = .unitTerminated u) :
    ∃ x, a = some x ∧ x.unit = u ∧ x.handedOver = false ∧ (x.reported = true ∨ e.reports u) := by
  rcases held with held | ⟨held, event⟩
  · exact ⟨_, h.hosted running u true held, rfl, rfl, Or.inl rfl⟩
  · exact ⟨_, h.told running u held, rfl, rfl, Or.inr event⟩

theorem started_of_release {e : Entry}
    (work : e.turn.unitWork = [] ∨ ∃ b, e.turn.unitWork = [.send b .handOverDone]) :
    e.started = [] := by
  rcases work with work | ⟨b, work⟩ <;> rw [started_of_work work] <;> rfl

/-- **The agreement is kept by every step**, whatever the event. -/
theorem agrees_next {e : Entry} {a : Option Account} (h : Agrees e.before a) :
    Agrees e.after (next a e) := by
  cases running : e.before.terminated with
  | true =>
      have turn := Entry.turn_terminated running
      have work : e.turn.unitWork = [] := by rw [turn]; rfl
      have done : e.after.terminated = true := by rw [Entry.after, turn]; exact running
      refine .of_terminated done ?_
      intro y hy gone
      cases a with
      | none =>
          rw [next_none_of_started_nil (started_of_work work)] at hy
          cases hy
      | some x =>
          rw [next_of_noWork work] at hy
          obtain rfl := Option.some.inj hy
          simp [h.handedOver x rfl gone]
  | false =>
      cases e.unitTurn running with
      | keeps work same silent => exact agrees_keep h running work same silent
      | starts free work hosts =>
          rw [next_of_start work]
          exact .of_hosted hosts
      | @reports u b held event work hosts =>
          have event : decide (e.reports u) = true := decide_eq_true event
          rw [h.hosted running u b held, next_of_noWork work]
          simp only [event, Bool.or_true]
          exact .of_hosted hosts
      | tells held event work told =>
          rw [h.hosted running _ _ held, next_of_tell work event]
          exact .of_told told
      | promises held event work told =>
          rw [h.told running _ held, next_of_promise work event]
          exact .of_told told
      | @releases u held work rid =>
          obtain ⟨x, rfl, rfl, -, ended⟩ := released_account h running held
          have reported : (x.reported || decide (e.reports x.unit)) = true := by
            simpa using ended
          rw [next_of_started_nil (started_of_release work), reported]
          rcases rid with free | done
          · refine .of_nothing free ?_
            rintro y ⟨⟩
            rfl
          · refine .of_terminated done ?_
            rintro y ⟨⟩ -
            rfl

/-- The unit work of a step, against the account of what came before it. -/
inductive WorkOf (a : Option Account) (e : Entry) : Prop where
  | nothing (work : e.turn.unitWork = [])
  | starts {u : UnitId} (work : e.turn.unitWork = [.startUnit u])
      (ended : ∀ x, a = some x → x.reported = true)
  | tells {u : UnitId}
      (work : e.turn.unitWork = [.terminateUnit u] ∨
        ∃ b, e.turn.unitWork = [.send b .handOverInProgress, .terminateUnit u])
      (current : a = some ⟨u, false, false, false⟩) (silent : ¬ e.reports u)
  | promises {u : UnitId} {b : Address} (work : e.turn.unitWork = [.send b .handOverInProgress])
      (current : a = some ⟨u, true, false, false⟩) (silent : ¬ e.reports u)
  | handsOver {x : Account} {b : Address} (work : e.turn.unitWork = [.send b .handOverDone])
      (current : a = some x) (first : x.handedOver = false)
      (ended : x.reported = true ∨ e.reports x.unit)

/-- **Unit work follows the account**: each kind of it has its place in the life of the unit. -/
theorem workOf {e : Entry} {a : Option Account} (h : Agrees e.before a) : WorkOf a e := by
  cases running : e.before.terminated with
  | true => exact .nothing (by rw [Entry.turn_terminated running]; rfl)
  | false =>
      cases e.unitTurn running with
      | keeps work => exact .nothing work
      | starts free work => exact .starts work (h.nothing running free)
      | reports held event work => exact .nothing work
      | tells held event work => exact .tells work (h.hosted running _ _ held) event
      | promises held event work => exact .promises work (h.told running _ held) event
      | releases held work =>
          rcases work with work | ⟨b, work⟩
          · exact .nothing work
          · obtain ⟨x, current, rfl, first, ended⟩ := released_account h running held
            exact .handsOver work current first ended

/-- **The account of a history agrees with the phase that the history leads to.** -/
theorem accounts_agree (p : Profile) (xs : List Input) :
    Agrees (p.machine.run xs) (ofHistory (p.machine.history xs)) := by
  induction xs using List.reverseRecOn with
  | nil => exact .of_nothing rfl (by rintro x ⟨⟩)
  | append_singleton xs x ih =>
      rw [Machine.run_snoc, Machine.history_snoc, ofHistory_snoc]
      exact agrees_next (e := ⟨x, p.machine.run xs⟩) ih

end Account

end ClusterSingleton
