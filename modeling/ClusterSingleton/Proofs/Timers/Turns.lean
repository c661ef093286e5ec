import ClusterSingleton.Proofs.Machine.History

/-!
# What a turn does with the timers

Two states ask again under a timer of their own, and no other state has one. `Machine.TimerTurn`
sorts the turns of a machine by what they start and cancel; `handle_timerTurn` says that a timer is
started on the way into its state, started again when it runs out there, and cancelled on the way out
or at a promise, and that nothing else touches a timer.
-/

namespace ClusterSingleton

/-- The timer that delivers the event, if the event asks for a retry. -/
def Event.retryKey? : Event → Option TimerKey
  | handOverRetry _ => some .handOverRetry
  | takeOverRetry _ => some .takeOverRetry
  | _ => none

theorem TimerKey.retryKey?_fire {key : TimerKey} {count : UInt32} (retries : key ≠ .cleanup) :
    (key.fire count).retryKey? = some key := by
  cases key with
  | cleanup => exact absurd rfl retries
  | _ => rfl

theorem Event.fire_of_retryKey? {e : Event} {key : TimerKey} (h : e.retryKey? = some key) :
    ∃ count, e = key.fire count := by
  cases e with
  | handOverRetry count =>
      obtain rfl := Option.some.inj h
      exact ⟨count, rfl⟩
  | takeOverRetry count =>
      obtain rfl := Option.some.inj h
      exact ⟨count, rfl⟩
  | _ => cases h

/-- The timer under which a state asks again. -/
def State.timer? : State → Option TimerKey
  | becomingOldest => some .handOverRetry
  | wasOldest => some .takeOverRetry
  | _ => none

/-- How often a timer asks for a retry before its machine gives up. -/
def RetryLimits.limit (limits : RetryLimits) : TimerKey → UInt32
  | .handOverRetry => limits.handOver
  | .takeOverRetry => limits.takeOver
  | .cleanup => 0

def Effect.isTimerWork : Effect → Bool
  | startTimer _ _ _ => true
  | cancelTimer _ => true
  | _ => false

def Turn.timerWork (t : Turn) : List Effect := t.effects.filter Effect.isTimerWork

namespace Machine

/-- What a turn of a running machine does with the timers. -/
inductive TimerTurn (m : Machine) (e : Event) (t : Turn) : Prop where
  | keeps (work : t.timerWork = []) (same : t.machine.state.timer? = m.state.timer?)
      (deaf : ∀ k c, m.state.timer? = some k → e = k.fire c → t.machine.terminated = true)
      (calm : m.state = .becomingOldest → ∀ a, e ≠ .peer a .handOverInProgress)
  | enters {k : TimerKey} (before : m.state.timer? = none) (after : t.machine.state.timer? = some k)
      (work : t.timerWork = [.startTimer k (k.fire 1) m.retryInterval])
  | retries {k : TimerKey} {c : UInt32} (before : m.state.timer? = some k) (event : e = k.fire c)
      (within : c ≤ m.limits.limit k) (fits : c.toNat < RetryLimits.bound) (same : t.machine = m)
      (work : t.timerWork = [.startTimer k (k.fire (c + 1)) m.retryInterval])
  | promised {a : Address} (before : m.state = .becomingOldest)
      (event : e = .peer a .handOverInProgress) (same : t.machine = m)
      (work : t.timerWork = [.cancelTimer .handOverRetry])
  | leaves {k : TimerKey} (before : m.state.timer? = some k) (after : t.machine.state.timer? = none)
      (work : t.timerWork = [.cancelTimer k])

variable {m : Machine} {now : Nat} {fresh : UnitId} {e : Event}

/-! ## Timer work of the moves -/

theorem timerWork_eq {t : Turn} {effects : List Effect} (h : t.effects = effects) :
    t.timerWork = effects.filter Effect.isTimerWork := by
  rw [Turn.timerWork, h]

theorem request_noTimer : m.request.filter Effect.isTimerWork = [] := by
  unfold request
  split <;> rfl

theorem leave_timer (s : State) : (leave s).filter Effect.isTimerWork = leave s := by
  cases s <;> rfl

theorem sendTo_noTimer {target : Option Address} {message : Message} :
    (sendTo target message).filter Effect.isTimerWork = [] := by
  cases target <;> rfl

/-- On the way into another phase than `becomingOldest` nothing is started but what is asked for. -/
theorem enter_timerWork {p : Phase} {effects : List Effect}
    (other : p.state ≠ .becomingOldest) :
    (m.enter now p effects).timerWork = effects.filter Effect.isTimerWork ++ leave m.state := by
  have arriving : (m.arrival p).filter Effect.isTimerWork = [] := by
    cases p with
    | becomingOldest previous => exact absurd rfl other
    | younger oldest => exact request_noTimer
    | oldest unit unitEnded => exact request_noTimer
    | _ => rfl
  rw [timerWork_eq enter_effects, List.filter_append, List.filter_append, leave_timer, arriving,
    List.append_nil]

theorem leave_of_none (h : m.state.timer? = none) : leave m.state = [] := by
  cases hs : m.state <;> simp [hs, leave, State.timer?] at h ⊢

theorem leave_of_some {k : TimerKey} (h : m.state.timer? = some k) :
    leave m.state = [.cancelTimer k] := by
  cases hs : m.state <;> simp [hs, leave, State.timer?] at h ⊢
  · exact h
  · exact h

/-! ## Timer turns of the moves -/

namespace TimerTurn

/-- A turn without timer work that stays in its state, on an event that is no timer's. -/
theorem of_same {t : Turn} (work : t.timerWork = []) (same : t.machine.state = m.state)
    (event : ∀ (k : TimerKey) c, e ≠ k.fire c) (calm : ∀ a, e ≠ .peer a .handOverInProgress) :
    TimerTurn m e t :=
  .keeps work (congrArg State.timer? same)
    (fun k c _ fire => absurd fire (event k c)) (fun _ => calm)

/-- A turn without timer work between two states that have no timer. -/
theorem of_none {t : Turn} (work : t.timerWork = []) (before : m.state.timer? = none)
    (after : t.machine.state.timer? = none) : TimerTurn m e t := by
  refine .keeps work (after.trans before.symm) ?_ ?_
  · intro k c place
    rw [before] at place
    cases place
  · intro place
    rw [place] at before
    cases before

/-- A machine that is done with its timer stops, without another word to it. -/
theorem of_stop {t : Turn} (work : t.timerWork = []) (same : t.machine.state = m.state)
    (done : t.machine.terminated = true) (calm : ∀ a, e ≠ .peer a .handOverInProgress) :
    TimerTurn m e t :=
  .keeps work (congrArg State.timer? same) (fun _ _ _ _ => done) (fun _ => calm)

/-- Into a phase without a timer: the timer of the phase before is cancelled, if it had one. -/
theorem of_enter {m' : Machine} {p : Phase} {effects : List Effect} (same : m'.phase = m.phase)
    (silent : effects.filter Effect.isTimerWork = []) (after : p.state.timer? = none) :
    TimerTurn m e (m'.enter now p effects) := by
  have place : m'.state = m.state := congrArg Phase.state same
  have other : p.state ≠ .becomingOldest := by
    intro becoming
    rw [becoming] at after
    cases after
  have work : (m'.enter now p effects).timerWork =
      effects.filter Effect.isTimerWork ++ leave m'.state := enter_timerWork other
  have there : (m'.enter now p effects).machine.state.timer? = none := by
    rw [enter_machine]
    exact after
  rw [silent, List.nil_append, place] at work
  cases before : m.state.timer? with
  | none => exact .of_none (work.trans (leave_of_none before)) before there
  | some k => exact .leaves before there (work.trans (leave_of_some before))

theorem of_departure {m' : Machine} {t : Turn} (h : Departure m' now t) (same : m'.phase = m.phase)
    (calm : ∀ a, e ≠ .peer a .handOverInProgress) : TimerTurn m e t := by
  have silent {effects : List Effect} (parting : ∀ x ∈ effects, x.isParting = true) :
      effects.filter Effect.isTimerWork = [] := by
    refine List.filter_eq_nil_iff.mpr fun x mem work => ?_
    have parts := parting x mem
    cases x with
    | send target message => cases work
    | terminateUnit unit => cases work
    | _ => cases parts
  cases h with
  | stops parting => exact .of_stop (silent parting) (congrArg Phase.state same) rfl calm
  | @moves p effects place parting =>
      have quiet : p.state.timer? = none := by
        cases p <;> first | rfl | simp [Phase.state] at place
      exact .of_enter same (silent parting) quiet

end TimerTurn

/-! ## Timer turns of the rows -/

theorem phase_of_becomingOldest (place : m.state = .becomingOldest) :
    ∃ previous, m.phase = .becomingOldest previous := by
  cases hp : m.phase with
  | becomingOldest previous => exact ⟨previous, rfl⟩
  | _ => simp [state, hp, Phase.state] at place

theorem phase_of_wasOldest (place : m.state = .wasOldest) :
    ∃ unit unitEnded newOldest, m.phase = .wasOldest unit unitEnded newOldest := by
  cases hp : m.phase with
  | wasOldest unit unitEnded newOldest => exact ⟨unit, unitEnded, newOldest, rfl⟩
  | _ => simp [state, hp, Phase.state] at place

/-- Which state a timer belongs to. -/
theorem timer_cases {s : State} {k : TimerKey} (place : s.timer? = some k) :
    s = .becomingOldest ∧ k = .handOverRetry ∨ s = .wasOldest ∧ k = .takeOverRetry := by
  cases s with
  | becomingOldest => exact Or.inl ⟨rfl, (Option.some.inj place).symm⟩
  | wasOldest => exact Or.inr ⟨rfl, (Option.some.inj place).symm⟩
  | _ => cases place

/-- A timer that runs out in its state is never ignored. -/
theorem inPhase_fire {k : TimerKey} (c : UInt32) (place : m.state.timer? = some k) :
    m.inPhase now fresh (k.fire c) ≠ none := by
  unfold inPhase
  rcases timer_cases place with ⟨becoming, rfl⟩ | ⟨was, rfl⟩
  · obtain ⟨previous, hp⟩ := phase_of_becomingOldest becoming
    rw [hp]
    exact Option.some_ne_none _
  · obtain ⟨unit, unitEnded, newOldest, hp⟩ := phase_of_wasOldest was
    rw [hp]
    exact Option.some_ne_none _

theorem inPhase_promise {a : Address} (place : m.state = .becomingOldest) :
    m.inPhase now fresh (.peer a .handOverInProgress) ≠ none := by
  obtain ⟨previous, hp⟩ := phase_of_becomingOldest place
  unfold inPhase
  rw [hp]
  exact Option.some_ne_none _

/-- **Every turn of a running machine is one of the five kinds.** -/
theorem Row.timerTurn {t : Turn} (row : Row m now fresh e t) : TimerTurn m e t := by
  cases row with
  | hosts grounds => exact .of_enter grounds.phase rfl rfl
  | handsOver reason => exact .of_departure (handOver_departs ..) reason.phase (by cases reason <;> rintro _ ⟨⟩)
  | completes => exact .of_departure (handOverDone_departs _) rfl (by rintro _ ⟨⟩)
  | endsQuietly | findsNobody => exact .of_departure (windDown_departs ..) rfl (by rintro _ ⟨⟩)
  | waitsFromStart => exact .of_enter rfl rfl rfl
  | unsafeFromStart h =>
      have place : m.state.timer? = none := by rw [state, h]; rfl
      refine .enters (k := .handOverRetry) place (by rw [enter_machine]; rfl) ?_
      rw [timerWork_eq enter_effects, leave_of_none (m := m.noticed) place]
      rfl
  | asksPrevious h =>
      have place : m.state.timer? = none := by rw [state, h]; rfl
      refine .enters (k := .handOverRetry) place (by rw [enter_machine]; rfl) ?_
      rw [timerWork_eq enter_effects, leave_of_none (m := m.noticed) place]
      rfl
  | yields h =>
      have place : m.state.timer? = none := by rw [state, h]; rfl
      refine .enters (k := .takeOverRetry) place (by rw [yieldTo, enter_machine]; rfl) ?_
      rw [yieldTo, enter_timerWork (by rintro ⟨⟩), leave_of_none (m := m.noticed) place,
        List.filter_append, sendTo_noTimer]
      rfl
  | retriesHandOver h within fits =>
      refine .retries (k := .handOverRetry) (by rw [state, h]; rfl) rfl within fits rfl ?_
      rw [timerWork_eq stay_effects, List.filter_append, sendTo_noTimer]
      rfl
  | retriesTakeOver h within fits =>
      refine .retries (k := .takeOverRetry) (by rw [state, h]; rfl) rfl within fits rfl ?_
      rw [timerWork_eq stay_effects, List.filter_append, sendTo_noTimer]
      rfl
  | isPromised h => exact .promised (by rw [state, h]; rfl) rfl rfl rfl
  | quitsHandOver | stuckHandOver | stuckTakeOver | overflowsHandOver | overflowsTakeOver =>
      exact .of_stop rfl rfl rfl (by rintro _ ⟨⟩)
  | ignores unheard =>
      refine .keeps ?_ ?_ ?_ ?_
      · rw [timerWork_eq fallback_effects]
        rfl
      · exact congrArg (fun p : Phase => p.state.timer?) fallback_frame.1
      · rintro k c place rfl
        exact absurd unheard (inPhase_fire c place)
      · rintro place a rfl
        exact absurd unheard (inPhase_promise place)
  | wakes =>
      refine .of_same ?_ rfl (by rintro (_ | _ | _) c ⟨⟩) (by rintro _ ⟨⟩)
      rw [timerWork_eq stay_effects, List.filter_cons, request_noTimer]
      rfl
  | adopts h | follows h | unitEndsAsOldest h | unitEndsAsWasOldest h | forgets h =>
      exact .of_same rfl (by rw [state, state, h]; rfl) (by rintro (_ | _ | _) c ⟨⟩) (by rintro _ ⟨⟩)
  | _ => exact .of_same rfl rfl (by rintro (_ | _ | _) c ⟨⟩) (by rintro _ ⟨⟩)

theorem handle_timerTurn (running : m.terminated = false) (e : Event) :
    TimerTurn m e (m.handle now fresh e) :=
  (handle_row running e).timerTurn

/-- The grounds on which a timer is started: the machine comes into the state of the timer, or answers
a retry there. -/
inductive TimerStart (m : Machine) (e : Event) (k : TimerKey) : Event → Prop where
  | first (before : m.state.timer? = none) : TimerStart m e k (k.fire 1)
  | next {c : UInt32} (before : m.state.timer? = some k) (event : e = k.fire c)
      (within : c ≤ m.limits.limit k) (fits : c.toNat < RetryLimits.bound) :
      TimerStart m e k (k.fire (c + 1))

/-- Whoever starts a timer is running and has grounds to. -/
theorem timerStart_of_mem {k : TimerKey} {event : Event} {after : Nat}
    (mem : .startTimer k event after ∈ (m.handle now fresh e).effects) :
    m.terminated = false ∧ after = m.retryInterval ∧ TimerStart m e k event := by
  have work : .startTimer k event after ∈ (m.handle now fresh e).timerWork :=
    List.mem_filter.mpr ⟨mem, rfl⟩
  cases done : m.terminated with
  | true =>
      rw [handle_terminated done] at mem
      cases mem
  | false =>
      have turn : TimerTurn m e (m.handle now fresh e) := handle_timerTurn done e
      refine ⟨rfl, ?_⟩
      cases turn with
      | keeps none | promised _ _ _ none | leaves _ _ none => simp [none] at work
      | enters before _ one =>
          rw [one, List.mem_singleton] at work
          obtain ⟨rfl, rfl, rfl⟩ := Effect.startTimer.inj work
          exact ⟨rfl, .first before⟩
      | retries before fires within fits _ one =>
          rw [one, List.mem_singleton] at work
          obtain ⟨rfl, rfl, rfl⟩ := Effect.startTimer.inj work
          exact ⟨rfl, .next before fires within fits⟩

end Machine

theorem Entry.timerTurn (e : Entry) (running : e.before.terminated = false) :
    Machine.TimerTurn e.before e.event e.turn :=
  Machine.handle_timerTurn running e.event

end ClusterSingleton
