import ClusterSingleton.Proofs.Machine.Answers

/-!
# What a turn does with the notifier

The notifier speaks when it was asked to. A machine remembers that it heard it until it asks again:
`Row.credit` says that what was heard is either answered by a request or remembered, and
`NoticeTurn` sorts the turns by where the memory stands afterwards.
-/

namespace ClusterSingleton

/-- The oldest member that a word of the notifier names; `none` for every other event. -/
def Event.named? : Event → Option (Option Address)
  | initialOldest oldest _ => some oldest
  | oldestChanged oldest => some oldest
  | _ => none

/-- Whether the event is a word of the notifier. -/
def Event.isNotice (e : Event) : Bool := e.named?.isSome

/-- How often the turn asks for the next word of the notifier. -/
def Turn.requests (t : Turn) : Nat := t.effects.count .requestNextOldest

/-- The requests of the turn, and the one that the machine still owes. -/
def Turn.credit (t : Turn) : Nat := t.requests + t.machine.noticeReceived.toNat

namespace Machine

/-- Whether the machine takes note of a word of the notifier. Elsewhere the word is lost. -/
def hears (m : Machine) (e : Event) : Bool :=
  !m.terminated &&
    match m.phase, e with
    | .start, .initialOldest _ _ => true
    | .younger _, .oldestChanged _ => true
    | .oldest _ _, .oldestChanged _ => true
    | _, _ => false

variable {m : Machine} {now : Nat} {fresh : UnitId} {e : Event}

theorem hears_terminated (done : m.terminated = true) : m.hears e = false := by
  unfold hears
  rw [done, Bool.not_true, Bool.false_and]

theorem hears_of_unnamed (h : e.named? = none) : m.hears e = false := by
  unfold hears
  cases e with
  | initialOldest oldest safe => cases h
  | oldestChanged oldest => cases h
  | _ => simp

/-- Where the notifier is heard: the first word in `start`, the others in `younger` and `oldest`. -/
theorem hears_cases (h : m.hears e = true) :
    (m.phase = .start ∧ ∃ oldest safe, e = .initialOldest oldest safe) ∨
      (∃ oldest new, m.phase = .younger oldest ∧ e = .oldestChanged new) ∨
      ∃ unit unitEnded new, m.phase = .oldest unit unitEnded ∧ e = .oldestChanged new := by
  unfold hears at h
  obtain ⟨-, h⟩ := Bool.and_eq_true_iff.mp h
  cases hp : m.phase with
  | start =>
      cases e with
      | initialOldest oldest safe => exact Or.inl ⟨rfl, oldest, safe, rfl⟩
      | _ => simp [hp] at h
  | younger oldest =>
      cases e with
      | oldestChanged new => exact Or.inr (Or.inl ⟨oldest, new, rfl, rfl⟩)
      | _ => simp [hp] at h
  | oldest unit unitEnded =>
      cases e with
      | oldestChanged new => exact Or.inr (Or.inr ⟨unit, unitEnded, new, rfl, rfl⟩)
      | _ => simp [hp] at h
  | _ => simp [hp] at h

/-- The oldest hears of every change. -/
theorem hears_of_oldest {new : Option Address} (running : m.terminated = false)
    (place : m.state = .oldest) : m.hears (.oldestChanged new) = true := by
  unfold hears
  rw [running, Bool.not_false, Bool.true_and]
  cases hp : m.phase with
  | oldest unit unitEnded => rfl
  | _ => simp [state, hp, Phase.state] at place

/-- A word that is heard is never ignored. -/
theorem inPhase_heard (h : m.hears e = true) : m.inPhase now fresh e ≠ none := by
  unfold inPhase
  rcases hears_cases h with ⟨hp, oldest, safe, rfl⟩ | ⟨oldest, new, hp, rfl⟩ |
    ⟨unit, unitEnded, new, hp, rfl⟩
  · simp only [hp, inStart]
    split
    · cases safe <;> exact Option.some_ne_none _
    · exact Option.some_ne_none _
  · simp only [hp, inYounger]
    split
    · cases oldest with
      | none => exact Option.some_ne_none _
      | some a =>
          dsimp only
          split <;> exact Option.some_ne_none _
    · exact Option.some_ne_none _
  · cases new with
    | none => simp [hp, inOldest]
    | some a =>
        simp only [hp, inOldest]
        split
        · exact Option.some_ne_none _
        · split <;> exact Option.some_ne_none _

/-! ## Credit of the moves -/

theorem request_count : m.request.count .requestNextOldest = m.noticeReceived.toNat := by
  unfold request
  cases m.noticeReceived <;> rfl

theorem leave_count (s : State) : (leave s).count .requestNextOldest = 0 := by
  cases s <;> rfl

theorem sendTo_count {target : Option Address} {message : Message} :
    (sendTo target message).count .requestNextOldest = 0 := by
  cases target with
  | none => rfl
  | some a => simp [sendTo]

theorem arrival_count (p : Phase) :
    (m.arrival p).count .requestNextOldest = (asksOnEntry p && m.noticeReceived).toNat := by
  cases p with
  | younger o => exact request_count
  | oldest unit unitEnded => exact request_count
  | becomingOldest previous => simp [arrival, asksOnEntry]
  | _ => rfl

/-- On the way into a phase the machine asks for what it heard, or remembers it. -/
theorem enter_credit {p : Phase} {effects : List Effect}
    (silent : effects.count .requestNextOldest = 0) :
    (m.enter now p effects).credit = m.noticeReceived.toNat := by
  unfold Turn.credit Turn.requests
  rw [enter_effects, enter_machine, List.count_append, List.count_append, silent, leave_count,
    arrival_count]
  cases asksOnEntry p <;> simp

theorem stay_credit {effects : List Effect} (silent : effects.count .requestNextOldest = 0) :
    (m.stay effects).credit = m.noticeReceived.toNat := by
  unfold Turn.credit Turn.requests
  rw [stay_effects, stay_machine, silent, Nat.zero_add]

theorem stop_credit {effects : List Effect} (silent : effects.count .requestNextOldest = 0) :
    (m.stop effects).credit = m.noticeReceived.toNat := by
  unfold Turn.credit Turn.requests
  rw [stop_effects, stop_machine, silent, Nat.zero_add]

theorem Departure.credit {t : Turn} (h : Departure m now t) : t.credit = m.noticeReceived.toNat := by
  have silent {effects : List Effect} (parting : ∀ x ∈ effects, x.isParting = true) :
      effects.count .requestNextOldest = 0 :=
    List.count_eq_zero.mpr fun mem => by cases parting _ mem
  cases h with
  | stops parting => exact stop_credit (silent parting)
  | moves place parting => exact enter_credit (silent parting)

theorem fallback_credit : (m.fallback now e).credit = m.noticeReceived.toNat := by
  unfold Turn.credit Turn.requests
  rw [fallback_effects, fallback_frame.2.2]
  simp

/-! ## Credit of the rows -/

theorem Grounds.noticed {m' : Machine} (h : Grounds m now e m') (running : m.terminated = false) :
    m'.noticeReceived = (m.noticeReceived || m.hears e) := by
  cases h with
  | safeFromStart h => simp [hears, running, h, Machine.noticed]
  | nobodyBefore h => simp [hears, running, h, Machine.noticed]
  | handedOver | marginPassed | retriesOver => rw [hears_of_unnamed rfl, Bool.or_false]

theorem Release.noticed {m' : Machine} {unit : UnitId} {unitEnded : Bool} {target : Option Address}
    (h : Release m now unit unitEnded e m' target) (running : m.terminated = false) :
    m'.noticeReceived = (m.noticeReceived || m.hears e) := by
  cases h with
  | claimOfRemoved h => simp [hears, running, h, Machine.noticed]
  | askedAsOldest | askedAsWasOldest | newOldestRemoved =>
      rw [hears_of_unnamed rfl, Bool.or_false]

/-- **What a running machine hears is answered or remembered.** The turn asks for what the machine
heard of the notifier now or before, unless the machine goes on remembering it. -/
theorem Row.credit {t : Turn} (row : Row m now fresh e t) (running : m.terminated = false) :
    t.credit = (m.noticeReceived || m.hears e).toNat := by
  -- a machine that noted the word has heard it, whatever it remembered before
  have heard : m.hears e = true →
      m.noticed.noticeReceived.toNat = (m.noticeReceived || m.hears e).toNat := by
    intro h
    rw [h, Bool.or_true]
    rfl
  have unheard : e.named? = none →
      m.noticeReceived.toNat = (m.noticeReceived || m.hears e).toNat := by
    intro h
    rw [hears_of_unnamed h, Bool.or_false]
  cases row with
  | hosts grounds =>
      have silent : [Effect.startUnit fresh].count .requestNextOldest = 0 := by simp
      exact (enter_credit silent).trans (congrArg Bool.toNat (grounds.noticed running))
  | handsOver reason =>
      exact (handOver_departs ..).credit.trans (congrArg Bool.toNat (reason.noticed running))
  | unsafeFromStart h | waitsFromStart h =>
      exact (enter_credit rfl).trans (heard (by simp [hears, running, h]))
  | asksPrevious h =>
      exact (enter_credit (by simp)).trans (heard (by simp [hears, running, h]))
  | yields h =>
      refine (enter_credit ?_).trans (heard (by simp [hears, running, h]))
      rw [List.count_append, sendTo_count]
      simp
  | hearsItself h => exact (stay_credit rfl).trans (heard (by simp [hears, running, h]))
  | follows h => exact heard (by simp [hears, running, h])
  | wakes =>
      refine Eq.trans ?_ (unheard rfl)
      unfold Turn.credit Turn.requests
      rw [stay_effects, List.count_cons_of_ne (by simp), request_count]
      rfl
  | completes => exact (handOverDone_departs _).credit.trans (unheard rfl)
  | endsQuietly | findsNobody => exact (windDown_departs ..).credit.trans (unheard rfl)
  | retriesHandOver | retriesTakeOver =>
      refine (stay_credit ?_).trans (unheard rfl)
      rw [List.count_append, sendTo_count]
      simp
  | ignores h =>
      have lost : m.hears e = false := Bool.eq_false_iff.mpr fun noted => inPhase_heard noted h
      rw [lost, Bool.or_false]
      exact fallback_credit
  | _ => exact (stay_credit (by simp)).trans (unheard rfl)

/-- What a turn does with the notifier, also that of a terminated machine. -/
theorem handle_credit :
    (m.handle now fresh e).credit = (m.noticeReceived || m.hears e).toNat := by
  cases done : m.terminated with
  | true =>
      rw [handle_terminated done, hears_terminated done, Bool.or_false]
      exact Nat.zero_add _
  | false => exact (handle_row done e).credit done

/-! ## Where the memory stands -/

/-- Where a turn leads, and what the machine remembers of the notifier there. -/
inductive NoticeTurn (m : Machine) (e : Event) (m' : Machine) : Prop where
  | keeps (unheard : m.hears e = false) (same : m'.state = m.state)
      (memory : m'.noticeReceived = m.noticeReceived)
  | asks (place : m'.state = .start ∨ m'.state = .younger) (memory : m'.noticeReceived = false)
  | hosts (place : m'.state = .oldest) (memory : m'.noticeReceived = false)
      (ground : m.state = .becomingOldest ∧ e.named? = none ∨
        (m.state = .start ∨ m.state = .younger) ∧ e.named? = some (some m.self))
  | prepares (place : m'.state = .becomingOldest) (memory : m'.noticeReceived = true)
      (named : e.named? = some (some m.self))
  | hearsItself (place : m.state = .oldest) (event : e = .oldestChanged (some m.self))
      (noted : m' = m.noticed)
  | yields (place : m'.state = .wasOldest) (memory : m'.noticeReceived = true)
  | leaves (place : m'.state = .handingOver ∨ m'.state = .stopping ∨ m'.state = .ended)
  | stops (place : m'.state = .oldest) (memory : m'.noticeReceived = true)
      (done : m'.terminated = true)

/-- A turn that does not hear the notifier, in the same state. -/
theorem NoticeTurn.of_same {m' : Machine} (unnamed : e.named? = none) (same : m'.phase = m.phase)
    (memory : m'.noticeReceived = m.noticeReceived) : NoticeTurn m e m' :=
  .keeps (hears_of_unnamed unnamed) (congrArg Phase.state same) memory

theorem Grounds.notice {m' : Machine} (h : Grounds m now e m') :
    m.state = .becomingOldest ∧ e.named? = none ∨
      (m.state = .start ∨ m.state = .younger) ∧ e.named? = some (some m.self) := by
  cases h with
  | safeFromStart h => exact Or.inr ⟨Or.inl (congrArg Phase.state h), rfl⟩
  | nobodyBefore h => exact Or.inr ⟨Or.inr (congrArg Phase.state h), rfl⟩
  | handedOver h | marginPassed h | retriesOver h =>
      exact Or.inl ⟨congrArg Phase.state h, rfl⟩

/-- Who hands the unit over was asked to, or heard the notifier as the oldest. -/
theorem Release.notice {m' : Machine} {unit : UnitId} {unitEnded : Bool} {target : Option Address}
    (h : Release m now unit unitEnded e m' target) :
    e.named? = none ∧ m'.noticeReceived = m.noticeReceived ∨
      m.state = .oldest ∧ m'.noticeReceived = true := by
  cases h with
  | claimOfRemoved h => exact Or.inr ⟨congrArg Phase.state h, rfl⟩
  | askedAsOldest | askedAsWasOldest | newOldestRemoved => exact Or.inl ⟨rfl, rfl⟩

/-- A machine that parts from its unit waits for others, leaves, or stops where it is. -/
theorem Departure.notice {m' : Machine} {t : Turn} (h : Departure m' now t)
    (same : m'.phase = m.phase)
    (word : e.named? = none ∧ m'.noticeReceived = m.noticeReceived ∨
      m.state = .oldest ∧ m'.noticeReceived = true) : NoticeTurn m e t.machine := by
  cases h with
  | stops =>
      rcases word with ⟨unnamed, memory⟩ | ⟨place, memory⟩
      · exact .of_same unnamed same memory
      · exact .stops ((congrArg Phase.state same).trans place) memory rfl
  | @moves p effects place =>
      rw [enter_machine]
      cases p with
      | younger oldest => exact .asks (Or.inr rfl) (Bool.and_false _)
      | handingOver unit target => exact .leaves (Or.inl rfl)
      | stopping unit => exact .leaves (Or.inr (Or.inl rfl))
      | ended => exact .leaves (Or.inr (Or.inr rfl))
      | _ => simp [Phase.state] at place

/-- **Every turn of a running machine is one of the eight kinds.** -/
theorem Row.noticeTurn {t : Turn} (row : Row m now fresh e t) :
    NoticeTurn m e t.machine := by
  cases row with
  | hosts grounds =>
      rw [host, enter_machine]
      exact .hosts rfl (Bool.and_false _) grounds.notice
  | handsOver reason => exact (handOver_departs ..).notice reason.phase reason.notice
  | completes => exact (handOverDone_departs _).notice rfl (Or.inl ⟨rfl, rfl⟩)
  | endsQuietly | findsNobody => exact (windDown_departs ..).notice rfl (Or.inl ⟨rfl, rfl⟩)
  | wakes h => exact .asks (Or.inl (congrArg Phase.state h)) rfl
  | follows => exact .asks (Or.inr rfl) rfl
  | waitsFromStart =>
      rw [enter_machine]
      exact .asks (Or.inr rfl) rfl
  | unsafeFromStart | asksPrevious =>
      rw [enter_machine]
      exact .prepares rfl rfl rfl
  | yields =>
      rw [yieldTo, enter_machine]
      exact .yields rfl rfl
  | hearsItself h => exact .hearsItself (congrArg Phase.state h) rfl rfl
  | forgets h | adopts h | unitEndsAsOldest h | unitEndsAsWasOldest h =>
      exact .keeps (hears_of_unnamed rfl) (congrArg Phase.state h).symm rfl
  | ignores h =>
      have lost : m.hears e = false := Bool.eq_false_iff.mpr fun noted => inPhase_heard noted h
      exact .keeps lost (congrArg Phase.state fallback_frame.1) fallback_frame.2.2
  | _ => exact .of_same rfl rfl rfl

theorem handle_noticeTurn : NoticeTurn m e (m.handle now fresh e).machine := by
  cases done : m.terminated with
  | true =>
      rw [handle_terminated done]
      exact .keeps (hears_terminated done) rfl rfl
  | false => exact (handle_row done e).noticeTurn

end Machine

end ClusterSingleton
