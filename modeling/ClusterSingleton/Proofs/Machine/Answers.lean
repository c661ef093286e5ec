import ClusterSingleton.Proofs.Machine.Table

/-!
# What a turn asks for, and how it ends

A second look at the rows of the table. Whoever parts from its unit does so in one of two ways, a
`Departure`; `Row.emits` says what a turn can set for later, and `Row.outcome_cases` when the
coordinator does not go on.
-/

namespace ClusterSingleton

/-- Whether the effect tells another node or a unit of the end of a unit. -/
def Effect.isParting : Effect → Bool
  | send _ _ => true
  | terminateUnit _ => true
  | _ => false

/-- Whether the effect is done with at once; the others deliver an event later. -/
def Effect.isImmediate : Effect → Bool
  | startTimer _ _ _ => false
  | scheduleOnce _ _ => false
  | _ => true

/-- What a timer delivers; the retry timers count how often they ran out. -/
def TimerKey.fire : TimerKey → UInt32 → Event
  | handOverRetry, count => .handOverRetry count
  | takeOverRetry, count => .takeOverRetry count
  | cleanup, _ => .cleanup

namespace Machine

variable {m : Machine} {now : Nat} {fresh : UnitId}

/-! ## What a reason leaves as it is -/

section Reasons

variable {e : Event} {m' : Machine} {unit : UnitId} {unitEnded : Bool} {target : Option Address}

theorem Grounds.phase (h : Grounds m now e m') : m'.phase = m.phase := by
  cases h <;> rfl

theorem Release.phase (h : Release m now unit unitEnded e m' target) : m'.phase = m.phase := by
  cases h <;> rfl

theorem Grounds.terminated (h : Grounds m now e m') : m'.terminated = m.terminated := by
  cases h <;> rfl

theorem Release.terminated (h : Release m now unit unitEnded e m' target) :
    m'.terminated = m.terminated := by
  cases h <;> rfl

end Reasons

/-! ## Parting from a unit -/

/-- Whoever hands its unit over, or ends it with nobody to take it over, stops or moves to a state
without retries, and tells nobody but the node that asked and the unit. -/
inductive Departure (m : Machine) (now : Nat) : Turn → Prop where
  | stops {effects : List Effect} (parting : ∀ x ∈ effects, x.isParting = true) :
      Departure m now (m.stop effects)
  | moves {p : Phase} {effects : List Effect}
      (place : p.state ∈ [.younger, .handingOver, .stopping, .ended])
      (parting : ∀ x ∈ effects, x.isParting = true) : Departure m now (m.enter now p effects)

/-- Whoever does not move to such a state stays where it was. -/
theorem Departure.phase {t : Turn} (h : Departure m now t)
    (after : t.machine.state ∉ [.younger, .handingOver, .stopping, .ended]) :
    t.machine.phase = m.phase := by
  cases h with
  | stops => rfl
  | moves place =>
      rw [enter_machine] at after
      exact absurd place after

theorem sendTo_parting {target : Option Address} {message : Message} :
    ∀ x ∈ sendTo target message, x.isParting = true := by
  cases target <;> simp [sendTo, Effect.isParting]

theorem handOverDone_departs (target : Option Address) :
    Departure m now (m.handOverDone now target) := by
  simp only [handOverDone]
  split
  · exact .stops sendTo_parting
  · split <;> exact .moves (by simp [Phase.state]) sendTo_parting

theorem handOver_departs (unit : UnitId) (unitEnded : Bool) (target : Option Address) :
    Departure m now (m.handOver now unit unitEnded target) := by
  unfold handOver
  split
  · exact handOverDone_departs target
  · exact .moves (by simp [Phase.state])
      (List.forall_mem_append.mpr ⟨sendTo_parting, by simp [Effect.isParting]⟩)

theorem windDown_departs (unit : UnitId) (unitEnded : Bool) :
    Departure m now (m.windDown now unit unitEnded) := by
  unfold windDown
  split
  · exact .stops (List.forall_mem_nil _)
  · exact .moves (by simp [Phase.state]) (by simp [Effect.isParting])

/-! ## What is set for later -/

/-- What a turn can ask for: a retry under its timer, or the announcement of a removal. -/
inductive Emits (m : Machine) (e : Event) : Effect → Prop where
  | atOnce {x : Effect} (immediate : x.isImmediate = true) : Emits m e x
  | retry {k : TimerKey} {count : UInt32} {after : Nat} :
      Emits m e (.startTimer k (k.fire count) after)
  | announcement {a : Address} (event : e = .memberRemoved a) (other : a ≠ m.self)
      (waiting : waits m.phase = true) :
      Emits m e (.scheduleOnce (.delayedMemberRemoved a) m.removalMargin)

section Emits

variable {e : Event}

theorem Emits.of_parting {x : Effect} (parting : x.isParting = true) : Emits m e x := by
  refine .atOnce ?_
  cases x <;> first | rfl | cases parting

theorem sendTo_emits {target : Option Address} {message : Message} :
    ∀ x ∈ sendTo target message, Emits m e x :=
  fun x mem => .of_parting (sendTo_parting x mem)

theorem request_emits {m' : Machine} : ∀ x ∈ m'.request, Emits m e x := by
  unfold request
  split
  · exact List.forall_mem_singleton.mpr (.atOnce rfl)
  · exact List.forall_mem_nil _

theorem enter_emits {m' : Machine} {p : Phase} {effects : List Effect}
    (given : ∀ x ∈ effects, Emits m e x) : ∀ x ∈ (m'.enter now p effects).effects, Emits m e x := by
  have left : ∀ x ∈ leave m'.state, Emits m e x := by
    cases m'.state with
    | becomingOldest => exact List.forall_mem_singleton.mpr (.atOnce rfl)
    | wasOldest => exact List.forall_mem_singleton.mpr (.atOnce rfl)
    | _ => exact List.forall_mem_nil _
  have arriving : ∀ x ∈ m'.arrival p, Emits m e x := by
    cases p with
    | becomingOldest previous => exact List.forall_mem_singleton.mpr (.retry (k := .handOverRetry))
    | younger oldest => exact request_emits
    | oldest unit unitEnded => exact request_emits
    | _ => exact List.forall_mem_nil _
  rw [enter_effects, List.forall_mem_append, List.forall_mem_append]
  exact ⟨⟨given, left⟩, arriving⟩

theorem Departure.emits {m' : Machine} {t : Turn} (h : Departure m' now t) :
    ∀ x ∈ t.effects, Emits m e x := by
  cases h with
  | stops parting => exact fun x mem => .of_parting (parting x mem)
  | moves place parting => exact enter_emits fun x mem => .of_parting (parting x mem)

theorem Row.emits {t : Turn} (row : Row m now fresh e t) : ∀ x ∈ t.effects, Emits m e x := by
  cases row with
  | hosts => exact enter_emits (List.forall_mem_singleton.mpr (.atOnce rfl))
  | waitsFromStart | unsafeFromStart => exact enter_emits (List.forall_mem_nil _)
  | asksPrevious => exact enter_emits (List.forall_mem_singleton.mpr (.atOnce rfl))
  | yields =>
      refine enter_emits (List.forall_mem_append.mpr ⟨sendTo_emits, ?_⟩)
      exact List.forall_mem_singleton.mpr (.retry (k := .takeOverRetry))
  | handsOver => exact (handOver_departs ..).emits
  | completes => exact (handOverDone_departs _).emits
  | endsQuietly | findsNobody => exact (windDown_departs ..).emits
  | retriesHandOver =>
      refine List.forall_mem_append.mpr ⟨sendTo_emits, ?_⟩
      exact List.forall_mem_singleton.mpr (.retry (k := .handOverRetry))
  | retriesTakeOver =>
      refine List.forall_mem_append.mpr ⟨sendTo_emits, ?_⟩
      exact List.forall_mem_singleton.mpr (.retry (k := .takeOverRetry))
  | awaitsMargin h other => exact List.forall_mem_singleton.mpr (.announcement rfl other h)
  | wakes => exact List.forall_mem_cons.mpr ⟨.atOnce rfl, request_emits⟩
  | ignores => simp
  | isPromised | answersTakeOver | adopts | follows | repeatsPromise =>
      exact List.forall_mem_singleton.mpr (.atOnce rfl)
  | _ => exact List.forall_mem_nil _

end Emits

/-! ## How a turn ends

A turn goes on exactly if its machine is not terminated. Only a machine that has used up its retries
is stuck, and only one that has used up the numbers for them breaks off.
-/

/-- The end of a turn that is not stuck. -/
def quiet (terminated : Bool) : Outcome := if terminated then .stopped else .proceed

/-- The ways to be stuck: the event, and the error. -/
inductive Stuck (m : Machine) (now : Nat) : Event → Error → Prop where
  | handOver {previous : Option Address} {count : UInt32} (h : m.phase = .becomingOldest previous)
      (exhausted : m.limits.handOver < count) (present : m.knownRemoved previous now = false)
      (running : m.clusterTerminated = false) :
      Stuck m now (.handOverRetry count) (handOverStuck previous)
  | takeOver {unit : UnitId} {unitEnded : Bool} {a : Address} {count : UInt32}
      (h : m.phase = .wasOldest unit unitEnded (some a)) (exhausted : m.limits.takeOver < count)
      (running : m.clusterTerminated = false ∧ m.selfExited = false)
      (known : m.isRemoved a now = false) :
      Stuck m now (.takeOverRetry count) (takeOverStuck (some a))

/-- The retries that are within the limit, and that no number comes after. -/
inductive Overflows (m : Machine) : Event → Prop where
  | handOver {previous : Option Address} {count : UInt32} (h : m.phase = .becomingOldest previous)
      (within : count ≤ m.limits.handOver) (last : RetryLimits.bound ≤ count.toNat) :
      Overflows m (.handOverRetry count)
  | takeOver {unit : UnitId} {unitEnded : Bool} {newOldest : Option Address} {count : UInt32}
      (h : m.phase = .wasOldest unit unitEnded newOldest) (within : count ≤ m.limits.takeOver)
      (last : RetryLimits.bound ≤ count.toNat) : Overflows m (.takeOverRetry count)

/-- An event of no special meaning stops a machine only if its own node is removed without having
left. -/
theorem fallback_ends (e : Event) :
    (m.fallback now e).outcome =
      if e = .memberRemoved m.self ∧ m.selfExited = false then .stopped else .proceed := by
  cases e with
  | memberRemoved a =>
      simp only [fallback, Event.memberRemoved.injEq]
      split <;> rfl
  | memberExited a =>
      simp only [fallback]
      split <;> simp [stay]
  | _ => simp [fallback, stay]

section Ends

variable {e : Event} (running : m.terminated = false)

include running

theorem enter_outcome {p : Phase} {effects : List Effect} :
    (m.enter now p effects).outcome = quiet (m.enter now p effects).machine.terminated := by
  cases p with
  | younger o => simp only [enter, Phase.state]; split <;> simp [stay, stop, asked, quiet, running]
  | ended => simp only [enter, Phase.state]; split <;> simp [stay, stop, quiet, running]
  | _ => simp [enter, Phase.state, stay, asked, quiet, running]

theorem Departure.outcome {t : Turn} (h : Departure m now t) :
    t.outcome = quiet t.machine.terminated := by
  cases h with
  | stops => rfl
  | moves => exact enter_outcome running

theorem fallback_outcome :
    (m.fallback now e).outcome = quiet (m.fallback now e).machine.terminated := by
  cases e <;> simp only [fallback] <;> (try split) <;> simp [stay, stop, quiet, running]

theorem Row.outcome_cases {t : Turn} (row : Row m now fresh e t) :
    t.outcome = quiet t.machine.terminated ∨ (∃ x, Stuck m now e x ∧ t = m.fail x) ∨
      Overflows m e ∧ t = m.breakOff := by
  cases row with
  | stuckHandOver h exhausted present going =>
      exact Or.inr (Or.inl ⟨_, .handOver h exhausted present going, rfl⟩)
  | stuckTakeOver h exhausted going known =>
      exact Or.inr (Or.inl ⟨_, .takeOver h exhausted going known, rfl⟩)
  | overflowsHandOver h within last => exact Or.inr (Or.inr ⟨.handOver h within last, rfl⟩)
  | overflowsTakeOver h within last => exact Or.inr (Or.inr ⟨.takeOver h within last, rfl⟩)
  | hosts grounds => exact Or.inl (enter_outcome (grounds.terminated.trans running))
  | handsOver reason =>
      exact Or.inl ((handOver_departs ..).outcome (reason.terminated.trans running))
  | completes => exact Or.inl ((handOverDone_departs _).outcome running)
  | endsQuietly | findsNobody => exact Or.inl ((windDown_departs ..).outcome running)
  | unsafeFromStart | waitsFromStart | asksPrevious | yields =>
      exact Or.inl (enter_outcome (m := m.noticed) running)
  | ignores => exact Or.inl (fallback_outcome running)
  | _ => exact Or.inl (by simp [stay, stayAs, stop, asked, noticed, quiet, running])

/-- Whoever fails is stuck. -/
theorem Row.stuck_of_fatal {t : Turn} {x : Error} (row : Row m now fresh e t)
    (fails : t.outcome = .fatal x) : Stuck m now e x ∧ t = m.fail x := by
  rcases row.outcome_cases running with ends | ⟨y, stuck, rfl⟩ | ⟨-, rfl⟩
  · rw [ends, quiet] at fails
    split at fails <;> cases fails
  · obtain rfl := Outcome.fatal.inj fails
    exact ⟨stuck, rfl⟩
  · cases fails

/-- Whoever breaks off has come to the end of the numbers. -/
theorem Row.overflows_of_outcome {t : Turn} (row : Row m now fresh e t)
    (breaks : t.outcome = .overflow) : Overflows m e := by
  rcases row.outcome_cases running with ends | ⟨x, -, rfl⟩ | ⟨overflows, -⟩
  · rw [ends, quiet] at breaks
    split at breaks <;> cases breaks
  · cases breaks
  · exact overflows

end Ends

theorem handle_proceed_iff (e : Event) :
    (m.handle now fresh e).outcome = .proceed ↔
      (m.handle now fresh e).machine.terminated = false := by
  cases done : m.terminated with
  | true =>
      rw [handle_terminated done]
      simp [done]
  | false =>
      have row : Row m now fresh e (m.handle now fresh e) := handle_row done e
      rcases row.outcome_cases done with ends | ⟨x, -, stuck⟩ | ⟨-, off⟩
      · rw [ends, quiet]
        split <;> simp_all
      · rw [stuck]
        simp [fail]
      · rw [off]
        simp [breakOff]

end Machine

end ClusterSingleton
