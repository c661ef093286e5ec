import ClusterSingleton.Proofs.Machine.Table

/-!
# What a turn does with the unit

Of all that a machine asks for, its unit work starts the unit, tells it to end, or tells other nodes
how far its end is. `Machine.UnitTurn` sorts the turns of a machine by their unit work and by what
becomes of the unit that the phase holds; `Row.unitTurn` says that nothing else happens.
-/

namespace ClusterSingleton

def Effect.isUnitWork : Effect → Bool
  | startUnit _ => true
  | terminateUnit _ => true
  | send _ .handOverInProgress => true
  | send _ .handOverDone => true
  | _ => false

def Turn.unitWork (t : Turn) : List Effect := t.effects.filter Effect.isUnitWork

/-- What a phase holds of a unit. -/
inductive Hold : Type where
  | nothing
  /-- The unit is hosted, and its end was seen or not. -/
  | hosted (unit : UnitId) (ended : Bool)
  /-- The unit was told to end, and its end was not seen. -/
  | told (unit : UnitId)
deriving DecidableEq, Repr

def Phase.hold : Phase → Hold
  | oldest unit unitEnded => .hosted unit unitEnded
  | wasOldest unit unitEnded _ => .hosted unit unitEnded
  | handingOver unit _ => .told unit
  | stopping unit => .told unit
  | _ => .nothing

namespace Machine

/-- What a turn of a running machine does with the unit. -/
inductive UnitTurn (m : Machine) (fresh : UnitId) (e : Event) (t : Turn) : Prop where
  | keeps (work : t.unitWork = []) (same : t.machine.phase.hold = m.phase.hold)
      (silent : ∀ u b, m.phase.hold = .hosted u b ∨ m.phase.hold = .told u → e ≠ .unitTerminated u)
  | starts (free : m.phase.hold = .nothing) (work : t.unitWork = [.startUnit fresh])
      (hosts : t.machine.phase.hold = .hosted fresh false)
  | reports {u : UnitId} {b : Bool} (held : m.phase.hold = .hosted u b)
      (event : e = .unitTerminated u) (work : t.unitWork = [])
      (hosts : t.machine.phase.hold = .hosted u true)
  | tells {u : UnitId} (held : m.phase.hold = .hosted u false) (event : e ≠ .unitTerminated u)
      (work : t.unitWork = [.terminateUnit u] ∨
        ∃ a, t.unitWork = [.send a .handOverInProgress, .terminateUnit u])
      (told : t.machine.phase.hold = .told u)
  | promises {u : UnitId} {a : Address} (held : m.phase.hold = .told u)
      (event : e ≠ .unitTerminated u) (work : t.unitWork = [.send a .handOverInProgress])
      (told : t.machine.phase.hold = .told u)
  | releases {u : UnitId}
      (held : m.phase.hold = .hosted u true ∨ m.phase.hold = .told u ∧ e = .unitTerminated u)
      (work : t.unitWork = [] ∨ ∃ a, t.unitWork = [.send a .handOverDone])
      (rid : t.machine.phase.hold = .nothing ∨ t.machine.terminated = true)

variable {m : Machine} {now : Nat} {fresh : UnitId}

/-! ## Unit work of the moves -/

theorem unitWork_eq {t : Turn} {effects : List Effect} (h : t.effects = effects) :
    t.unitWork = effects.filter Effect.isUnitWork := by
  rw [Turn.unitWork, h]

theorem request_noWork : m.request.filter Effect.isUnitWork = [] := by
  unfold request
  split <;> rfl

theorem leave_noWork (s : State) : (leave s).filter Effect.isUnitWork = [] := by
  cases s <;> rfl

theorem arrival_noWork (p : Phase) : (m.arrival p).filter Effect.isUnitWork = [] := by
  cases p with
  | younger o => exact request_noWork
  | oldest unit unitEnded => exact request_noWork
  | _ => rfl

theorem enter_unitWork {p : Phase} {effects : List Effect} :
    (m.enter now p effects).unitWork = effects.filter Effect.isUnitWork := by
  rw [unitWork_eq enter_effects, List.filter_append, List.filter_append, leave_noWork,
    arrival_noWork, List.append_nil, List.append_nil]

theorem host_unitWork : (m.host now fresh).unitWork = [.startUnit fresh] := enter_unitWork

theorem sendTo_noWork {target : Option Address} {message : Message}
    (h : ∀ a, (Effect.send a message).isUnitWork = false) :
    (sendTo target message).filter Effect.isUnitWork = [] := by
  cases target with
  | none => rfl
  | some a => simp [sendTo, h]

theorem handOverDone_unitWork {target : Option Address} :
    (m.handOverDone now target).unitWork = [] ∨
      ∃ a, (m.handOverDone now target).unitWork = [.send a .handOverDone] := by
  have work : (m.handOverDone now target).unitWork = sendTo target .handOverDone := by
    have all : (sendTo target .handOverDone).filter Effect.isUnitWork =
        sendTo target .handOverDone := by cases target <;> rfl
    simp only [handOverDone]
    split
    · exact all
    · split <;> exact enter_unitWork.trans all
  rw [work]
  cases target with
  | none => exact Or.inl rfl
  | some a => exact Or.inr ⟨a, rfl⟩

/-- After the hand-over the machine holds nothing, or it has stopped. -/
theorem handOverDone_rid {target : Option Address} :
    (m.handOverDone now target).machine.phase.hold = .nothing ∨
      (m.handOverDone now target).machine.terminated = true := by
  simp only [handOverDone]
  split
  · exact Or.inr rfl
  · refine Or.inl ?_
    split <;> rw [enter_machine] <;> rfl

/-- A hosted unit is handed over: told to end if it is alive, else handed over at once. -/
theorem handOver_unitTurn {m' : Machine} {u : UnitId} {b : Bool} {e : Event}
    {target : Option Address} (held : m'.phase.hold = .hosted u b) (event : e ≠ .unitTerminated u) :
    UnitTurn m' fresh e (m.handOver now u b target) := by
  unfold handOver
  cases b with
  | true => exact .releases (Or.inl held) handOverDone_unitWork handOverDone_rid
  | false =>
      refine .tells held event ?_ (by rw [if_neg (by simp), enter_machine]; rfl)
      rw [if_neg (by simp), enter_unitWork]
      cases target with
      | none => exact Or.inl rfl
      | some a => exact Or.inr ⟨a, rfl⟩

theorem windDown_unitTurn {u : UnitId} {b : Bool} {e : Event}
    (held : m.phase.hold = .hosted u b) (event : e ≠ .unitTerminated u) :
    UnitTurn m fresh e (m.windDown now u b) := by
  unfold windDown
  cases b with
  | true => exact .releases (Or.inl held) (Or.inl rfl) (Or.inr rfl)
  | false =>
      rw [if_neg (by simp)]
      exact .tells held event (Or.inl enter_unitWork) (by rw [enter_machine]; rfl)

/-! ## Unit work of the rows -/

theorem Grounds.free {e : Event} {m' : Machine} (h : Grounds m now e m') :
    m.phase.hold = .nothing := by
  cases h with
  | safeFromStart h | nobodyBefore h | handedOver h | marginPassed h | retriesOver h =>
      rw [h]
      rfl

theorem Release.held {u : UnitId} {b : Bool} {e : Event} {m' : Machine} {target : Option Address}
    (h : Release m now u b e m' target) : m.phase.hold = .hosted u b ∧ e ≠ .unitTerminated u := by
  cases h with
  | claimOfRemoved h | askedAsOldest h | askedAsWasOldest h | newOldestRemoved h =>
      exact ⟨by rw [h]; rfl, nofun⟩

/-- A turn without unit work that stays in the phase, on an event that reports no end. -/
theorem UnitTurn.of_same {e : Event} {t : Turn} (work : t.unitWork = [])
    (same : t.machine.phase = m.phase) (event : ∀ u, e ≠ .unitTerminated u) :
    UnitTurn m fresh e t :=
  .keeps work (congrArg Phase.hold same) (fun u _ _ => event u)

/-- A turn without unit work between two phases that hold nothing. -/
theorem UnitTurn.of_nothing {e : Event} {t : Turn} (work : t.unitWork = [])
    (free : m.phase.hold = .nothing) (rid : t.machine.phase.hold = .nothing) :
    UnitTurn m fresh e t := by
  refine .keeps work (rid.trans free.symm) ?_
  rintro u b (held | held)
  · rw [free] at held
    cases held
  · rw [free] at held
    cases held

/-- A report of the end of the unit that is held is never ignored. -/
theorem inPhase_report {u : UnitId} {b : Bool}
    (held : m.phase.hold = .hosted u b ∨ m.phase.hold = .told u) :
    m.inPhase now fresh (.unitTerminated u) ≠ none := by
  unfold inPhase
  cases h : m.phase with
  | oldest unit unitEnded => simp_all [Phase.hold, inOldest]
  | wasOldest unit unitEnded newOldest => simp_all [Phase.hold, inWasOldest]
  | handingOver unit target => simp_all [Phase.hold, inHandingOver]
  | stopping unit => simp_all [Phase.hold, inStopping]
  | _ => simp_all [Phase.hold]

/-- **Every turn of a running machine is one of the six kinds.** -/
theorem Row.unitTurn {e : Event} {t : Turn} (row : Row m now fresh e t) :
    UnitTurn m fresh e t := by
  cases row with
  | hosts grounds =>
      exact .starts grounds.free host_unitWork (by rw [host, enter_machine]; rfl)
  | handsOver reason => exact handOver_unitTurn reason.held.1 reason.held.2
  | endsQuietly h | findsNobody h => exact windDown_unitTurn (by rw [h]; rfl) nofun
  | unitEndsAsOldest h | unitEndsAsWasOldest h => exact .reports (by rw [h]; rfl) rfl rfl rfl
  | completes h =>
      exact .releases (Or.inr ⟨by rw [h]; rfl, rfl⟩) handOverDone_unitWork handOverDone_rid
  | unitEndsStopping h =>
      exact .releases (Or.inr ⟨by rw [h]; rfl, rfl⟩) (Or.inl rfl) (Or.inr rfl)
  | repeatsPromise h => exact .promises (by rw [h]; rfl) nofun rfl (by rw [stay_machine, h]; rfl)
  | yields h =>
      refine .keeps ?_ (by rw [yieldTo, enter_machine, h]; rfl) (fun _ _ _ => nofun)
      rw [yieldTo, enter_unitWork, List.filter_append, sendTo_noWork (fun _ => rfl)]
      rfl
  | unsafeFromStart h | waitsFromStart h | asksPrevious h =>
      exact .of_nothing enter_unitWork (by rw [h]; rfl) (by rw [enter_machine]; rfl)
  | follows h | forgets h | adopts h => exact .of_nothing rfl (by rw [h]; rfl) rfl
  | wakes => exact .of_same request_noWork rfl (fun _ => nofun)
  | retriesHandOver | retriesTakeOver =>
      refine .of_same ?_ rfl (fun _ => nofun)
      rw [unitWork_eq stay_effects, List.filter_append, sendTo_noWork (fun _ => rfl)]
      rfl
  | ignores h =>
      refine .keeps (unitWork_eq fallback_effects) (by rw [fallback_frame.1]) ?_
      rintro u b held rfl
      exact inPhase_report held h
  | _ => exact .of_same rfl rfl (fun _ => nofun)

/-- Only a start leads from holding nothing to hosting a unit. -/
theorem Row.grounds {e : Event} {t : Turn} {u : UnitId} {b : Bool} (row : Row m now fresh e t)
    (free : m.phase.hold = .nothing) (hosts : t.machine.phase.hold = .hosted u b) :
    ∃ m', Grounds m now e m' := by
  cases row with
  | hosts grounds => exact ⟨_, grounds⟩
  | handsOver reason =>
      rw [reason.held.1] at free
      cases free
  | yields h | hearsItself h | unitEndsAsOldest h | unitEndsAsWasOldest h | endsQuietly h
  | findsNobody h | completes h | unitEndsStopping h | repeatsPromise h =>
      rw [h] at free
      cases free
  | unsafeFromStart | waitsFromStart | asksPrevious =>
      rw [enter_machine] at hosts
      cases hosts
  | follows | forgets | adopts => cases hosts
  | ignores =>
      rw [fallback_frame.1, free] at hosts
      cases hosts
  | _ =>
      -- the phase stays as it was
      have held : m.phase.hold = .hosted u b := hosts
      rw [free] at held
      cases held

/-- What a running machine does with the unit. -/
theorem handle_unitTurn (running : m.terminated = false) (e : Event) :
    UnitTurn m fresh e (m.handle now fresh e) :=
  (handle_row running e).unitTurn

end Machine

end ClusterSingleton
