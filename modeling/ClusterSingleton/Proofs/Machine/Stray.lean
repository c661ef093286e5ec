import ClusterSingleton.Proofs.Machine.Graph

/-!
# Stray events

An event can come too late, too early, twice, or from the wrong node. `Stray` lists the events that
mean nothing to a machine where it stands. `stray_unheeded` says that such an event leaves everything
as it is, and that any other does not, unless it repeats what the machine was told or brings news of
the membership.
-/

namespace ClusterSingleton

/-- Whether the event brings news of the membership; every state may take note of that. -/
def Event.isNews : Event → Bool
  | memberExited _ => true
  | memberRemoved _ => true
  | delayedMemberRemoved _ => true
  | clusterShutdown => true
  | cleanup => true
  | _ => false

namespace Machine

variable {m : Machine} {now : Nat} {fresh : UnitId} {e : Event}

/-- The event means nothing to the machine in its present phase. -/
inductive Stray (m : Machine) : Event → Prop where
  | startNotifier (h : m.state ≠ .start) : Stray m .startNotifier
  | initialOldest {oldest : Option Address} {safe : Bool} (h : m.state ≠ .start) :
      Stray m (.initialOldest oldest safe)
  | oldestChanged {oldest : Option Address} (notYounger : m.state ≠ .younger)
      (notOldest : m.state ≠ .oldest) : Stray m (.oldestChanged oldest)
  | handOverRetry {count : UInt32} (h : m.state ≠ .becomingOldest) : Stray m (.handOverRetry count)
  | takeOverRetry {count : UInt32} (h : m.state ≠ .wasOldest) : Stray m (.takeOverRetry count)
  | unitTerminated {unit : UnitId} (other : m.phase.unit? ≠ some unit) :
      Stray m (.unitTerminated unit)
  | handOverDone {sender : Address} (h : m.phase ≠ .becomingOldest (some sender)) :
      Stray m (.peer sender .handOverDone)
  | handOverInProgress {sender : Address} (h : m.state ≠ .becomingOldest) :
      Stray m (.peer sender .handOverInProgress)
  | takeOverFromMe {sender : Address} (known : m.phase ≠ .becomingOldest none)
      (other : m.phase ≠ .becomingOldest (some sender)) : Stray m (.peer sender .takeOverFromMe)
  | handOverToMe {sender : Address} (notOldest : m.state ≠ .oldest)
      (notWasOldest : m.state ≠ .wasOldest)
      (other : ∀ unit, m.phase ≠ .handingOver unit (some sender)) :
      Stray m (.peer sender .handOverToMe)
  | memberExited {a : Address} (other : a ≠ m.self) : Stray m (.memberExited a)
  | currentClusterState : Stray m .currentClusterState

/-- The event tells the machine what it was told before, and remembers. -/
inductive Repeated (m : Machine) : Event → Prop where
  | ownName {unit : UnitId} {unitEnded : Bool} (h : m.phase = .oldest unit unitEnded)
      (noticed : m.noticeReceived = true) : Repeated m (.oldestChanged (some m.self))
  | endAsOldest {unit : UnitId} (h : m.phase = .oldest unit true) :
      Repeated m (.unitTerminated unit)
  | endAsWasOldest {unit : UnitId} {newOldest : Option Address}
      (h : m.phase = .wasOldest unit true newOldest) : Repeated m (.unitTerminated unit)

/-! ## A stray event changes nothing -/

theorem Row.unheeded {t : Turn} (row : Row m now fresh e t) (stray : Stray m e) :
    t = m.stay [] := by
  have stateOf : ∀ {p : Phase}, m.phase = p → m.state = p.state := congrArg Phase.state
  cases stray with
  | startNotifier other =>
      cases row with
      | wakes h => exact absurd (stateOf h) other
      | hosts grounds => cases grounds
      | handsOver reason => cases reason
      | ignores => rfl
  | initialOldest other =>
      cases row with
      | unsafeFromStart h | waitsFromStart h => exact absurd (stateOf h) other
      | hosts grounds =>
          cases grounds with
          | safeFromStart h => exact absurd (stateOf h) other
      | handsOver reason => cases reason
      | ignores => rfl
  | oldestChanged notYounger notOldest =>
      cases row with
      | asksPrevious h | follows h => exact absurd (stateOf h) notYounger
      | hearsItself h | yields h => exact absurd (stateOf h) notOldest
      | hosts grounds =>
          cases grounds with
          | nobodyBefore h => exact absurd (stateOf h) notYounger
      | handsOver reason =>
          cases reason with
          | claimOfRemoved h => exact absurd (stateOf h) notOldest
      | ignores => rfl
  | handOverRetry other =>
      cases row with
      | retriesHandOver h | overflowsHandOver h | quitsHandOver h | stuckHandOver h =>
          exact absurd (stateOf h) other
      | hosts grounds =>
          cases grounds with
          | retriesOver h => exact absurd (stateOf h) other
      | handsOver reason => cases reason
      | ignores => rfl
  | takeOverRetry other =>
      cases row with
      | endsQuietly h | findsNobody h | retriesTakeOver h | overflowsTakeOver h | stuckTakeOver h =>
          exact absurd (stateOf h) other
      | hosts grounds => cases grounds
      | handsOver reason => cases reason
      | ignores => rfl
  | unitTerminated other =>
      cases row with
      | unitEndsAsOldest h | unitEndsAsWasOldest h | completes h | unitEndsStopping h =>
          exact absurd (congrArg Phase.unit? h) other
      | hosts grounds => cases grounds
      | handsOver reason => cases reason
      | ignores => rfl
  | handOverDone other =>
      cases row with
      | refusesDone => rfl
      | hosts grounds =>
          cases grounds with
          | handedOver h => exact absurd h other
      | handsOver reason => cases reason
      | ignores => rfl
  | handOverInProgress other =>
      cases row with
      | isPromised h => exact absurd (stateOf h) other
      | hosts grounds => cases grounds
      | handsOver reason => cases reason
      | ignores => rfl
  | takeOverFromMe known other =>
      cases row with
      | adopts h => exact absurd h known
      | answersTakeOver h => exact absurd h other
      | refusesTakeOver => rfl
      | hosts grounds => cases grounds
      | handsOver reason => cases reason
      | ignores => rfl
  | handOverToMe notOldest notWasOldest other =>
      cases row with
      | repeatsPromise h => exact absurd h (other _)
      | hosts grounds => cases grounds
      | handsOver reason =>
          cases reason with
          | askedAsOldest h => exact absurd (stateOf h) notOldest
          | askedAsWasOldest h => exact absurd (stateOf h) notWasOldest
      | ignores => rfl
  | memberExited other =>
      cases row with
      | hosts grounds => cases grounds
      | handsOver reason => cases reason
      | ignores => exact if_neg other
  | currentClusterState =>
      cases row with
      | hosts grounds => cases grounds
      | handsOver reason => cases reason
      | ignores => rfl

/-! ## Any other event changes something -/

/-- Whoever enters the phase where it was has changed nothing. -/
theorem phase_of_enter {m' : Machine} {p : Phase} {effects : List Effect}
    (silent : m'.enter now p effects = m.stay []) : m.phase = p := by
  have phases := congrArg (fun t => t.machine.phase) silent
  rw [enter_machine] at phases
  exact phases.symm

/-- Whoever parts from its unit goes elsewhere, or ends. -/
theorem not_silent_of_departure {m' : Machine} {t : Turn} (departs : Departure m' now t)
    (hosts : m.state = .oldest ∨ m.state = .wasOldest) : t ≠ m.stay [] := by
  intro silent
  cases departs with
  | stops => cases congrArg Turn.outcome silent
  | moves place =>
      rw [← phase_of_enter silent, ← state] at place
      rcases hosts with h | h <;> simp [h] at place

theorem handOverDone_not_silent {target : Option Address} (source : m.state = .handingOver) :
    m.handOverDone now target ≠ m.stay [] := by
  intro silent
  simp only [handOverDone] at silent
  split at silent
  · cases congrArg Turn.outcome silent
  · split at silent <;> simp [state, phase_of_enter silent, Phase.state] at source

/-- An event that the state leaves to the fallback is stray, or news. -/
theorem stray_of_unanswered (h : m.inPhase now fresh e = none) :
    Stray m e ∨ e.isNews = true := by
  unfold inPhase at h
  cases e with
  | startNotifier =>
      refine Or.inl (.startNotifier fun source => ?_)
      cases hp : m.phase <;> simp_all [state, Phase.state, inStart]
  | initialOldest oldest safe =>
      refine Or.inl (.initialOldest fun source => ?_)
      cases hp : m.phase with
      | start =>
          simp only [hp, inStart] at h
          split at h
          · split at h <;> simp at h
          · simp at h
      | _ => simp [state, Phase.state, hp] at source
  | oldestChanged oldest =>
      refine Or.inl (.oldestChanged (fun source => ?_) fun source => ?_)
      · cases hp : m.phase with
        | younger known =>
            simp only [hp, inYounger] at h
            split at h
            · split at h
              · split at h <;> simp at h
              · simp at h
            · simp at h
        | _ => simp [state, Phase.state, hp] at source
      · cases hp : m.phase with
        | oldest unit unitEnded =>
            simp only [hp, inOldest] at h
            split at h
            · split at h
              · simp at h
              · split at h <;> simp at h
            · simp at h
        | _ => simp [state, Phase.state, hp] at source
  | peer sender message =>
      cases message with
      | handOverToMe =>
          refine Or.inl (.handOverToMe (fun source => ?_) (fun source => ?_) fun unit hp => ?_)
          · cases hp : m.phase <;> simp_all [state, Phase.state, inOldest]
          · cases hp : m.phase <;> simp_all [state, Phase.state, inWasOldest]
          · simp [hp, inHandingOver] at h
      | handOverInProgress =>
          refine Or.inl (.handOverInProgress fun source => ?_)
          cases hp : m.phase <;> simp_all [state, Phase.state, inBecomingOldest]
      | handOverDone => exact Or.inl (.handOverDone fun hp => by simp [hp, inBecomingOldest] at h)
      | takeOverFromMe =>
          refine Or.inl (.takeOverFromMe (fun hp => ?_) fun hp => ?_)
          · simp [hp, inBecomingOldest] at h
          · simp [hp, inBecomingOldest] at h
  | handOverRetry count =>
      refine Or.inl (.handOverRetry fun source => ?_)
      cases hp : m.phase <;> simp_all [state, Phase.state, inBecomingOldest]
  | takeOverRetry count =>
      refine Or.inl (.takeOverRetry fun source => ?_)
      cases hp : m.phase <;> simp_all [state, Phase.state, inWasOldest]
  | unitTerminated unit =>
      refine Or.inl (.unitTerminated fun source => ?_)
      cases hp : m.phase <;>
        simp_all [Phase.unit?, inOldest, inWasOldest, inHandingOver, inStopping]
  | currentClusterState => exact Or.inl .currentClusterState
  | _ => exact Or.inr rfl

theorem Row.stray_of_silent {t : Turn} (row : Row m now fresh e t) (silent : t = m.stay []) :
    Stray m e ∨ Repeated m e ∨ e.isNews = true := by
  cases row with
  | ignores unanswered => exact (stray_of_unanswered unanswered).imp_right Or.inr
  | refusesDone h other => exact Or.inl (.handOverDone (by simpa [h] using other))
  | refusesTakeOver h other =>
      exact Or.inl (.takeOverFromMe (by simp [h]) (by simpa [h] using other))
  | hearsItself h =>
      refine Or.inr (Or.inl (.ownName h ?_))
      exact (congrArg (fun t => t.machine.noticeReceived) silent).symm
  | unitEndsAsOldest h =>
      have ended : Phase.oldest _ true = m.phase := congrArg (fun t => t.machine.phase) silent
      exact Or.inr (Or.inl (.endAsOldest ended.symm))
  | unitEndsAsWasOldest h =>
      have ended : Phase.wasOldest _ true _ = m.phase := congrArg (fun t => t.machine.phase) silent
      exact Or.inr (Or.inl (.endAsWasOldest ended.symm))
  | hosts =>
      have effects := congrArg Turn.effects silent
      rw [host, enter_effects] at effects
      cases effects
  | handsOver reason =>
      exact absurd silent (not_silent_of_departure (handOver_departs ..) reason.source)
  | endsQuietly h | findsNobody h =>
      exact absurd silent
        (not_silent_of_departure (windDown_departs ..) (Or.inr (congrArg Phase.state h)))
  | completes h => exact absurd silent (handOverDone_not_silent (congrArg Phase.state h))
  | unsafeFromStart h | waitsFromStart h | asksPrevious h | yields h =>
      rw [phase_of_enter silent] at h
      cases h
  | forgets => exact Or.inr (Or.inr rfl)
  | retriesHandOver | retriesTakeOver =>
      have effects := congrArg Turn.effects silent
      simp at effects
  | selfRemovedWaiting | overflowsHandOver | quitsHandOver | stuckHandOver | overflowsTakeOver
  | stuckTakeOver | selfRemovedAsWasOldest | unitEndsStopping | selfRemovedAtEnd => cases congrArg Turn.outcome silent
  | _ => cases congrArg Turn.effects silent

/-! ## What a running machine does not heed -/

/-- **Stray events change nothing.** A machine that is not terminated leaves everything as it is when
an event is stray, asks for nothing and goes on; and it does so of no other event, unless that repeats
what the machine was told or is news of the membership. -/
theorem stray_unheeded {m : Machine} (running : m.terminated = false) (now : Nat) (fresh : UnitId)
    (e : Event) :
    (Stray m e → m.handle now fresh e = ⟨m, [], .proceed⟩) ∧
      (m.handle now fresh e = ⟨m, [], .proceed⟩ → Stray m e ∨ Repeated m e ∨ e.isNews = true) :=
  ⟨(handle_row running e).unheeded, (handle_row running e).stray_of_silent⟩

/-- A node that waits for the unit of `a`. -/
def waitingForA : Machine :=
  (Profile.mk ⟨"b"⟩ ⟨5, 2⟩ 1000 2000 900000).machine.run
    [⟨0, .nth 0, .startNotifier⟩, ⟨0, .nth 0, .initialOldest (some ⟨"a"⟩) true⟩,
      ⟨10, .nth 0, .memberRemoved ⟨"c"⟩⟩, ⟨20, .nth 0, .oldestChanged (some ⟨"b"⟩)⟩]

/-- Such a node does not take the unit from `c`. -/
theorem stray_unheeded_wrongSender :
    waitingForA.terminated = false ∧ Stray waitingForA (.peer ⟨"c"⟩ .handOverDone) ∧
      waitingForA.handle 30 (.nth 0) (.peer ⟨"c"⟩ .handOverDone) = ⟨waitingForA, [], .proceed⟩ ∧
      ¬ Stray waitingForA (.peer ⟨"a"⟩ .handOverDone) := by
  have running : waitingForA.terminated = false := by decide
  have stray : Stray waitingForA (.peer ⟨"c"⟩ .handOverDone) := .handOverDone (by decide)
  refine ⟨running, stray, (stray_unheeded running 30 (.nth 0) _).1 stray, ?_⟩
  intro expected
  cases expected with
  | handOverDone other => exact other (by decide)

end Machine

end ClusterSingleton
