import ClusterSingleton.Proofs.Retries.Numbers
import ClusterSingleton.Proofs.Units.Account

/-!
# A node does not wait to be asked for ever

A node that has heard of a new oldest keeps its unit until the new oldest asks for it, and at every
retry tells the new oldest once more that it may. `TakeOverAnswer` lists the answers to a retry, each
with the ground that it takes: whoever is to leave ends the unit as soon as there is nobody to tell or
the limit is passed; whoever stays ends it past the limit if nobody is left to take it over, and is
stuck else. `takeOver_retries_bounded` says that there is an end.
-/

namespace ClusterSingleton

/-- The node is to leave: the cluster has shut down, or the node itself has left. -/
def Leaving (node : Address) (log : List Entry) : Prop :=
  ∃ d ∈ log, d.event = .clusterShutdown ∨ d.event = .memberExited node

instance (node : Address) (log : List Entry) : Decidable (Leaving node log) :=
  inferInstanceAs (Decidable (∃ d ∈ log, _))

/-- The step gives the unit up with nobody to take it over: it tells the unit to end, unless the unit
has ended before; then the coordinator ends at once. -/
inductive Entry.EndsQuietly (e : Entry) (unit : UnitId) : Bool → Prop where
  | ended (outcome : e.turn.outcome = .stopped) (silent : e.effects = []) : EndsQuietly e unit true
  | told (phase : e.after.phase = .stopping unit) (outcome : e.turn.outcome = .proceed)
      (effects : e.effects = [.terminateUnit unit, .cancelTimer .takeOverRetry]) :
      EndsQuietly e unit false

/-- How a node that waits to be asked for its unit answers a retry. -/
inductive TakeOverAnswer (leaving : Prop) (e : Entry) (unit : UnitId) (unitEnded : Bool)
    (newOldest : Option Address) (count : UInt32) : Prop where
  | leaves (leaves : leaving) (nobody : newOldest = none ∨ e.before.limits.takeOver < count)
      (quiet : e.EndsQuietly unit unitEnded)
  | asksAgain (somebody : leaving → newOldest ≠ none) (within : count ≤ e.before.limits.takeOver)
      (again : e.AsksAgain .takeOverRetry count newOldest .takeOverFromMe)
  | findsNobody (stays : ¬ leaving) (exhausted : e.before.limits.takeOver < count)
      (gone : ∀ a, newOldest = some a → e.before.isRemoved a e.now = true)
      (quiet : e.EndsQuietly unit unitEnded)
  | stuck {a : Address} (stays : ¬ leaving) (exhausted : e.before.limits.takeOver < count)
      (known : newOldest = some a) (present : e.before.isRemoved a e.now = false)
      (outcome : e.turn.outcome = .fatal (Machine.takeOverStuck newOldest)) (silent : e.effects = [])

/-! ## One retry -/

section Answer

variable {e : Entry} {unit : UnitId} {unitEnded : Bool} {newOldest : Option Address} {count : UInt32}

theorem endsQuietly_of_windDown (waiting : e.before.phase = .wasOldest unit unitEnded newOldest)
    (turn : e.turn = e.before.windDown e.now unit unitEnded) : e.EndsQuietly unit unitEnded := by
  rw [Machine.windDown] at turn
  cases unitEnded with
  | true =>
      constructor
      · exact congrArg Turn.outcome turn
      · exact congrArg Turn.effects turn
  | false =>
      have place : e.before.state = .wasOldest := congrArg Phase.state waiting
      constructor
      · exact congrArg (fun t : Turn => t.machine.phase) turn
      · exact congrArg Turn.outcome turn
      · rw [Entry.effects, turn, if_neg Bool.false_ne_true, Machine.enter_effects, place]
        rfl

theorem takeOverAnswer {leaving : Prop} (running : e.before.terminated = false)
    (waiting : e.before.phase = .wasOldest unit unitEnded newOldest)
    (retry : e.event = .takeOverRetry count)
    (bounded : e.before.limits.takeOver.toNat < RetryLimits.bound)
    (told : leaving ↔ e.before.clusterTerminated = true ∨ e.before.selfExited = true) :
    TakeOverAnswer leaving e unit unitEnded newOldest count := by
  have row := e.row running
  have stays (going : e.before.clusterTerminated = false ∧ e.before.selfExited = false) :
      ¬ leaving := by
    rw [told, going.1, going.2]
    rintro (⟨⟨⟩⟩ | ⟨⟨⟩⟩)
  -- with a name for the turn the rows of the table can be told apart
  obtain ⟨t, turn⟩ : ∃ t, e.turn = t := ⟨_, rfl⟩
  rw [retry, turn] at row
  cases row with
  | endsQuietly h leaves nobody =>
      cases waiting.symm.trans h
      exact .leaves (told.mpr leaves) nobody (endsQuietly_of_windDown waiting turn)
  | retriesTakeOver h within fits somebody =>
      cases waiting.symm.trans h
      refine .asksAgain ?_ within (asksAgain_of_turn turn fits)
      intro leaves none
      exact stays (somebody none) leaves
  | overflowsTakeOver h within last =>
      have le : count.toNat ≤ e.before.limits.takeOver.toNat := UInt32.le_iff_toNat_le.mp within
      omega
  | findsNobody h exhausted gone =>
      cases waiting.symm.trans h
      have quiet := endsQuietly_of_windDown waiting turn
      -- past the limit a node that is to leave does not look whether anybody is left
      by_cases leaves : leaving
      · exact .leaves leaves (Or.inr exhausted) quiet
      · exact .findsNobody leaves exhausted gone quiet
  | stuckTakeOver h exhausted going known =>
      cases waiting.symm.trans h
      exact .stuck (stays going) exhausted rfl known (congrArg Turn.outcome turn)
        (congrArg Turn.effects turn)
  | hosts grounds => cases grounds
  | handsOver reason => cases reason
  | ignores unheard =>
      have place : e.before.state.timer? = some .takeOverRetry := by rw [Machine.state, waiting]; rfl
      exact absurd unheard (Machine.inPhase_fire count place)

end Answer

/-! ## The stay -/

/-- A node that is `wasOldest` after a step was the oldest before and has heard of a new oldest, or it
was `wasOldest` for the same one before. -/
theorem Machine.Row.wasOldest_cases {m : Machine} {now : Nat} {fresh : UnitId} {e : Event} {t : Turn}
    {unit : UnitId} {unitEnded : Bool} {newOldest : Option Address} (row : Row m now fresh e t)
    (after : t.machine.phase = .wasOldest unit unitEnded newOldest) :
    (e = .oldestChanged newOldest ∧ m.phase = .oldest unit unitEnded) ∨
      ∃ before, m.phase = .wasOldest unit before newOldest := by
  -- whoever parts from its unit goes elsewhere, or stops where it was
  have departs {m' : Machine} (h : Departure m' now t) (same : m'.phase = m.phase) :
      m.phase = .wasOldest unit unitEnded newOldest := by
    have place : t.machine.state = .wasOldest := congrArg Phase.state after
    rw [← same, ← after]
    exact (h.phase (by rw [place]; decide)).symm
  cases row with
  | yields h =>
      rw [yieldTo, enter_machine] at after
      cases after
      exact Or.inl ⟨rfl, h⟩
  | unitEndsAsWasOldest h =>
      cases after
      exact Or.inr ⟨_, h⟩
  | handsOver reason => exact Or.inr ⟨_, departs (handOver_departs ..) reason.phase⟩
  | completes => exact Or.inr ⟨_, departs (handOverDone_departs _) rfl⟩
  | endsQuietly | findsNobody => exact Or.inr ⟨_, departs (windDown_departs ..) rfl⟩
  | hosts =>
      rw [host, enter_machine] at after
      cases after
  | unsafeFromStart | waitsFromStart | asksPrevious =>
      rw [enter_machine] at after
      cases after
  | ignores => exact Or.inr ⟨_, fallback_frame.1.symm.trans after⟩
  | follows | forgets | adopts | unitEndsAsOldest => cases after
  | _ => exact Or.inr ⟨_, after⟩

section Wait

variable {p : Profile} {xs : List Input} {pre stay post mid rest : List Entry} {enter f : Entry}

/-- The unit and the new oldest stay the same as long as a node waits to be asked. -/
theorem Stay.wasOldest_phase (wait : Stay p xs .wasOldest pre enter stay post) :
    ∃ unit newOldest, enter.event = .oldestChanged newOldest ∧
      ∀ mid f rest, stay = mid ++ f :: rest →
        ∃ unitEnded, f.before.phase = .wasOldest unit unitEnded newOldest := by
  obtain ⟨unit, unitEnded, newOldest, arrives⟩ := Machine.phase_of_wasOldest wait.after
  have entry := enter.row wait.running_enter
  refine ⟨unit, newOldest, ?_, ?_⟩
  · rcases entry.wasOldest_cases arrives with ⟨event, -⟩ | ⟨ended, before⟩
    · exact event
    · exact absurd (congrArg Phase.state before) wait.before
  · refine wait.induction (J := fun _ m => ∃ unitEnded, m.phase = .wasOldest unit unitEnded newOldest)
      ⟨unitEnded, arrives⟩ ?_
    intro mid f rest split before after going
    obtain ⟨_, here⟩ := before
    obtain ⟨_, _, _, there⟩ := Machine.phase_of_wasOldest after
    rcases (f.row (wait.inside f (by simp [split])).2).wasOldest_cases there with ⟨-, other⟩ | ⟨ended, same⟩
    · cases here.symm.trans other
    · cases here.symm.trans same
      exact ⟨_, there⟩

/-- A node knows whether it is to leave. -/
theorem leaving_iff {e : Entry} (place : p.machine.history xs = pre ++ e :: post)
    (running : e.before.terminated = false) :
    Leaving p.self pre ↔ e.before.clusterTerminated = true ∨ e.before.selfExited = true := by
  rw [Machine.clusterTerminated_iff place running, Machine.selfExited_iff place running, Leaving]
  simp only [and_or_left, exists_or]

/-- An answer that does not ask again ends the stay. -/
theorem TakeOverAnswer.ends {leaving : Prop} {unit : UnitId} {unitEnded : Bool}
    {newOldest : Option Address} {count : UInt32}
    (answer : TakeOverAnswer leaving f unit unitEnded newOldest count)
    (silent : ¬ f.AsksAgain .takeOverRetry count newOldest .takeOverFromMe)
    (there : f.after.state = .wasOldest) : f.after.terminated = true := by
  have of_quiet (quiet : f.EndsQuietly unit unitEnded) : f.after.terminated = true := by
    cases quiet with
    | ended outcome => exact Entry.terminated_iff.mpr (by rw [outcome]; decide)
    | told phase => cases there.symm.trans (congrArg Phase.state phase)
  cases answer with
  | asksAgain _ _ again => exact absurd again silent
  | leaves _ _ quiet => exact of_quiet quiet
  | findsNobody _ _ _ quiet => exact of_quiet quiet
  | stuck _ _ _ _ outcome => exact Entry.terminated_iff.mpr (by rw [outcome]; rintro ⟨⟩)

/-- **A node does not wait to be asked for ever.** Say all take-over retries are those of the node's
own timer, and the node waits to be asked for its unit. Then it handles at most one retry more than
the limit allows. The unit and the new oldest stay the same, and only a retry is fatal. The `n`-th
retry carries the number `n` and is answered as the shutdown of the cluster, the exit of the node,
the removal of the new oldest and the limit have it; an answer that does not ask again is the last. -/
theorem takeOver_retries_bounded (bounded : p.limits.takeOver.toNat < RetryLimits.bound)
    (retries : OwnRetries .takeOverRetry (p.machine.history xs))
    (wait : Stay p xs .wasOldest pre enter stay post) :
    retryCount .takeOverRetry stay ≤ p.limits.takeOver.toNat + 1 ∧
      ∃ unit newOldest, enter.event = .oldestChanged newOldest ∧
        ∀ mid f rest, stay = mid ++ f :: rest → ∃ unitEnded,
          f.before.phase = .wasOldest unit unitEnded newOldest ∧
          Account.ofHistory (pre ++ enter :: mid) = some ⟨unit, false, unitEnded, false⟩ ∧
          (∀ error, f.turn.outcome = .fatal error → ∃ count, f.event = .takeOverRetry count) ∧
          ∀ count, f.event = .takeOverRetry count →
            count.toNat = retryCount .takeOverRetry mid + 1 ∧
            TakeOverAnswer (Leaving p.self (pre ++ enter :: mid)) f unit unitEnded newOldest count ∧
            (rest ≠ [] → f.AsksAgain .takeOverRetry count newOldest .takeOverFromMe) := by
  have own : State.wasOldest.timer? = some .takeOverRetry := rfl
  refine ⟨wait.retryCount_le own retries, ?_⟩
  obtain ⟨unit, newOldest, announced, phases⟩ := wait.wasOldest_phase
  refine ⟨unit, newOldest, announced, ?_⟩
  intro mid f rest split
  obtain ⟨unitEnded, waiting⟩ := phases mid f rest split
  obtain ⟨-, running⟩ := wait.inside f (by simp [split])
  have place := wait.place_of_split split
  refine ⟨unitEnded, waiting, ?_, ?_, ?_⟩
  · -- what the phase says of the unit is what the history says
    obtain ⟨ys, -, -, earlier, before⟩ := Machine.history_split place
    rw [earlier]
    rw [before] at running waiting
    exact (Account.accounts_agree p ys).hosted running unit unitEnded (by rw [waiting]; rfl)
  · intro error fatal
    have stuck := (Entry.stuck_of_fatal fatal).1
    generalize f.event = event at stuck
    cases stuck with
    | handOver h => cases waiting.symm.trans h
    | takeOver => exact ⟨_, rfl⟩
  · intro count retry
    have limited : f.before.limits.takeOver.toNat < RetryLimits.bound := by
      rw [wait.limits split]
      exact bounded
    have answer := takeOverAnswer running waiting retry limited (leaving_iff place running)
    refine ⟨(wait.retry_number own retries split retry).1, answer, ?_⟩
    intro more
    by_contra silent
    exact more (wait.last split (answer.ends silent))

end Wait

/-- A node leaves while it waits to be asked. -/
def leavesUnasked : List Input :=
  [⟨0, .nth 0, .startNotifier⟩, ⟨0, .nth 1, .initialOldest (some ⟨"a"⟩) true⟩,
    ⟨10, .nth 0, .oldestChanged (some ⟨"b"⟩)⟩, ⟨20, .nth 0, .memberRemoved ⟨"c"⟩⟩,
    ⟨1010, .nth 0, .takeOverRetry 1⟩, ⟨1500, .nth 0, .memberExited ⟨"a"⟩⟩,
    ⟨2010, .nth 0, .takeOverRetry 2⟩]

/-- The first retry tells `b` once more; the second is one more than the limit and ends the unit. -/
theorem takeOver_retries_bounded_exited :
    let p : Profile := ⟨⟨"a"⟩, ⟨5, 1⟩, 1000, 2000, 900000⟩
    let log := p.machine.history leavesUnasked
    let first := log[4]
    let second := log[6]
    OwnRetries .takeOverRetry log ∧
      retryCount .takeOverRetry (log.drop 3) = p.limits.takeOver.toNat + 1 ∧
      first.AsksAgain .takeOverRetry 1 (some ⟨"b"⟩) .takeOverFromMe ∧
      second.EndsQuietly (.nth 1) false := by
  intro p log first second
  have retries : OwnRetries .takeOverRetry log := by decide
  have wait : Stay p leavesUnasked .wasOldest (log.take 2) log[2] (log.drop 3) [] :=
    { place := by decide, before := by decide, after := by decide, inside := by decide }
  obtain ⟨-, unit, newOldest, announced, steps⟩ :=
    takeOver_retries_bounded (by decide) retries wait
  obtain rfl : some ⟨"b"⟩ = newOldest := Event.oldestChanged.inj announced
  refine ⟨retries, by decide, ?_, ?_⟩
  · obtain ⟨_, -, -, -, answers⟩ := steps ((log.drop 3).take 1) first (log.drop 5) (by decide)
    obtain ⟨-, -, again⟩ := answers 1 (by decide)
    exact again (by decide)
  · obtain ⟨unitEnded, waiting, -, -, answers⟩ := steps ((log.drop 3).take 3) second [] (by decide)
    have phase : second.before.phase = .wasOldest (.nth 1) false (some ⟨"b"⟩) := by decide
    obtain ⟨rfl, rfl, -⟩ := Phase.wasOldest.inj (waiting.symm.trans phase)
    obtain ⟨-, answer, -⟩ := answers 2 (by decide)
    cases answer with
    | leaves _ _ quiet => exact quiet
    | asksAgain _ within => exact absurd within (by decide)
    | findsNobody _ _ _ quiet => exact quiet
    | stuck stays => exact absurd (by decide) stays

end ClusterSingleton
