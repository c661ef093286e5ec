import ClusterSingleton.Proofs.Retries.Budget
import ClusterSingleton.Proofs.Retries.Numbers

/-!
# A node does not ask for the unit for ever

A node that is to become the oldest asks the previous one for the unit, and asks again at every retry.
`handOver_retries_bounded` says how often, and how the wait ends when the limit is passed: with the
unit started here if the previous oldest is known to be removed, with the end of the coordinator if
the cluster has shut down, and with an error else.
-/

namespace ClusterSingleton

/-- How a wait for the unit of the previous oldest ends that has used up its retries. -/
inductive WaitOver (log : List Entry) (e : Entry) (previous : Option Address) : Prop where
  | takesOver {a : Address} (known : previous = some a) (gone : e.before.isRemoved a e.now = true)
      (starts : e.starts e.fresh) (oldest : e.after.phase = .oldest e.fresh false)
      (outcome : e.turn.outcome = .proceed)
  | stops (present : ∀ a, previous = some a → e.before.isRemoved a e.now = false)
      (shutDown : ∃ d ∈ log, d.event = .clusterShutdown) (silent : e.effects = [])
      (outcome : e.turn.outcome = .stopped)
  | stuck (present : ∀ a, previous = some a → e.before.isRemoved a e.now = false)
      (running : ∀ d ∈ log, d.event ≠ .clusterShutdown) (silent : e.effects = [])
      (outcome : e.turn.outcome = .fatal (Machine.handOverStuck previous))

section Answer

variable {e : Entry} {previous : Option Address} {count : UInt32}
  (running : e.before.terminated = false) (waiting : e.before.phase = .becomingOldest previous)
  (retry : e.event = .handOverRetry count)

include running waiting retry

theorem asksAgain_handOver (within : count ≤ e.before.limits.handOver)
    (bounded : e.before.limits.handOver.toNat < RetryLimits.bound) :
    e.AsksAgain .handOverRetry count previous .handOverToMe := by
  have fits : count.toNat < RetryLimits.bound :=
    Nat.lt_of_le_of_lt (UInt32.le_iff_toNat_le.mp within) bounded
  exact asksAgain_of_turn (Entry.turn_asksAgain running waiting retry within fits) fits

theorem waitOver_of_exhausted {log : List Entry} (exhausted : e.before.limits.handOver < count)
    (shutDown : e.before.clusterTerminated = true ↔ ∃ d ∈ log, d.event = .clusterShutdown) :
    WaitOver log e previous := by
  have turn := Entry.turn_handOverRetry running waiting retry
  rw [Machine.retryHandOver, if_neg (UInt32.not_le.mpr exhausted)] at turn
  cases gone : e.before.knownRemoved previous e.now with
  | true =>
      rw [gone, if_pos rfl] at turn
      cases previous with
      | none => cases gone
      | some a =>
          refine .takesOver rfl gone ?_ ?_ ?_
          · rw [Entry.starts, Entry.effects, turn, Machine.host, Machine.enter_effects]
            simp
          · rw [Entry.after, turn, Machine.host, Machine.enter_machine]
          · rw [turn]
            rfl
  | false =>
      rw [gone, if_neg Bool.false_ne_true] at turn
      have present : ∀ a, previous = some a → e.before.isRemoved a e.now = false := by
        rintro a rfl
        exact gone
      cases ended : e.before.clusterTerminated with
      | true =>
          rw [ended, if_pos rfl] at turn
          refine .stops present (shutDown.mp ended) ?_ ?_
          · exact congrArg Turn.effects turn
          · rw [turn]
            rfl
      | false =>
          rw [ended, if_neg Bool.false_ne_true] at turn
          refine .stuck present ?_ ?_ ?_
          · intro d mem event
            rw [shutDown.mpr ⟨d, mem, event⟩] at ended
            cases ended
          · exact congrArg Turn.effects turn
          · rw [turn]
            rfl

end Answer

section Wait

variable {p : Profile} {xs : List Input} {pre stay post mid rest : List Entry} {enter f : Entry}

/-- Whom a node asks stays the same once it is known. -/
theorem Stay.tracks_onward {a : Address} (wait : Stay p xs .becomingOldest pre enter stay post)
    (split : stay = mid ++ f :: rest) (known : f.before.phase = .becomingOldest (some a)) :
    ∀ g ∈ f :: rest, g.before.phase = .becomingOldest (some a) ∧
      (g.after.state = .becomingOldest → g.after.phase = .becomingOldest (some a)) := by
  have tracks : ∀ d ∈ stay, d.before.phase = .becomingOldest (some a) →
      d.after.state = .becomingOldest → d.after.phase = .becomingOldest (some a) := by
    intro d inside before after
    exact (d.row (wait.inside d inside).2).tracks before after
  intro g mem
  have there := wait.onward (J := fun m => m.phase = .becomingOldest (some a)) tracks split known g mem
  exact ⟨there, tracks g (by rw [split]; exact List.mem_append_right _ mem) there⟩

/-- **A node does not ask for the unit for ever.** Say all hand-over retries are those of the node's own
timer, and the node waits for the unit of the previous oldest. Then it handles at most one retry more
than the limit allows. Whom it asks stays the same once it is known, and only the retry beyond the
limit is fatal. The `n`-th retry carries the number `n`: within the limit it is answered by one request
to the previous oldest and a retry with the next number; beyond the limit it ends the wait. -/
theorem handOver_retries_bounded (bounded : p.limits.handOver.toNat < RetryLimits.bound)
    (retries : OwnRetries .handOverRetry (p.machine.history xs))
    (wait : Stay p xs .becomingOldest pre enter stay post) :
    retryCount .handOverRetry stay ≤ p.limits.handOver.toNat + 1 ∧
      ∀ mid f rest, stay = mid ++ f :: rest →
        (∀ a, f.before.phase = .becomingOldest (some a) → ∀ g ∈ f :: rest,
          g.before.phase = .becomingOldest (some a) ∧
            (g.after.state = .becomingOldest → g.after.phase = .becomingOldest (some a))) ∧
        (∀ error, f.turn.outcome = .fatal error →
          ∃ count, f.event = .handOverRetry count ∧ count.toNat = p.limits.handOver.toNat + 1) ∧
        ∀ count, f.event = .handOverRetry count →
          count.toNat = retryCount .handOverRetry mid + 1 ∧
          ∃ previous, f.before.phase = .becomingOldest previous ∧
            (count.toNat ≤ p.limits.handOver.toNat →
              f.AsksAgain .handOverRetry count previous .handOverToMe) ∧
            (p.limits.handOver.toNat < count.toNat →
              count.toNat = p.limits.handOver.toNat + 1 ∧ rest = [] ∧
                WaitOver (pre ++ enter :: mid) f previous) := by
  have own : State.becomingOldest.timer? = some .handOverRetry := rfl
  refine ⟨wait.retryCount_le own retries, ?_⟩
  intro mid f rest split
  obtain ⟨here, running⟩ := wait.inside f (by simp [split])
  have limits := wait.limits split
  -- the limit bounds the number before, so that a number beyond it is the next one
  have numbers {count : UInt32} (retry : f.event = .handOverRetry count) :
      count.toNat = retryCount .handOverRetry mid + 1 ∧
        retryCount .handOverRetry mid ≤ p.limits.handOver.toNat :=
    wait.retry_number own retries split retry
  refine ⟨fun a known => wait.tracks_onward split known, ?_, ?_⟩
  · intro error fatal
    obtain ⟨count, retry, exhausted⟩ := wait.exhausted_of_fatal (by simp [split]) fatal
    obtain ⟨number, limited⟩ := numbers retry
    rw [UInt32.lt_iff_toNat_lt] at exhausted
    exact ⟨count, retry, by omega⟩
  · intro count retry
    obtain ⟨number, limited⟩ := numbers retry
    obtain ⟨previous, waiting⟩ := Machine.phase_of_becomingOldest here
    refine ⟨number, previous, waiting, ?_, ?_⟩
    · intro within
      rw [← UInt32.le_iff_toNat_le, ← limits] at within
      rw [← limits] at bounded
      exact asksAgain_handOver running waiting retry within bounded
    · intro exhausted
      refine ⟨by omega, ?_⟩
      rw [← UInt32.lt_iff_toNat_lt, ← limits] at exhausted
      constructor
      · exact wait.last split (ends_of_exhausted own here running retry exhausted)
      · exact waitOver_of_exhausted running waiting retry exhausted
          (Machine.clusterTerminated_iff (wait.place_of_split split) running)

end Wait

/-- A node learns only while it waits whom to ask, and asks in vain until the cluster shuts down. -/
def asksWhomItHears : List Input :=
  [⟨0, .nth 0, .startNotifier⟩, ⟨0, .nth 0, .initialOldest (some ⟨"b"⟩) false⟩,
    ⟨1000, .nth 0, .handOverRetry 1⟩, ⟨1500, .nth 0, .peer ⟨"a"⟩ .takeOverFromMe⟩,
    ⟨1600, .nth 0, .peer ⟨"c"⟩ .takeOverFromMe⟩, ⟨2000, .nth 0, .handOverRetry 2⟩,
    ⟨2500, .nth 0, .clusterShutdown⟩, ⟨3000, .nth 0, .handOverRetry 3⟩]

/-- The second retry asks `a`, and the third is one more than the limit and ends the wait. -/
theorem handOver_retries_bounded_shutDown :
    let p : Profile := ⟨⟨"b"⟩, ⟨2, 1⟩, 1000, 2000, 900000⟩
    let log := p.machine.history asksWhomItHears
    let second := log[5]
    let third := log[7]
    OwnRetries .handOverRetry log ∧
      retryCount .handOverRetry (log.drop 2) = p.limits.handOver.toNat + 1 ∧
      second.AsksAgain .handOverRetry 2 (some ⟨"a"⟩) .handOverToMe ∧
      third.turn.outcome = .stopped := by
  intro p log second third
  have retries : OwnRetries .handOverRetry log := by decide
  have wait : Stay p asksWhomItHears .becomingOldest [log[0]] log[1] (log.drop 2) [] :=
    { place := by decide, before := by decide, after := by decide, inside := by decide }
  have answers := (handOver_retries_bounded (by decide) retries wait).2
  refine ⟨retries, by decide, ?_, ?_⟩
  · obtain ⟨-, -, answer⟩ := answers ((log.drop 2).take 3) second (log.drop 6) (by decide)
    obtain ⟨-, previous, waiting, within, -⟩ := answer 2 (by decide)
    have asked : second.before.phase = .becomingOldest (some ⟨"a"⟩) := by decide
    obtain rfl : previous = some ⟨"a"⟩ := Phase.becomingOldest.inj (waiting.symm.trans asked)
    exact within (by decide)
  · obtain ⟨-, -, answer⟩ := answers ((log.drop 2).take 5) third [] (by decide)
    obtain ⟨-, previous, waiting, -, beyond⟩ := answer 3 (by decide)
    obtain ⟨-, -, ending⟩ := beyond (by decide)
    cases ending with
    | takesOver known gone =>
        have asked : third.before.phase = .becomingOldest (some ⟨"a"⟩) := by decide
        obtain rfl := Phase.becomingOldest.inj (waiting.symm.trans asked)
        cases known
        exact absurd gone (by decide)
    | stops _ _ _ outcome => exact outcome
    | stuck _ running => exact absurd running (by decide)

end ClusterSingleton
