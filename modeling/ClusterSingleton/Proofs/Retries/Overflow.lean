import ClusterSingleton.Proofs.Retries.HandOver

/-!
# Where the numbers of the retries come to an end

A retry is numbered one more than the retry that it follows on, in 32 bits. `next_number` says where
there is no such number, and the step breaks off: after the retry with the largest number, which only
a hand-over can be allowed. Such a limit is never passed, so that a node that waits for the unit is
never stuck (`Stay.breaksOff`).
-/

namespace ClusterSingleton

open RetryLimits (AtBound bound)

section Step

variable {m : Machine} {now : Nat} {fresh : UnitId} {key : TimerKey} {count : UInt32}

/-- A retry that starts a timer was within the limit and has a number after it, and starts its own. -/
theorem Machine.starts_of_retry {k : TimerKey} {event : Event} {after : Nat}
    (place : m.state.timer? = some key)
    (mem : .startTimer k event after ∈ (m.handle now fresh (key.fire count)).effects) :
    k = key ∧ event = key.fire (count + 1) ∧ after = m.retryInterval ∧
      count ≤ m.limits.limit key ∧ count.toNat < bound := by
  obtain ⟨-, interval, start⟩ := timerStart_of_mem mem
  cases start with
  | first before => cases before.symm.trans place
  | next before fires within fits =>
      obtain rfl : k = key := Option.some.inj (before.symm.trans place)
      obtain rfl := fire_count place fires
      exact ⟨rfl, rfl, interval, within, fits⟩

/-- A node that waits for the unit breaks off at the retry with the largest number, if it is allowed. -/
theorem Entry.breaksOff {e : Entry} (running : e.before.terminated = false)
    (waiting : e.before.state = .becomingOldest) (retry : e.event = .handOverRetry count)
    (within : count ≤ e.before.limits.handOver) (last : count.toNat = bound) :
    e.turn = e.before.breakOff := by
  obtain ⟨previous, phase⟩ := Machine.phase_of_becomingOldest waiting
  have none : ¬ count.toNat < bound := Nat.not_lt.mpr (Nat.le_of_eq last.symm)
  rw [Entry.turn_handOverRetry running phase retry, Machine.retryHandOver, if_pos within,
    Machine.askAgain, if_neg none]

/-- Only the limit of a hand-over leaves no number above it. -/
theorem Machine.Overflows.atBound {margin interval : Nat} {minimum : UInt32} {e : Event}
    (limited : RetryLimits.create margin interval minimum = .ok m.limits) (h : m.Overflows e) :
    m.state = .becomingOldest ∧ AtBound margin interval minimum ∧
      ∃ count, e = .handOverRetry count ∧ count.toNat = bound := by
  cases h with
  | @handOver previous count phase within last =>
      have limit := UInt32.le_iff_toNat_le.mp within
      have largest : m.limits.handOver.toNat = bound :=
        Nat.le_antisymm (Nat.le_of_lt_succ m.limits.handOver.toNat_lt) (Nat.le_trans last limit)
      exact ⟨congrArg Phase.state phase, (RetryLimits.handOver_eq_bound_iff limited).mp largest, count,
        rfl, Nat.le_antisymm (Nat.le_of_lt_succ count.toNat_lt) last⟩
  | takeOver phase within last =>
      have limit := UInt32.le_iff_toNat_le.mp within
      exact absurd (RetryLimits.takeOver_lt limited) (Nat.not_lt.mpr (Nat.le_trans last limit))

end Step

/-- **The number of the next retry.** Whatever the margin, the interval and the minimum that the limits
were derived from: a machine that answers a retry in its state starts no other timer than for the next
retry, whose number is one more. There is no such number exactly where a node that waits for the unit
answers the retry with the largest number, and its limit was cut at that number: there the step
breaks off. -/
theorem next_number {margin interval : Nat} {minimum : UInt32} {m : Machine}
    (limited : RetryLimits.create margin interval minimum = .ok m.limits) (now : Nat)
    (fresh : UnitId) :
    (∀ key count, m.state.timer? = some key → ∀ k event after,
      .startTimer k event after ∈ (m.handle now fresh (key.fire count)).effects →
        k = key ∧ after = m.retryInterval ∧ count ≤ m.limits.limit key ∧
          ∃ next : UInt32, event = key.fire next ∧ next.toNat = count.toNat + 1) ∧
    ∀ e, (m.handle now fresh e).outcome = .overflow ↔
      m.terminated = false ∧ m.state = .becomingOldest ∧ AtBound margin interval minimum ∧
        ∃ count, e = .handOverRetry count ∧ count.toNat = bound := by
  constructor
  · intro key count place k event after mem
    obtain ⟨rfl, rfl, rfl, within, fits⟩ := Machine.starts_of_retry place mem
    exact ⟨rfl, rfl, within, count + 1, rfl, RetryLimits.toNat_succ fits⟩
  · intro e
    constructor
    · intro breaks
      cases done : m.terminated with
      | true =>
          rw [Machine.handle_terminated done] at breaks
          cases breaks
      | false =>
          have row : m.Row now fresh e (m.handle now fresh e) := Machine.handle_row done e
          exact ⟨rfl, (row.overflows_of_outcome done breaks).atBound limited⟩
    · rintro ⟨running, waiting, atBound, count, rfl, last⟩
      have largest := (RetryLimits.handOver_eq_bound_iff limited).mpr atBound
      have within : count ≤ m.limits.handOver :=
        UInt32.le_iff_toNat_le.mpr (Nat.le_of_eq (last.trans largest.symm))
      exact congrArg Turn.outcome
        (Entry.breaksOff (e := ⟨⟨now, fresh, .handOverRetry count⟩, m⟩) running waiting rfl within last)

/-- With the longest margin or the largest minimum: the last retry of a hand-over has none after it,
that of a take-over has. -/
theorem next_number_largest :
    let limits : RetryLimits := ⟨4294967295, 4294967292⟩
    let node : Machine := (Profile.mk ⟨"b"⟩ limits 1000 0 900000).machine
    let asks := node.run [⟨0, .nth 0, .startNotifier⟩, ⟨0, .nth 0, .initialOldest (some ⟨"a"⟩) true⟩,
      ⟨20, .nth 0, .oldestChanged (some ⟨"b"⟩)⟩]
    let yields := node.run [⟨0, .nth 0, .startNotifier⟩, ⟨0, .nth 1, .initialOldest (some ⟨"b"⟩) true⟩,
      ⟨20, .nth 0, .oldestChanged (some ⟨"c"⟩)⟩]
    RetryLimits.create 4294967292000 1000 1 = .ok limits ∧
      RetryLimits.create 0 1000 4294967295 = .ok limits ∧
      (asks.handle 3000 (.nth 0) (.handOverRetry 4294967295)).outcome = .overflow ∧
      (yields.handle 3000 (.nth 0) (.takeOverRetry 4294967292)).outcome ≠ .overflow ∧
      .startTimer .takeOverRetry (.takeOverRetry 4294967293) 1000 ∈
        (yields.handle 3000 (.nth 0) (.takeOverRetry 4294967292)).effects := by
  intro limits node asks yields
  have margin : RetryLimits.create 4294967292000 1000 1 = .ok limits := by decide
  have minimum : RetryLimits.create 0 1000 4294967295 = .ok limits := by decide
  obtain ⟨-, asking⟩ := next_number (m := asks) minimum 3000 (.nth 0)
  obtain ⟨-, yielding⟩ := next_number (m := yields) margin 3000 (.nth 0)
  refine ⟨margin, minimum, ?_, fun breaks => ?_, by decide⟩
  · exact (asking _).mpr ⟨by decide, by decide, Or.inr (by decide), _, rfl, by decide⟩
  · obtain ⟨-, waiting, -⟩ := (yielding _).mp breaks
    exact absurd waiting (by decide)

/-! ## The wait that is never stuck -/

/-- **If the limit is the largest number there is, a node that waits for the unit is never stuck**: it
asks again at every retry, until it breaks off at the retry with that number. -/
theorem Stay.breaksOff {p : Profile} {minimum : UInt32} {xs : List Input} {pre stay post : List Entry}
    {enter f : Entry}
    (limited : RetryLimits.create p.removalMargin p.retryInterval minimum = .ok p.limits)
    (atBound : AtBound p.removalMargin p.retryInterval minimum)
    (wait : Stay p xs .becomingOldest pre enter stay post) (mem : f ∈ stay) :
    (∀ error, f.turn.outcome ≠ .fatal error) ∧
      ∀ count, f.event = .handOverRetry count →
        (count.toNat < bound → f.after = f.before) ∧ (count.toNat = bound → f.turn = f.before.breakOff) := by
  have largest := (RetryLimits.handOver_eq_bound_iff limited).mpr atBound
  have allowed (count : UInt32) : count ≤ p.limits.handOver := by
    rw [UInt32.le_iff_toNat_le, largest]
    exact Nat.le_of_lt_succ count.toNat_lt
  obtain ⟨mid, rest, split⟩ := List.append_of_mem mem
  obtain ⟨here, running⟩ := wait.inside f mem
  refine ⟨wait.not_fatal mem fun count _ => allowed count, fun count retry => ?_⟩
  have within : count ≤ f.before.limits.handOver := wait.limits split ▸ allowed count
  refine ⟨fun fits => ?_, fun last => Entry.breaksOff running here retry within last⟩
  obtain ⟨previous, waiting⟩ := Machine.phase_of_becomingOldest here
  exact congrArg Turn.machine (Entry.turn_asksAgain running waiting retry within fits)

end ClusterSingleton
