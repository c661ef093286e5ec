import ClusterSingleton.Proofs.Retries.Clock
import ClusterSingleton.Proofs.Units.Account

/-!
# The retry budget outlasts the removal margin

A node that asks a crashed member for the unit gives up after a number of retries. The limit is
derived from the removal margin so that the margin is over first: then the removal is certain, and
the node takes over instead of being stuck.
-/

namespace ClusterSingleton

namespace Machine

variable {m : Machine} {now : Nat} {fresh : UnitId} {e : Event}

/-- Whom a machine asks for the unit stays the same once it is known. -/
theorem Row.tracks {t : Turn} {a : Address} (row : Row m now fresh e t)
    (before : m.phase = .becomingOldest (some a)) (after : t.machine.state = .becomingOldest) :
    t.machine.phase = .becomingOldest (some a) := by
  cases row with
  | adopts h | follows h | forgets h | unitEndsAsOldest h | unitEndsAsWasOldest h
  | unsafeFromStart h | waitsFromStart h | asksPrevious h | yields h | completes h | endsQuietly h
  | findsNobody h => cases before.symm.trans h
  | hosts =>
      rw [host, enter_machine] at after
      cases after
  | handsOver reason => cases reason <;> simp_all
  | ignores => exact fallback_frame.1.trans before
  | _ => exact before

/-- A machine that asks for the unit is stuck only by a retry beyond the limit. -/
theorem Stuck.exhausted {error : Error} (stuck : Stuck m now e error)
    (place : m.state = .becomingOldest) :
    ∃ count, e = .handOverRetry count ∧ m.limits.handOver < count := by
  cases stuck with
  | handOver h exhausted => exact ⟨_, rfl, exhausted⟩
  | takeOver h => cases place.symm.trans (congrArg Phase.state h)

theorem Departure.elsewhere {t : Turn} (h : Departure m now t) (before : m.state ≠ .becomingOldest) :
    t.machine.state ≠ .becomingOldest := by
  intro becoming
  have same : t.machine.phase = m.phase := h.phase (by rw [becoming]; decide)
  exact before ((congrArg Phase.state same).symm.trans becoming)

/-- A machine begins to ask for the unit when the notifier names it. -/
theorem Row.asks_of_enter {t : Turn} (row : Row m now fresh e t)
    (before : m.state ≠ .becomingOldest) (after : t.machine.state = .becomingOldest) :
    ((∃ oldest safe, e = .initialOldest oldest safe) ∨ ∃ oldest, e = .oldestChanged oldest) ∧
      t.machine.terminated = m.terminated := by
  cases row with
  | unsafeFromStart =>
      refine ⟨Or.inl ⟨_, _, rfl⟩, ?_⟩
      rw [enter_machine]
      exact Bool.or_false _
  | asksPrevious =>
      refine ⟨Or.inr ⟨_, rfl⟩, ?_⟩
      rw [enter_machine]
      exact Bool.or_false _
  | waitsFromStart =>
      rw [enter_machine] at after
      cases after
  | hosts =>
      rw [host, enter_machine] at after
      cases after
  | yields =>
      rw [yieldTo, enter_machine] at after
      cases after
  | follows => cases after
  | handsOver reason =>
      exact absurd after ((handOver_departs ..).elsewhere (by rwa [state, reason.phase]))
  | completes => exact absurd after ((handOverDone_departs _).elsewhere before)
  | endsQuietly | findsNobody => exact absurd after ((windDown_departs ..).elsewhere before)
  | adopts h => exact absurd (congrArg Phase.state h) before
  | ignores => exact absurd ((congrArg Phase.state fallback_frame.1).symm.trans after) before
  | forgets | unitEndsAsOldest | unitEndsAsWasOldest => cases after
  | _ => exact absurd after before

end Machine

/-! ## The step that ends the wait -/

namespace Entry

variable {e : Entry} {a : Address}

/-- The announcement of the removal of the member that was asked makes the node the oldest. -/
theorem takes_over (running : e.before.terminated = false)
    (tracked : e.before.phase = .becomingOldest (some a))
    (arrives : e.event = .delayedMemberRemoved a) :
    e.after.state = .oldest ∧ e.starts e.fresh := by
  have turn : e.turn =
      Machine.host { e.before with removed := e.before.removed.add a e.now } e.now e.fresh := by
    simp [Entry.turn, Machine.handle, running, Machine.inPhase, tracked, arrives,
      Machine.inBecomingOldest]
  constructor
  · rw [after, turn, Machine.host, Machine.enter_machine]
    rfl
  · rw [starts, effects, turn, Machine.host, Machine.enter_effects]
    simp

/-- A node that hears of its own removal while it waits stops. -/
theorem other_of_running (running : e.before.terminated = false)
    (waiting : Machine.waits e.before.phase = true) (heard : e.event = .memberRemoved a)
    (going : e.after.terminated = false) : a ≠ e.before.self := by
  rintro rfl
  have turn : e.turn = e.before.stop [] := by
    simp [Entry.turn, Machine.handle, running, heard, Machine.inPhase_removal waiting,
      Machine.awaitMargin]
  rw [after, turn] at going
  cases going

section Retry

variable {previous : Option Address} {count : UInt32}
  (running : e.before.terminated = false) (waiting : e.before.phase = .becomingOldest previous)
  (retry : e.event = .handOverRetry count)

include running waiting retry

theorem turn_handOverRetry : e.turn = e.before.retryHandOver previous e.now e.fresh count := by
  rw [Entry.turn, retry, Machine.handle, running, Machine.inPhase, waiting]
  rfl

/-- A retry within the limit is answered by another one, if a number comes after it. -/
theorem turn_asksAgain (within : count ≤ e.before.limits.handOver)
    (fits : count.toNat < RetryLimits.bound) :
    e.turn = e.before.stay (Machine.sendTo previous .handOverToMe ++
      [.startTimer .handOverRetry (.handOverRetry (count + 1)) e.before.retryInterval]) := by
  rw [turn_handOverRetry running waiting retry, Machine.retryHandOver, if_pos within, Machine.askAgain,
    if_pos fits]

end Retry

end Entry

/-! ## Waiting for a member that was removed -/

section Wait

variable {p : Profile} {minimum : UInt32} {xs : List Input} {pre stay post : List Entry}
  {enter r : Entry} {x : Address}

/-- A wait begins with a word of the notifier, and with a machine that goes on. -/
theorem Stay.word (wait : Stay p xs .becomingOldest pre enter stay post) :
    ((∃ oldest safe, enter.event = .initialOldest oldest safe) ∨
      ∃ oldest, enter.event = .oldestChanged oldest) ∧ enter.after.terminated = false := by
  obtain ⟨word, going⟩ := (enter.row wait.running_enter).asks_of_enter wait.before wait.after
  exact ⟨word, going.trans wait.running_enter⟩

/-- Whoever the node asks when the wait begins it asks throughout. -/
theorem Stay.tracks (wait : Stay p xs .becomingOldest pre enter stay post)
    (tracked : enter.after.phase = .becomingOldest (some x)) {mid rest : List Entry} {f : Entry}
    (split : stay = mid ++ f :: rest) : f.before.phase = .becomingOldest (some x) := by
  refine wait.induction (J := fun _ m => m.phase = .becomingOldest (some x)) tracked ?_ mid f rest
    split
  intro mid f rest split before after going
  obtain ⟨-, running⟩ := wait.inside f (by simp [split])
  exact (f.row running).tracks before after

/-- A retry that comes until the margin is over is within the limit. -/
theorem Stay.retry_within
    (limited : RetryLimits.create p.removalMargin p.retryInterval minimum = .ok p.limits)
    (bounded : p.limits.handOver.toNat < RetryLimits.bound)
    (punctual : Punctual (p.machine.history xs))
    (wait : Stay p xs .becomingOldest pre enter stay post)
    (soon : r.now ≤ enter.now + 3 * p.retryInterval) {f : Entry} (mem : f ∈ stay)
    (early : f.now ≤ r.now + p.removalMargin) {count : UInt32}
    (retry : f.event = .handOverRetry count) : count ≤ p.limits.handOver := by
  obtain ⟨mid, rest, split⟩ := List.append_of_mem mem
  have due : pendingTimer .handOverRetry (pre ++ enter :: mid) = some (f.now, f.event) :=
    (punctual.prompt _ _ _ (wait.place_of_split split)).fires _ (by rw [retry]; rfl)
  rcases wait.timer (k := .handOverRetry) rfl punctual split with off | ⟨n, -, -, set⟩
  · cases off.symm.trans due
  · obtain ⟨now, same⟩ := Prod.mk.inj (Option.some.inj (due.symm.trans set))
    obtain rfl := Event.handOverRetry.inj (retry.symm.trans same)
    have outlasts := RetryLimits.outlasts limited bounded
    have less : count.toNat * p.retryInterval < (p.limits.handOver.toNat + 1) * p.retryInterval := by
      omega
    exact UInt32.le_iff_toNat_le.mpr (Nat.le_of_lt_succ (Nat.lt_of_mul_lt_mul_right less))

/-- Only a retry beyond the limit is fatal while a node waits. -/
theorem Stay.exhausted_of_fatal (wait : Stay p xs .becomingOldest pre enter stay post) {f : Entry}
    (mem : f ∈ stay) {error : Error} (fatal : f.turn.outcome = .fatal error) :
    ∃ count, f.event = .handOverRetry count ∧ p.limits.handOver < count := by
  obtain ⟨mid, rest, split⟩ := List.append_of_mem mem
  rw [← wait.limits split]
  exact (Entry.stuck_of_fatal fatal).1.exhausted (wait.inside f mem).1

theorem Stay.not_fatal (wait : Stay p xs .becomingOldest pre enter stay post) {f : Entry}
    (mem : f ∈ stay)
    (within : ∀ count, f.event = .handOverRetry count → count ≤ p.limits.handOver) (error : Error) :
    f.turn.outcome ≠ .fatal error := by
  intro fatal
  obtain ⟨count, retry, exhausted⟩ := wait.exhausted_of_fatal mem fatal
  exact UInt32.not_le.mpr exhausted (within count retry)

/-- The announcement of the removal of the member that is asked ends the wait. -/
theorem Stay.ends_of_announcement (wait : Stay p xs .becomingOldest pre enter stay post)
    (tracked : enter.after.phase = .becomingOldest (some x)) {mid rest : List Entry} {d : Entry}
    (split : stay = mid ++ d :: rest) (arrives : d.event = .delayedMemberRemoved x) :
    rest = [] ∧ d.after.state = .oldest ∧ d.starts d.fresh := by
  obtain ⟨-, running⟩ := wait.inside d (by simp [split])
  obtain ⟨oldest, starts⟩ := Entry.takes_over running (wait.tracks tracked split) arrives
  have last : rest = [] := wait.last split fun still => by cases oldest.symm.trans still
  exact ⟨last, oldest, starts⟩

/-- The announcement of a removal that a waiting machine has heard of and survived arrives when the
margin is over. -/
theorem announcement_arrives (punctual : Punctual (p.machine.history xs)) {before after : List Entry}
    {g : Entry} (place : p.machine.history xs = before ++ r :: after)
    (heard : r.event = .memberRemoved x) (running : r.before.terminated = false)
    (waiting : r.before.state = .younger ∨ r.before.state = .becomingOldest)
    (going : r.after.terminated = false) (mem : g ∈ p.machine.history xs)
    (late : r.now + p.removalMargin < g.now) :
    ∃ d ∈ after, d.now = r.now + p.removalMargin ∧ d.event = .delayedMemberRemoved x := by
  have waits := Machine.waits_iff.mpr waiting
  have margin : r.before.removalMargin = p.removalMargin :=
    congrArg Profile.removalMargin (Machine.history_profile place)
  have scheduled : (r.now + p.removalMargin, x) ∈ r.scheduled :=
    mem_scheduled.mpr ⟨running, waits, heard, Entry.other_of_running running waits heard going,
      by rw [margin]⟩
  -- what is later than the margin comes after the removal
  have ordered := punctual.ordered
  rw [place] at ordered mem
  rw [List.mem_append, List.mem_cons] at mem
  have follows : g ∈ after := by
    rcases mem with earlier | rfl | follows
    · have := ordered.le earlier
      omega
    · omega
    · exact follows
  obtain ⟨between, rest, rfl⟩ := List.append_of_mem follows
  have place' : p.machine.history xs = (before ++ r :: between) ++ g :: rest := by
    rw [place]
    simp
  rcases announced_until before between scheduled with pending | ⟨d, inside, arrival⟩
  · exact absurd ((punctual.prompt _ _ _ place').announced _ pending) (Nat.not_le.mpr late)
  · exact ⟨d, List.mem_append_left _ inside, arrival⟩

/-- A wait that goes on until some time ends later. -/
theorem Stay.later_of_over (wait : Stay p xs .becomingOldest pre enter stay post)
    (ordered : Chronological (p.machine.history xs)) (complete : Over .becomingOldest post) {y : Entry}
    (later : y ∈ post)
    (only : ∀ f ∈ stay, f.now ≤ y.now → f.after.state = .becomingOldest ∧ f.after.terminated = false) :
    False := by
  obtain ⟨mid, f, split, ends⟩ := wait.ended wait.word.2 complete later
  rw [wait.place_of_split split] at ordered
  exact ends (only f (by simp [split]) (ordered.ge (List.mem_cons_of_mem f later)))

/-- The announcement arrives in the wait, unless it has arrived before or something else has ended the
wait. -/
theorem Stay.arrives (punctual : Punctual (p.machine.history xs))
    (wait : Stay p xs .becomingOldest pre enter stay post) (complete : Over .becomingOldest post)
    (mem : r ∈ p.machine.history xs) (heard : r.event = .memberRemoved x)
    (running : r.before.terminated = false)
    (waiting : r.before.state = .younger ∨ r.before.state = .becomingOldest) {g : Entry}
    (present : g ∈ p.machine.history xs) (late : r.now + p.removalMargin < g.now)
    (ahead : r ∈ stay ∨ ∀ s ∈ pre, s.event = .delayedMemberRemoved x →
      s.now ≠ r.now + p.removalMargin)
    (only : ∀ f ∈ stay, f.now ≤ r.now + p.removalMargin →
      f.now = r.now + p.removalMargin ∧ f.event = .delayedMemberRemoved x ∨
        f.after.state = .becomingOldest ∧ f.after.terminated = false) :
    ∃ d ∈ stay, d.now = r.now + p.removalMargin ∧ d.event = .delayedMemberRemoved x := by
  by_contra missing
  -- so nothing has ended the wait by then, and nothing was made after it
  have goesOn : ∀ f ∈ stay, f.now ≤ r.now + p.removalMargin →
      f.after.state = .becomingOldest ∧ f.after.terminated = false := by
    intro f inside early
    exact (only f inside early).resolve_left fun arrival => missing ⟨f, inside, arrival⟩
  have notAfter : ∀ y ∈ post, ¬ y.now ≤ r.now + p.removalMargin := fun y later soon =>
    wait.later_of_over punctual.ordered complete later fun f inside early =>
      goesOn f inside (Nat.le_trans early soon)
  -- the announcement arrives after the removal, so it has arrived before the wait
  have arrived {before after : List Entry} (place : p.machine.history xs = before ++ r :: after)
      (going : r.after.terminated = false) :
      ∃ d ∈ after, d ∉ enter :: (stay ++ post) ∧ d.now = r.now + p.removalMargin ∧
        d.event = .delayedMemberRemoved x := by
    obtain ⟨d, found, due, arrives⟩ :=
      announcement_arrives punctual place heard running waiting going present late
    refine ⟨d, found, ?_, due, arrives⟩
    rw [List.mem_cons, List.mem_append]
    rintro (rfl | inside | later)
    · rcases wait.word.1 with ⟨_, _, word⟩ | ⟨_, word⟩ <;> cases arrives.symm.trans word
    · exact missing ⟨d, inside, due, arrives⟩
    · exact notAfter d later (Nat.le_of_eq due)
  by_cases inside : r ∈ stay
  · obtain ⟨mid, rest, split⟩ := List.append_of_mem inside
    obtain ⟨d, found, outside, -⟩ := arrived (wait.place_of_split split)
      (goesOn r inside (Nat.le_add_right _ _)).2
    refine outside (List.mem_cons_of_mem _ ?_)
    rw [split, List.append_assoc]
    exact List.mem_append_right _ (List.mem_cons_of_mem _ found)
  rw [wait.place, List.mem_append, List.mem_cons, List.mem_append] at mem
  rcases mem with early | rfl | here | later
  · obtain ⟨before, between, rfl⟩ := List.append_of_mem early
    have place : p.machine.history xs = before ++ r :: (between ++ enter :: (stay ++ post)) := by
      rw [wait.place]
      simp
    obtain ⟨d, found, outside, due, arrives⟩ :=
      arrived place (Machine.running_earlier place wait.running_enter)
    have between := (List.mem_append.mp found).resolve_right outside
    exact ahead.resolve_left inside d (List.mem_append_right _ (List.mem_cons_of_mem _ between)) arrives due
  · rcases wait.word.1 with ⟨_, _, word⟩ | ⟨_, word⟩ <;> cases heard.symm.trans word
  · exact inside here
  · exact notAfter r later (Nat.le_add_right _ _)

/-- **The retry budget outlasts the removal margin.** Say a node begins to ask `x` for the unit, and
hears of the removal of `x` while it waits, no later than three intervals after. Then it answers every
retry until the margin is over, and is not stuck. The announcement of the removal ends the wait, and
the node takes over; and if nothing else has ended the wait when the margin is over, it does so then. -/
theorem retry_budget
    (limited : RetryLimits.create p.removalMargin p.retryInterval minimum = .ok p.limits)
    (bounded : p.limits.handOver.toNat < RetryLimits.bound)
    (punctual : Punctual (p.machine.history xs))
    (wait : Stay p xs .becomingOldest pre enter stay post)
    (tracked : enter.after.phase = .becomingOldest (some x))
    (mem : r ∈ p.machine.history xs) (heard : r.event = .memberRemoved x)
    (running : r.before.terminated = false)
    (waiting : r.before.state = .younger ∨ r.before.state = .becomingOldest)
    (soon : r.now ≤ enter.now + 3 * p.retryInterval) :
    (∀ f ∈ stay, f.now ≤ r.now + p.removalMargin →
      (∀ count, f.event = .handOverRetry count →
        count ≤ p.limits.handOver ∧ f.turn.outcome = .proceed) ∧
      ∀ error, f.turn.outcome ≠ .fatal error) ∧
    (∀ mid d rest, stay = mid ++ d :: rest → d.event = .delayedMemberRemoved x →
      rest = [] ∧ d.after.state = .oldest ∧ d.starts d.fresh) ∧
    (Over .becomingOldest post →
      ∀ g ∈ p.machine.history xs, r.now + p.removalMargin < g.now →
      (r ∈ stay ∨ ∀ s ∈ pre, s.event = .delayedMemberRemoved x →
        s.now ≠ r.now + p.removalMargin) →
      (∀ f ∈ stay, f.now ≤ r.now + p.removalMargin →
        f.now = r.now + p.removalMargin ∧ f.event = .delayedMemberRemoved x ∨
          f.after.state = .becomingOldest ∧ f.after.terminated = false) →
      ∃ mid d, stay = mid ++ [d] ∧ d.now = r.now + p.removalMargin ∧
        d.event = .delayedMemberRemoved x ∧ d.after.state = .oldest ∧ d.starts d.fresh) := by
  refine ⟨fun f inside early => ?_, fun mid d rest => wait.ends_of_announcement tracked, ?_⟩
  · have within (count : UInt32) (retry : f.event = .handOverRetry count) :
        count ≤ p.limits.handOver :=
      wait.retry_within limited bounded punctual soon inside early retry
    refine ⟨fun count retry => ⟨within count retry, ?_⟩, wait.not_fatal inside within⟩
    obtain ⟨place, running⟩ := wait.inside f inside
    obtain ⟨mid, rest, split⟩ := List.append_of_mem inside
    have fits : count.toNat < RetryLimits.bound :=
      Nat.lt_of_le_of_lt (UInt32.le_iff_toNat_le.mp (within count retry)) bounded
    obtain ⟨previous, waits⟩ := Machine.phase_of_becomingOldest place
    exact congrArg Turn.outcome
      (Entry.turn_asksAgain running waits retry (wait.limits split ▸ within count retry) fits)
  · intro complete g present late ahead only
    obtain ⟨d, inside, due, arrives⟩ :=
      wait.arrives punctual complete mem heard running waiting present late ahead only
    obtain ⟨mid, after, split⟩ := List.append_of_mem inside
    obtain ⟨rfl, oldest, starts⟩ := wait.ends_of_announcement tracked split arrives
    exact ⟨mid, d, split, due, arrives, oldest, starts⟩

end Wait

/-- A node asks `a` for the unit; `a` crashes without an answer and is written off together with `c`. -/
def askedInVain : List Input :=
  [⟨0, .nth 0, .startNotifier⟩, ⟨0, .nth 0, .initialOldest (some ⟨"a"⟩) true⟩,
    ⟨10, .nth 0, .oldestChanged (some ⟨"b"⟩)⟩, ⟨20, .nth 0, .memberRemoved ⟨"a"⟩⟩,
    ⟨20, .nth 0, .memberRemoved ⟨"c"⟩⟩, ⟨1010, .nth 0, .handOverRetry 1⟩,
    ⟨2010, .nth 0, .handOverRetry 2⟩, ⟨2020, .nth 1, .delayedMemberRemoved ⟨"a"⟩⟩,
    ⟨2020, .nth 2, .delayedMemberRemoved ⟨"c"⟩⟩, ⟨2030, .nth 2, .cleanup⟩]

/-- Such a node retries twice, and takes over when the margin is over, though the same instant has
more in store. -/
theorem retry_budget_askedInVain :
    let p : Profile := ⟨⟨"b"⟩, ⟨5, 2⟩, 1000, 2000, 900000⟩
    let log := p.machine.history askedInVain
    let stay := (log.drop 3).take 5
    RetryLimits.create p.removalMargin p.retryInterval 1 = .ok p.limits ∧ Punctual log ∧
      (∃ f ∈ stay, f.now < 2020 ∧ f.event = .handOverRetry 2 ∧ f.turn.outcome = .proceed) ∧
      ∃ mid d, stay = mid ++ [d] ∧ d.now = 2020 ∧ d.event = .delayedMemberRemoved ⟨"a"⟩ ∧
        d.after.state = .oldest ∧ d.starts d.fresh := by
  intro p log stay
  have limited : RetryLimits.create p.removalMargin p.retryInterval 1 = .ok p.limits := by decide
  have bounded : p.limits.handOver.toNat < RetryLimits.bound := by decide
  have punctual : Punctual log := by decide
  have wait : Stay p askedInVain .becomingOldest (log.take 2) log[2] stay (log.drop 8) :=
    { place := by decide, before := by decide, after := by decide, inside := by decide }
  obtain ⟨retries, -, arrives⟩ := retry_budget limited bounded punctual wait (x := ⟨"a"⟩)
    (r := log[3]) (by decide) (by decide) (by decide) (by decide) (by decide) (by decide)
  refine ⟨limited, punctual, ⟨log[6], by decide, by decide, by decide, ?_⟩, ?_⟩
  · exact ((retries log[6] (by decide) (by decide)).1 2 (by decide)).2
  · exact arrives (by decide) log[9] (by decide) (by decide) (Or.inl (by decide)) (by decide)

end ClusterSingleton
