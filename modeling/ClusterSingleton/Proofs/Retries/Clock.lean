import ClusterSingleton.Proofs.Removals.Memory
import ClusterSingleton.Proofs.Retries.Limits
import ClusterSingleton.Proofs.Timers.Turns

/-!
# Runs by the clock

A history is `Punctual` if whatever the machine has set runs out exactly when it is due: its retry
timers, by `pendingTimer`, and the announcements of removals, by `announcements`. In a stay in one of
the two states that ask again, the timer of the state then runs out every retry interval, and counts
how often it did (`Stay.timer`).
-/

namespace ClusterSingleton

/-- A timer after an effect: when it runs out, and what it will deliver. -/
def Effect.sets (x : Effect) (now : Nat) (key : TimerKey) (timer : Option (Nat × Event)) :
    Option (Nat × Event) :=
  match x with
  | startTimer k event after => if k = key then some (now + after, event) else timer
  | cancelTimer k => if k = key then none else timer
  | _ => timer

namespace Entry

/-- A timer after a step; one that has run out is gone, unless the step starts it again. -/
def timerAfter (e : Entry) (key : TimerKey) (timer : Option (Nat × Event)) :
    Option (Nat × Event) :=
  e.effects.foldl (fun timer x => x.sets e.now key timer)
    (if e.event.retryKey? = some key then none else timer)

/-- The announcements under way after a step. -/
def announcementsAfter (e : Entry) (waiting : List (Nat × Address)) : List (Nat × Address) :=
  (match e.event with
    | .delayedMemberRemoved a => waiting.erase (e.now, a)
    | _ => waiting) ++ e.scheduled

end Entry

/-- The timer that a history leaves running. -/
def pendingTimer (key : TimerKey) (log : List Entry) : Option (Nat × Event) :=
  log.foldl (fun timer e => e.timerAfter key timer) none

/-- The announcements that a history leaves under way. -/
def announcements (log : List Entry) : List (Nat × Address) :=
  log.foldl (fun waiting e => e.announcementsAfter waiting) []

theorem pendingTimer_snoc {key : TimerKey} {log : List Entry} {e : Entry} :
    pendingTimer key (log ++ [e]) = e.timerAfter key (pendingTimer key log) := by
  simp [pendingTimer]

theorem announcements_snoc {log : List Entry} {e : Entry} :
    announcements (log ++ [e]) = e.announcementsAfter (announcements log) := by
  simp [announcements]

/-- Nothing is overdue when the step is made, and what the step delivers is due just then. -/
structure Prompt (pre : List Entry) (e : Entry) : Prop where
  timers : ∀ key ∈ TimerKey.all, ∀ timer ∈ pendingTimer key pre, e.now ≤ timer.1
  fires : ∀ key ∈ e.event.retryKey?, pendingTimer key pre = some (e.now, e.event)
  announced : ∀ x ∈ announcements pre, e.now ≤ x.1
  arrives : ∀ a ∈ e.event.announced?, (e.now, a) ∈ announcements pre

instance (pre : List Entry) (e : Entry) : Decidable (Prompt pre e) :=
  decidable_of_iff
    ((∀ key ∈ TimerKey.all, ∀ timer ∈ pendingTimer key pre, e.now ≤ timer.1) ∧
      (∀ key ∈ e.event.retryKey?, pendingTimer key pre = some (e.now, e.event)) ∧
      (∀ x ∈ announcements pre, e.now ≤ x.1) ∧
      ∀ a ∈ e.event.announced?, (e.now, a) ∈ announcements pre)
    ⟨fun ⟨timers, fires, announced, arrives⟩ => ⟨timers, fires, announced, arrives⟩,
      fun h => ⟨h.timers, h.fires, h.announced, h.arrives⟩⟩

/-- Whatever was set runs out exactly when it is due. -/
structure Punctual (log : List Entry) : Prop where
  ordered : Chronological log
  prompt : ∀ pre e post, log = pre ++ e :: post → Prompt pre e

instance (log : List Entry) : Decidable (Punctual log) :=
  decidable_of_iff (Chronological log ∧ ∀ i, ∀ h : i < log.length, Prompt (log.take i) log[i])
    ⟨fun h => ⟨h.1, forall_place_iff.mpr h.2⟩, fun h => ⟨h.ordered, forall_place_iff.mp h.prompt⟩⟩

/-! ## Announcements -/

/-- An announcement stays under way until it arrives. -/
theorem announced_until (pre post : List Entry) {e : Entry} {x : Nat × Address}
    (scheduled : x ∈ e.scheduled) :
    x ∈ announcements (pre ++ e :: post) ∨
      ∃ d ∈ post, d.now = x.1 ∧ d.event = .delayedMemberRemoved x.2 := by
  induction post using List.reverseRecOn with
  | nil =>
      rw [announcements_snoc]
      exact Or.inl (List.mem_append_right _ scheduled)
  | append_singleton post d ih =>
      rw [← List.cons_append, ← List.append_assoc, announcements_snoc, Entry.announcementsAfter]
      rcases ih with waiting | ⟨f, mem, arrived⟩
      · by_cases arrives : d.event = .delayedMemberRemoved x.2 ∧ d.now = x.1
        · exact Or.inr ⟨d, by simp, arrives.2, arrives.1⟩
        · refine Or.inl (List.mem_append_left _ ?_)
          split
          next a event =>
            refine (List.mem_erase_of_ne fun same => arrives ?_).mpr waiting
            rw [same]
            exact ⟨event, rfl⟩
          next => exact waiting
      · exact Or.inr ⟨f, List.mem_append_left _ mem, arrived⟩

/-! ## One step and a timer -/

section Step

variable {e : Entry} {s : State} {k : TimerKey} {timer : Option (Nat × Event)}

theorem timerAfter_of_work {work : List Effect} (h : e.turn.timerWork = work) :
    e.timerAfter k timer =
      work.foldl (fun timer x => x.sets e.now k timer)
        (if e.event.retryKey? = some k then none else timer) := by
  rw [Entry.timerAfter, ← h, Turn.timerWork, List.foldl_filter]
  congr 1
  funext t x
  cases x <;> rfl

theorem state_of_timer? {s' : State} (own : s.timer? = some k) (same : s'.timer? = some k) :
    s' = s := by
  rcases Machine.timer_cases own with ⟨rfl, rfl⟩ | ⟨rfl, rfl⟩ <;>
    rcases Machine.timer_cases same with ⟨rfl, h⟩ | ⟨rfl, h⟩ <;> first | rfl | cases h

/-- A timer starts with the stay in its state. -/
theorem timerAfter_enter (running : e.before.terminated = false) (own : s.timer? = some k)
    (before : e.before.state ≠ s) (after : e.after.state = s) :
    e.timerAfter k timer = some (e.now + e.before.retryInterval, k.fire 1) := by
  cases e.timerTurn running with
  | keeps work same =>
      refine absurd (state_of_timer? own (same.symm.trans ?_)) before
      rw [← own, ← after]
      rfl
  | @enters k' outside inside work =>
      obtain rfl : k' = k := by
        rw [← after] at own
        exact Option.some.inj (inside.symm.trans own)
      rw [timerAfter_of_work work]
      simp [Effect.sets]
  | retries inside event within fits same =>
      exact absurd (after ▸ congrArg Machine.state same.symm) before
  | promised inside event same => exact absurd (after ▸ congrArg Machine.state same.symm) before
  | leaves inside outside =>
      rw [← after] at own
      cases outside.symm.trans own

/-- In a stay, the timer of the state is off, or about to run out for the `n`-th time `n` intervals
after the start. -/
def Counts (k : TimerKey) (start interval : Nat) (limit : UInt32) (timer : Option (Nat × Event)) :
    Prop :=
  timer = none ∨ ∃ n : UInt32, 1 ≤ n.toNat ∧ n.toNat ≤ limit.toNat + 1 ∧
    timer = some (start + n.toNat * interval, k.fire n)

theorem retry_of_timer? (own : s.timer? = some k) : k ≠ .cleanup := by
  rcases Machine.timer_cases own with ⟨-, rfl⟩ | ⟨-, rfl⟩ <;> rintro ⟨⟩

theorem fire_count {n n' : UInt32} (own : s.timer? = some k) (same : k.fire n = k.fire n') :
    n = n' := by
  rcases Machine.timer_cases own with ⟨-, rfl⟩ | ⟨-, rfl⟩
  · exact Event.handOverRetry.inj same
  · exact Event.takeOverRetry.inj same

/-- What a step that stays in a state does with the timer of the state. -/
inductive TimerStep (k : TimerKey) (e : Entry) (timer after : Option (Nat × Event)) : Prop where
  | keeps (silent : e.event.retryKey? ≠ some k) (same : after = timer)
  | drops (silent : e.event.retryKey? ≠ some k) (off : after = none)
  | again {n : UInt32} (event : e.event = k.fire n) (within : n ≤ e.before.limits.limit k)
      (fits : n.toNat < RetryLimits.bound)
      (set : after = some (e.now + e.before.retryInterval, k.fire (n + 1)))

/-- **In a stay a timer is left alone, taken away, or started again by a retry within the limit.** -/
theorem timerStep (own : s.timer? = some k) (before : e.before.state = s)
    (running : e.before.terminated = false) (after : e.after.state = s)
    (going : e.after.terminated = false) : TimerStep k e timer (e.timerAfter k timer) := by
  have here : e.before.state.timer? = some k := before ▸ own
  cases e.timerTurn running with
  | keeps work same deaf =>
      have calm : e.event.retryKey? ≠ some k := by
        intro retry
        obtain ⟨n, event⟩ := Event.fire_of_retryKey? retry
        cases going.symm.trans (deaf k n here event)
      refine .keeps calm ?_
      rw [timerAfter_of_work work, if_neg calm]
      rfl
  | enters outside => cases outside.symm.trans here
  | @retries k' c inside event within fits same work =>
      obtain rfl : k' = k := Option.some.inj (inside.symm.trans here)
      refine .again event within fits ?_
      rw [timerAfter_of_work work]
      simp [Effect.sets]
  | @promised a becoming event same work =>
      obtain rfl : TimerKey.handOverRetry = k := by
        rw [becoming] at here
        exact Option.some.inj here
      refine .drops ?_ ?_
      · rw [event]
        rintro ⟨⟩
      · rw [timerAfter_of_work work]
        rfl
  | leaves inside outside =>
      rw [← after] at own
      cases outside.symm.trans own

theorem Counts.step {start : Nat}
    (h : Counts k start e.before.retryInterval (e.before.limits.limit k) timer)
    (fires : e.event.retryKey? = some k → timer = some (e.now, e.event))
    (own : s.timer? = some k) (before : e.before.state = s)
    (running : e.before.terminated = false) (after : e.after.state = s)
    (going : e.after.terminated = false) :
    Counts k start e.before.retryInterval (e.before.limits.limit k) (e.timerAfter k timer) := by
  have step : TimerStep k e timer (e.timerAfter k timer) := timerStep own before running after going
  cases step with
  | keeps silent same =>
      rw [same]
      exact h
  | drops silent off => exact Or.inl off
  | @again c event within fits set =>
      have due := fires (by rw [event, TimerKey.retryKey?_fire (retry_of_timer? own)])
      rcases h with off | ⟨n, -, -, pending⟩
      · cases off.symm.trans due
      · obtain ⟨now, same⟩ := Prod.mk.inj (Option.some.inj (due.symm.trans pending))
        obtain rfl := fire_count own (event.symm.trans same)
        have within' : c.toNat ≤ (e.before.limits.limit k).toNat := UInt32.le_iff_toNat_le.mp within
        have next : (c + 1).toNat = c.toNat + 1 := RetryLimits.toNat_succ fits
        refine Or.inr ⟨c + 1, by omega, by omega, ?_⟩
        rw [set, next, Nat.succ_mul, ← Nat.add_assoc, ← now]

end Step

/-! ## Stays -/

/-- A part of a history that begins with the step into a state and goes on there; what comes after it
may go on there too. -/
structure Stay (p : Profile) (xs : List Input) (s : State) (pre : List Entry) (enter : Entry)
    (stay post : List Entry) : Prop where
  place : p.machine.history xs = pre ++ enter :: (stay ++ post)
  before : enter.before.state ≠ s
  after : enter.after.state = s
  inside : ∀ f ∈ stay, f.before.state = s ∧ f.before.terminated = false

/-- A stay is over when the step that comes next is made elsewhere, or by a machine that has ended. -/
def Over (s : State) (post : List Entry) : Prop :=
  ∀ next ∈ post.head?, next.before.state = s → next.before.terminated = true

instance (s : State) (post : List Entry) : Decidable (Over s post) :=
  inferInstanceAs (Decidable (∀ next ∈ post.head?, _))

namespace Stay

variable {p : Profile} {xs : List Input} {s : State} {pre stay post : List Entry} {enter : Entry}

theorem place_of_split (h : Stay p xs s pre enter stay post) {mid rest : List Entry} {f : Entry}
    (split : stay = mid ++ f :: rest) :
    p.machine.history xs = (pre ++ enter :: mid) ++ f :: (rest ++ post) := by
  rw [h.place, split]
  simp

theorem limits (h : Stay p xs s pre enter stay post) {mid rest : List Entry} {f : Entry}
    (split : stay = mid ++ f :: rest) : f.before.limits = p.limits :=
  congrArg Profile.limits (Machine.history_profile (h.place_of_split split))

/-- What holds when the stay begins, and is kept by each step that stays, holds wherever the machine
is met in the stay; `J` speaks of the steps of the stay so far. -/
theorem induction {J : List Entry → Machine → Prop} (h : Stay p xs s pre enter stay post)
    (begins : J [] enter.after)
    (keeps : ∀ mid f rest, stay = mid ++ f :: rest → J mid f.before →
      f.after.state = s → f.after.terminated = false → J (mid ++ [f]) f.after) :
    ∀ mid f rest, stay = mid ++ f :: rest → J mid f.before := by
  intro mid
  induction mid using List.reverseRecOn with
  | nil =>
      intro f rest split
      have place := h.place_of_split split
      rw [List.append_assoc, List.cons_append, List.nil_append] at place
      rw [Machine.history_adjacent place]
      exact begins
  | append_singleton mid d ih =>
      intro f rest split
      have place := h.place_of_split split
      rw [← List.cons_append, ← List.append_assoc, List.append_assoc, List.singleton_append] at place
      have next := Machine.history_adjacent place
      rw [List.append_assoc, List.singleton_append] at split
      obtain ⟨state, running⟩ := h.inside f (by simp [split])
      rw [next] at state running ⊢
      exact keeps mid d (f :: rest) split (ih d (f :: rest) split) state running

theorem running_enter (h : Stay p xs s pre enter stay post) : enter.before.terminated = false := by
  refine Bool.eq_false_iff.mpr fun done => h.before ?_
  rw [← h.after, Entry.after, Entry.turn_terminated done]

/-- Nobody is met in the stay after the step that ended it. -/
theorem last (h : Stay p xs s pre enter stay post) {mid rest : List Entry} {f : Entry}
    (split : stay = mid ++ f :: rest) (ends : f.after.state = s → f.after.terminated = true) :
    rest = [] := by
  cases rest with
  | nil => rfl
  | cons g rest =>
      have next := Machine.history_adjacent (h.place_of_split split)
      obtain ⟨state, running⟩ := h.inside g (by simp [split])
      rw [next] at state running
      cases running.symm.trans (ends state)

/-- What is kept by each step that stays holds from where it is met in the stay. -/
theorem onward {J : Machine → Prop} (h : Stay p xs s pre enter stay post)
    (keeps : ∀ f ∈ stay, J f.before → f.after.state = s → J f.after) {mid rest : List Entry}
    {f : Entry} (split : stay = mid ++ f :: rest) (here : J f.before) :
    ∀ g ∈ f :: rest, J g.before := by
  induction rest generalizing mid f with
  | nil => exact List.forall_mem_singleton.mpr here
  | cons g rest ih =>
      have next := Machine.history_adjacent (h.place_of_split split)
      have state := (h.inside g (by simp [split])).1
      rw [next] at state
      have further : stay = (mid ++ [f]) ++ g :: rest := by simp [split]
      refine List.forall_mem_cons.mpr ⟨here, ih further ?_⟩
      rw [next]
      exact keeps f (by simp [split]) here state

/-- A stay that is over was ended by its last step, if anything comes after it. -/
theorem ended (h : Stay p xs s pre enter stay post) (running : enter.after.terminated = false)
    (complete : Over s post) {y : Entry} (later : y ∈ post) :
    ∃ mid f, stay = mid ++ [f] ∧ ¬ (f.after.state = s ∧ f.after.terminated = false) := by
  obtain ⟨next, rest, rfl⟩ := List.exists_cons_of_ne_nil (List.ne_nil_of_mem later)
  have elsewhere : ¬ (next.before.state = s ∧ next.before.terminated = false) := by
    rintro ⟨here, going⟩
    cases going.symm.trans (complete next rfl here)
  rcases List.eq_nil_or_concat stay with rfl | ⟨mid, f, rfl⟩
  · rw [Machine.history_adjacent h.place] at elsewhere
    exact absurd ⟨h.after, running⟩ elsewhere
  · have place := h.place_of_split List.concat_eq_append
    rw [Machine.history_adjacent place] at elsewhere
    exact ⟨mid, f, List.concat_eq_append, elsewhere⟩

/-- **The timer of a stay** is off, or runs out for the `n`-th time `n` intervals after the stay
began. -/
theorem timer {k : TimerKey} (h : Stay p xs s pre enter stay post) (own : s.timer? = some k)
    (punctual : Punctual (p.machine.history xs)) {mid rest : List Entry} {f : Entry}
    (split : stay = mid ++ f :: rest) :
    Counts k enter.now p.retryInterval (p.limits.limit k) (pendingTimer k (pre ++ enter :: mid)) := by
  have profile {pre post : List Entry} {e : Entry} (place : p.machine.history xs = pre ++ e :: post) :
      e.before.retryInterval = p.retryInterval ∧ e.before.limits = p.limits :=
    ⟨congrArg Profile.retryInterval (Machine.history_profile place),
      congrArg Profile.limits (Machine.history_profile place)⟩
  refine h.induction (J := fun mid _ => Counts k enter.now p.retryInterval (p.limits.limit k)
    (pendingTimer k (pre ++ enter :: mid))) ?_ ?_ mid f rest split
  · rw [pendingTimer_snoc, timerAfter_enter h.running_enter own h.before h.after,
      (profile h.place).1]
    exact Or.inr ⟨1, Nat.le_refl _, Nat.le_add_left _ _, by simp⟩
  · intro mid f rest split counts after going
    have place := h.place_of_split split
    obtain ⟨interval, limits⟩ := profile place
    obtain ⟨here, running⟩ := h.inside f (by simp [split])
    rw [← List.cons_append, ← List.append_assoc, pendingTimer_snoc, ← interval, ← limits]
    rw [← interval, ← limits] at counts
    exact counts.step ((punctual.prompt _ _ _ place).fires k) own here running after going

end Stay

end ClusterSingleton
