import ClusterSingleton.Proofs.Retries.Clock

/-!
# The numbers of the retries

A retry carries a number, and the machine does not keep it. If the retries of a history are those of
its own timer, at whatever time they come, then in a stay in the state of the timer the `n`-th retry
carries the number `n` (`Stay.retry_number`). A retry beyond the limit ends the stay, so that there
is at most one of them (`Stay.retryCount_le`).
-/

namespace ClusterSingleton

/-- The step handles a retry under the timer. -/
def Entry.isRetry (key : TimerKey) (e : Entry) : Bool := decide (e.event.retryKey? = some key)

/-- How many retries a history has handled. -/
def retryCount (key : TimerKey) (log : List Entry) : Nat := log.countP (Entry.isRetry key)

/-- Every retry under the timer is the one that the timer was about to deliver. -/
def OwnRetries (key : TimerKey) (log : List Entry) : Prop :=
  ∀ pre e post, log = pre ++ e :: post → e.isRetry key = true →
    (pendingTimer key pre).map Prod.snd = some e.event

instance (key : TimerKey) (log : List Entry) : Decidable (OwnRetries key log) :=
  decidable_of_iff
    (∀ i, ∀ h : i < log.length, log[i].isRetry key = true →
      (pendingTimer key (log.take i)).map Prod.snd = some log[i].event)
    (forall_place_iff (P := fun pre e => e.isRetry key = true →
      (pendingTimer key pre).map Prod.snd = some e.event)).symm

/-- The step answers a retry: it sends the message once if there is anybody to send it to, starts the
timer again for the next retry, and leaves all as it was. -/
structure Entry.AsksAgain (e : Entry) (key : TimerKey) (n : UInt32) (target : Option Address)
    (message : Message) : Prop where
  effects : e.effects = Machine.sendTo target message ++
    [.startTimer key (key.fire (n + 1)) e.before.retryInterval]
  number : (n + 1).toNat = n.toNat + 1
  outcome : e.turn.outcome = .proceed
  stays : e.after = e.before

section Step

variable {key : TimerKey} {log : List Entry} {e : Entry} {n : UInt32}

theorem retryCount_snoc :
    retryCount key (log ++ [e]) = retryCount key log + if e.isRetry key then 1 else 0 := by
  rw [retryCount, List.countP_append, List.countP_singleton]
  rfl

theorem Entry.isRetry_of_fire (retry : key ≠ .cleanup) (event : e.event = key.fire n) :
    e.isRetry key = true := by
  rw [isRetry, event, TimerKey.retryKey?_fire retry]
  exact decide_eq_true rfl

theorem asksAgain_of_turn {target : Option Address} {message : Message}
    (turn : e.turn = e.before.stay (Machine.sendTo target message ++
      [.startTimer key (key.fire (n + 1)) e.before.retryInterval]))
    (small : n.toNat < RetryLimits.bound) : e.AsksAgain key n target message := by
  constructor
  · exact congrArg Turn.effects turn
  · exact RetryLimits.toNat_succ small
  · exact congrArg Turn.outcome turn
  · exact congrArg Turn.machine turn

/-- The timer is off, or about to deliver the retry that comes after those that were fired. -/
def Numbered (key : TimerKey) (fired : Nat) (limit : UInt32) (timer : Option (Nat × Event)) : Prop :=
  ∀ due event, timer = some (due, event) →
    fired ≤ limit.toNat ∧ ∃ n : UInt32, n.toNat = fired + 1 ∧ event = key.fire n

variable {s : State} {fired : Nat} {timer after : Option (Nat × Event)}

/-- **The next retry gets the next number.** -/
theorem Numbered.step (h : Numbered key fired (e.before.limits.limit key) timer)
    (fires : e.isRetry key = true → timer.map Prod.snd = some e.event) (own : s.timer? = some key)
    (step : TimerStep key e timer after) :
    Numbered key (fired + if e.isRetry key then 1 else 0) (e.before.limits.limit key) after := by
  intro due event pending
  cases step with
  | keeps silent same =>
      have calm : e.isRetry key = false := decide_eq_false silent
      rw [calm]
      exact h due event (same ▸ pending)
  | drops silent off => cases off.symm.trans pending
  | @again c answered within fits set =>
      have retry : e.isRetry key = true := Entry.isRetry_of_fire (retry_of_timer? own) answered
      obtain ⟨⟨due', event'⟩, running, same⟩ := Option.map_eq_some_iff.mp (fires retry)
      obtain ⟨-, n, number, carries⟩ := h due' event' running
      obtain rfl : c = n := fire_count own (answered.symm.trans (same.symm.trans carries))
      have within' : c.toNat ≤ (e.before.limits.limit key).toNat := UInt32.le_iff_toNat_le.mp within
      obtain ⟨-, rfl⟩ := Prod.mk.inj (Option.some.inj (pending.symm.trans set))
      rw [retry, if_pos rfl]
      refine ⟨by omega, c + 1, ?_, rfl⟩
      rw [RetryLimits.toNat_succ fits, number]

/-- A retry beyond the limit ends the stay. -/
theorem ends_of_exhausted (own : s.timer? = some key) (before : e.before.state = s)
    (running : e.before.terminated = false) (event : e.event = key.fire n)
    (exhausted : e.before.limits.limit key < n) (after : e.after.state = s) :
    e.after.terminated = true := by
  rw [← Bool.not_eq_false]
  intro going
  have step : TimerStep key e none (e.timerAfter key none) :=
    timerStep own before running after going
  have fires : e.event.retryKey? = some key := by
    rw [event]
    exact TimerKey.retryKey?_fire (retry_of_timer? own)
  cases step with
  | keeps silent | drops silent => exact silent fires
  | again answered within =>
      obtain rfl := fire_count own (event.symm.trans answered)
      exact UInt32.not_le.mpr exhausted within

end Step

namespace Stay

variable {p : Profile} {xs : List Input} {s : State} {pre stay post : List Entry} {enter : Entry}
  {key : TimerKey}

section Own

variable (h : Stay p xs s pre enter stay post) (own : s.timer? = some key)
  (retries : OwnRetries key (p.machine.history xs))

include h own retries

/-- **The timer of a stay carries the number of the next retry.** -/
theorem numbered {mid rest : List Entry} {f : Entry} (split : stay = mid ++ f :: rest) :
    Numbered key (retryCount key mid) (p.limits.limit key)
      (pendingTimer key (pre ++ enter :: mid)) := by
  refine h.induction (J := fun mid _ => Numbered key (retryCount key mid) (p.limits.limit key)
    (pendingTimer key (pre ++ enter :: mid))) ?_ ?_ mid f rest split
  · -- the step into the stay has set the first retry
    intro due event pending
    rw [pendingTimer_snoc, timerAfter_enter h.running_enter own h.before h.after] at pending
    obtain ⟨-, rfl⟩ := Prod.mk.inj (Option.some.inj pending)
    exact ⟨Nat.zero_le _, 1, rfl, rfl⟩
  · intro mid f rest split numbered after going
    obtain ⟨here, running⟩ := h.inside f (by simp [split])
    rw [← List.cons_append, ← List.append_assoc, pendingTimer_snoc, retryCount_snoc]
    rw [← h.limits split] at numbered ⊢
    exact numbered.step (retries _ _ _ (h.place_of_split split)) own
      (timerStep own here running after going)

/-- **The `n`-th retry of a stay carries the number `n`**, and all before it were within the limit. -/
theorem retry_number {mid rest : List Entry} {f : Entry} {n : UInt32}
    (split : stay = mid ++ f :: rest) (event : f.event = key.fire n) :
    n.toNat = retryCount key mid + 1 ∧ retryCount key mid ≤ (p.limits.limit key).toNat := by
  have retry : f.isRetry key = true := Entry.isRetry_of_fire (retry_of_timer? own) event
  obtain ⟨⟨due, event'⟩, pending, same⟩ :=
    Option.map_eq_some_iff.mp (retries _ _ _ (h.place_of_split split) retry)
  obtain ⟨limited, n', number, carries⟩ := h.numbered own retries split due event' pending
  obtain rfl : n = n' := fire_count own (event.symm.trans (same.symm.trans carries))
  exact ⟨number, limited⟩

/-- **A stay has at most one retry more than the limit.** -/
theorem retryCount_le : retryCount key stay ≤ (p.limits.limit key).toNat + 1 := by
  -- counted up to the last retry, since those before it were within the limit
  have upTo : ∀ mid rest, stay = mid ++ rest →
      retryCount key mid ≤ (p.limits.limit key).toNat + 1 := by
    intro mid
    induction mid using List.reverseRecOn with
    | nil => exact fun _ _ => Nat.zero_le _
    | append_singleton mid f ih =>
        intro rest split
        rw [List.append_assoc, List.singleton_append] at split
        rw [retryCount_snoc]
        cases retry : f.isRetry key with
        | false => exact ih (f :: rest) split
        | true =>
            obtain ⟨n, event⟩ := Event.fire_of_retryKey? (of_decide_eq_true retry)
            exact Nat.succ_le_succ (h.retry_number own retries split event).2
  exact upTo stay [] (List.append_nil _).symm

end Own

end Stay

end ClusterSingleton
