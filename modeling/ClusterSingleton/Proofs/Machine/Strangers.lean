import ClusterSingleton.Proofs.Machine.Stray
import ClusterSingleton.Proofs.Timers.Pending

/-!
# Strangers

A machine that waits for the unit of one node hears of the others as well. `stranger_message` says
what a message of another node does to it: nothing, but for the promise of a hand-over, which is
believed of anybody and takes the retries away. `silenced_wait` says what that costs: as long as the
machine waits, nothing brings them back.
-/

namespace ClusterSingleton

/-- The timers after all steps of a history. -/
def Timers.heedLog (t : Timers) (log : List Entry) : Timers :=
  log.foldl (fun t e => t.heedAll e.now e.effects) t

theorem Timers.heedLog_snoc (t : Timers) (log : List Entry) (e : Entry) :
    t.heedLog (log ++ [e]) = (t.heedLog log).heedAll e.now e.effects := by
  simp [heedLog]

namespace Machine

variable {m : Machine} {now : Nat} {fresh : UnitId} {e : Event} {a q : Address}

/-! ## One message -/

/-- Whoever waits for `a` does not heed `q`, unless `q` promises a hand-over. -/
theorem stray_of_stranger {message : Message} (waiting : m.phase = .becomingOldest (some a))
    (other : q ≠ a) (noPromise : message ≠ .handOverInProgress) : Stray m (.peer q message) := by
  have place : m.state = .becomingOldest := congrArg Phase.state waiting
  have apart : m.phase ≠ .becomingOldest (some q) := by
    rw [waiting]
    rintro ⟨⟩
    exact other rfl
  cases message with
  | handOverInProgress => exact absurd rfl noPromise
  | handOverDone => exact .handOverDone apart
  | takeOverFromMe => exact .takeOverFromMe (by rw [waiting]; rintro ⟨⟩) apart
  | handOverToMe =>
      refine .handOverToMe ?_ ?_ fun unit => ?_
      · rw [place]; rintro ⟨⟩
      · rw [place]; rintro ⟨⟩
      · rw [waiting]; rintro ⟨⟩

/-- A promise is believed of anybody. -/
theorem Row.promise {t : Turn} (row : Row m now fresh (.peer q .handOverInProgress) t)
    (place : m.state = .becomingOldest) : t = m.stay [.cancelTimer .handOverRetry] := by
  cases row with
  | isPromised => rfl
  | hosts grounds => cases grounds
  | handsOver reason => cases reason
  | ignores unheard => exact absurd unheard (inPhase_promise place)

/-! ## What comes after it -/

/-- The events that can end the wait for `a`: that it has handed the unit over, that it is gone for
certain, that the node itself is removed, and a retry. -/
def endsWait (m : Machine) (a : Address) : Event → Bool
  | .peer sender .handOverDone => decide (sender = a)
  | .delayedMemberRemoved b => decide (b = a)
  | .memberRemoved b => decide (b = m.self)
  | .handOverRetry _ => true
  | _ => false

/-- **Nothing else ends the wait.** -/
theorem Row.waits {t : Turn} (row : Row m now fresh e t)
    (waiting : m.phase = .becomingOldest (some a)) (goesOn : m.endsWait a e = false) :
    t.machine.phase = .becomingOldest (some a) ∧ t.machine.terminated = m.terminated := by
  have elsewhere {p : Phase} (h : m.phase = p) : p = .becomingOldest (some a) :=
    h.symm.trans waiting
  cases row with
  | hosts grounds =>
      cases grounds with
      | safeFromStart h | nobodyBefore h => cases elsewhere h
      | handedOver h =>
          cases elsewhere h
          simp [endsWait] at goesOn
      | marginPassed h =>
          cases elsewhere h
          simp [endsWait] at goesOn
      | retriesOver => cases goesOn
  | handsOver reason =>
      cases reason with
      | claimOfRemoved h | askedAsOldest h | askedAsWasOldest h | newOldestRemoved h =>
          cases elsewhere h
  | retriesHandOver | overflowsHandOver | quitsHandOver | stuckHandOver => cases goesOn
  | selfRemovedWaiting => simp [endsWait] at goesOn
  | awaitsMargin | isPromised | refusesDone | answersTakeOver | refusesTakeOver =>
      exact ⟨waiting, rfl⟩
  | ignores =>
      refine ⟨fallback_frame.1.trans waiting, ?_⟩
      cases e with
      | memberRemoved b =>
          have others : b ≠ m.self := by simpa [endsWait] using goesOn
          simp [fallback, others]
      | memberExited b => simp only [fallback]; split <;> rfl
      | _ => rfl
  | wakes h | unsafeFromStart h | waitsFromStart h | asksPrevious h | follows h | forgets h
  | adopts h | hearsItself h | yields h | unitEndsAsOldest h | unitEndsAsWasOldest h
  | endsQuietly h | findsNobody h | retriesTakeOver h | overflowsTakeOver h | stuckTakeOver h
  | selfRemovedAsWasOldest h
  | completes h | repeatsPromise h | unitEndsStopping h | selfRemovedAtEnd h => cases elsewhere h

/-- No retry is pending after a step if none was before. -/
theorem silent_step (running : m.terminated = false) (waiting : m.phase = .becomingOldest (some a))
    (goesOn : m.endsWait a e = false) {ts : Timers} (silent : ts.isActive .handOverRetry = false) :
    (ts.heedAll now (m.handle now fresh e).effects).isActive .handOverRetry = false := by
  have place : m.state.timer? = some .handOverRetry := by rw [state, waiting]; rfl
  have alive : (m.handle now fresh e).machine.terminated = false :=
    ((handle_row running e).waits waiting goesOn).2.trans running
  refine Bool.eq_false_iff.mpr fun pending => ?_
  obtain ⟨-, -, known⟩ :=
    ((handle_timerTurn running e).isActive_iff alive now fun _ => place).mp pending
  rcases known place with before | ⟨count, rfl⟩
  · exact Bool.false_ne_true (silent.symm.trans before)
  · cases goesOn

/-- **A wait without retries stays without.** Whatever else the machine hears, it goes on to wait,
and no retry is pending. -/
theorem silenced_wait (running : m.terminated = false)
    (waiting : m.phase = .becomingOldest (some a)) {ts : Timers}
    (silent : ts.isActive .handOverRetry = false) {xs : List Input}
    (goesOn : ∀ x ∈ m.history xs, x.before.endsWait a x.event = false) :
    (m.run xs).phase = .becomingOldest (some a) ∧ (m.run xs).terminated = false ∧
      (ts.heedLog (m.history xs)).isActive .handOverRetry = false := by
  induction xs using List.reverseRecOn with
  | nil => exact ⟨waiting, running, silent⟩
  | append_singleton xs x ih =>
      rw [history_snoc] at goesOn ⊢
      obtain ⟨still, alive, quiet⟩ := ih fun y mem => goesOn y (List.mem_append_left _ mem)
      have last := goesOn ⟨x, m.run xs⟩ (by simp)
      have next := (Entry.row ⟨x, m.run xs⟩ alive).waits still last
      rw [run_snoc, Timers.heedLog_snoc]
      exact ⟨next.1, next.2.trans alive, silent_step alive still last quiet⟩

/-! ## Any message of a stranger -/

/-- **What a stranger can do to a machine that waits for the unit of `a`.** It changes nothing of the
machine and ends nothing, whatever it writes; but its promise of a hand-over cancels the retries, and
none is pending again as long as the machine waits. -/
theorem stranger_message {m : Machine} {a q : Address}
    (waiting : m.phase = .becomingOldest (some a)) (other : q ≠ a) (message : Message) (now : Nat)
    (fresh : UnitId) :
    let t := m.handle now fresh (.peer q message)
    t.machine = m ∧ t.outcome = quiet m.terminated ∧
      t.effects = (if m.terminated = false ∧ message = .handOverInProgress then
        [.cancelTimer .handOverRetry] else []) ∧
      (m.terminated = false → message = .handOverInProgress → ∀ (ts : Timers) (xs : List Input),
        (∀ x ∈ m.history xs, x.before.endsWait a x.event = false) →
          (m.run xs).phase = .becomingOldest (some a) ∧
            ((ts.heedAll now t.effects).heedLog (m.history xs)).isActive .handOverRetry = false) := by
  intro t
  cases done : m.terminated with
  | true =>
      have turn : t = ⟨m, [], .stopped⟩ := handle_terminated done _
      rw [turn]
      exact ⟨rfl, rfl, rfl, by rintro ⟨⟩⟩
  | false =>
      have row : Row m now fresh (.peer q message) t := handle_row done _
      by_cases promise : message = .handOverInProgress
      · subst promise
        have turn : t = m.stay [.cancelTimer .handOverRetry] :=
          row.promise (congrArg Phase.state waiting)
        rw [turn]
        refine ⟨rfl, rfl, rfl, fun _ _ ts xs goesOn => ?_⟩
        have silent : (ts.cancel .handOverRetry).isActive .handOverRetry = false := by
          rw [Timers.isActive, Timers.current?_cancel]
          rfl
        obtain ⟨still, -, quiet⟩ := silenced_wait done waiting silent goesOn
        exact ⟨still, quiet⟩
      · have turn : t = m.stay [] := row.unheeded (stray_of_stranger waiting other promise)
        rw [turn]
        exact ⟨rfl, rfl, (if_neg fun h => promise h.2).symm, fun _ h => absurd h promise⟩

/-- A node is told that it is to follow `a`, and asks for its unit. -/
def asksA : List Input :=
  [⟨0, .nth 0, .startNotifier⟩, ⟨0, .nth 0, .initialOldest (some ⟨"a"⟩) true⟩,
    ⟨20, .nth 0, .oldestChanged (some ⟨"b"⟩)⟩]

/-- A promise of `c` takes the retry away that was to ask `a` again, and news of `c` does not bring
it back. -/
theorem stranger_message_promiseOfThird :
    let b := (Profile.mk ⟨"b"⟩ ⟨5, 2⟩ 1000 2000 900000).machine
    let m := b.run asksA
    let t := m.handle 30 (.nth 0) (.peer ⟨"c"⟩ .handOverInProgress)
    let later : List Input := [⟨40, .nth 0, .peer ⟨"a"⟩ .takeOverFromMe⟩,
      ⟨5000, .nth 0, .memberRemoved ⟨"c"⟩⟩]
    m.phase = .becomingOldest (some ⟨"a"⟩) ∧
      (Timers.empty.heedLog (b.history asksA)).isActive .handOverRetry = true ∧
      t.machine = m ∧ t.effects = [.cancelTimer .handOverRetry] ∧
      (((Timers.empty.heedLog (b.history asksA)).heedAll 30 t.effects).heedLog
        (m.history later)).isActive .handOverRetry = false := by
  intro b m t later
  have waiting : m.phase = .becomingOldest (some ⟨"a"⟩) := by decide
  have running : m.terminated = false := by decide
  have goesOn : ∀ x ∈ m.history later, x.before.endsWait ⟨"a"⟩ x.event = false := by decide
  have other : (⟨"c"⟩ : Address) ≠ ⟨"a"⟩ := by decide
  obtain ⟨same, -, effects, silenced⟩ :=
    stranger_message waiting other .handOverInProgress 30 (.nth 0)
  refine ⟨waiting, by decide, same, ?_, (silenced running rfl _ later goesOn).2⟩
  rw [effects]
  exact if_pos ⟨running, rfl⟩

end Machine

end ClusterSingleton
