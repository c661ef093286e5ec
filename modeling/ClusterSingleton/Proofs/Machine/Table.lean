import ClusterSingleton.Machine

/-!
# The transition table

What a machine can do, said once. The first part says what each move leaves behind; the second lists
the answers of a machine that is not terminated, one row each, and `handle_row` says that there are
no others. A fact about every turn is proved by going through the rows.
-/

namespace ClusterSingleton.Machine

variable {m : Machine} {now : Nat} {fresh : UnitId}

/-! ## What the moves leave behind -/

section Moves

variable {effects : List Effect}

@[simp] theorem stay_machine : (m.stay effects).machine = m := rfl
@[simp] theorem stay_effects : (m.stay effects).effects = effects := rfl

@[simp] theorem stayAs_machine {p : Phase} :
    (m.stayAs p effects).machine = { m with phase := p } := rfl
@[simp] theorem stayAs_effects {p : Phase} : (m.stayAs p effects).effects = effects := rfl

@[simp] theorem stop_machine : (m.stop effects).machine = { m with terminated := true } := rfl
@[simp] theorem stop_effects : (m.stop effects).effects = effects := rfl

@[simp] theorem fail_machine {x : Error} : (m.fail x).machine = { m with terminated := true } := rfl
@[simp] theorem fail_effects {x : Error} : (m.fail x).effects = [] := rfl

@[simp] theorem breakOff_machine : m.breakOff.machine = { m with terminated := true } := rfl
@[simp] theorem breakOff_effects : m.breakOff.effects = [] := rfl

/-- What is asked for on the way into a phase. -/
def arrival (m : Machine) : Phase → List Effect
  | .becomingOldest _ => [.startTimer .handOverRetry (.handOverRetry 1) m.retryInterval]
  | .younger _ => m.request
  | .oldest _ _ => m.request
  | _ => []

/-- Whether the machine asks the notifier on the way into a phase. -/
def asksOnEntry : Phase → Bool
  | .younger _ => true
  | .oldest _ _ => true
  | _ => false

/-- Whether a node that was removed stops on the way into a phase. -/
def endsRemoved : Phase → Bool
  | .younger _ => true
  | .ended => true
  | _ => false

@[simp] theorem enter_effects {p : Phase} :
    (m.enter now p effects).effects = effects ++ leave m.state ++ m.arrival p := by
  cases p with
  | younger o => simp only [enter, Phase.state]; split <;> rfl
  | ended => simp only [enter, Phase.state]; split <;> simp [arrival]
  | start => simp [enter, arrival, Phase.state]
  | becomingOldest previous => rfl
  | oldest unit unitEnded => rfl
  | wasOldest unit unitEnded newOldest => simp [enter, arrival, Phase.state]
  | handingOver unit target => simp [enter, arrival, Phase.state]
  | stopping unit => simp [enter, arrival, Phase.state]

@[simp] theorem enter_machine {p : Phase} :
    (m.enter now p effects).machine =
      { m with
        phase := p
        noticeReceived := m.noticeReceived && !asksOnEntry p
        terminated := m.terminated || (endsRemoved p && m.isRemoved m.self now) } := by
  cases p with
  | younger o =>
      simp only [enter, Phase.state]
      split <;> simp_all [asked, asksOnEntry, endsRemoved]
  | ended => simp only [enter, Phase.state]; split <;> simp_all [asksOnEntry, endsRemoved]
  | start => simp [enter, Phase.state, asksOnEntry, endsRemoved]
  | becomingOldest previous => simp [enter, Phase.state, asksOnEntry, endsRemoved]
  | oldest unit unitEnded => simp [enter, Phase.state, asked, asksOnEntry, endsRemoved]
  | wasOldest unit unitEnded newOldest => simp [enter, Phase.state, asksOnEntry, endsRemoved]
  | handingOver unit target => simp [enter, Phase.state, asksOnEntry, endsRemoved]
  | stopping unit => simp [enter, Phase.state, asksOnEntry, endsRemoved]

/-- An event of no special meaning has no effects. -/
@[simp] theorem fallback_effects {e : Event} : (m.fallback now e).effects = [] := by
  cases e <;> simp only [fallback] <;> (try split) <;> rfl

/-- An event of no special meaning leaves the phase and what was heard of the notifier. -/
theorem fallback_frame {e : Event} :
    (m.fallback now e).machine.phase = m.phase ∧
      (m.fallback now e).machine.self = m.self ∧
      (m.fallback now e).machine.noticeReceived = m.noticeReceived := by
  cases e <;> simp only [fallback] <;> (try split) <;> exact ⟨rfl, rfl, rfl⟩

end Moves

/-! ## The rows -/

/-- Whether a phase waits to become responsible, so that a removal counts only after the margin. -/
def waits : Phase → Bool
  | .younger _ => true
  | .becomingOldest _ => true
  | _ => false

/-- The grounds on which a unit is started: the event, and the machine that starts it. -/
inductive Grounds (m : Machine) (now : Nat) : Event → Machine → Prop where
  | safeFromStart (h : m.phase = .start) :
      Grounds m now (.initialOldest (some m.self) true) m.noticed
  | nobodyBefore {oldest : Option Address} (h : m.phase = .younger oldest)
      (gone : ∀ a, oldest = some a → m.isRemoved a now = true) :
      Grounds m now (.oldestChanged (some m.self)) m.noticed
  | handedOver {a : Address} (h : m.phase = .becomingOldest (some a)) :
      Grounds m now (.peer a .handOverDone) m
  | marginPassed {a : Address} (h : m.phase = .becomingOldest (some a)) :
      Grounds m now (.delayedMemberRemoved a) { m with removed := m.removed.add a now }
  | retriesOver {a : Address} {count : UInt32} (h : m.phase = .becomingOldest (some a))
      (exhausted : m.limits.handOver < count) (gone : m.isRemoved a now = true) :
      Grounds m now (.handOverRetry count) m

/-- The reasons to hand the unit over: the event, the machine that does so, and to whom. -/
inductive Release (m : Machine) (now : Nat) (unit : UnitId) (unitEnded : Bool) :
    Event → Machine → Option Address → Prop where
  | claimOfRemoved {a : Address} (h : m.phase = .oldest unit unitEnded) (other : a ≠ m.self)
      (present : m.selfExited = false) (gone : m.isRemoved a now = true) :
      Release m now unit unitEnded (.oldestChanged (some a)) m.noticed none
  | askedAsOldest {sender : Address} (h : m.phase = .oldest unit unitEnded) :
      Release m now unit unitEnded (.peer sender .handOverToMe) m (some sender)
  | askedAsWasOldest {sender : Address} {newOldest : Option Address}
      (h : m.phase = .wasOldest unit unitEnded newOldest) :
      Release m now unit unitEnded (.peer sender .handOverToMe) m (some sender)
  | newOldestRemoved {a : Address} (h : m.phase = .wasOldest unit unitEnded (some a))
      (other : a ≠ m.self) (present : m.selfExited = false) :
      Release m now unit unitEnded (.memberRemoved a)
        { m with removed := m.removed.add a now } none

/-- The answers of a machine that is not terminated. -/
inductive Row (m : Machine) (now : Nat) (fresh : UnitId) : Event → Turn → Prop where
  | wakes (h : m.phase = .start) :
      Row m now fresh .startNotifier (m.asked.stay (.startNotifier :: m.request))
  | unsafeFromStart (h : m.phase = .start) :
      Row m now fresh (.initialOldest (some m.self) false)
        (m.noticed.enter now (.becomingOldest none) [])
  | waitsFromStart {oldest : Option Address} {safe : Bool} (h : m.phase = .start)
      (other : oldest ≠ some m.self) :
      Row m now fresh (.initialOldest oldest safe) (m.noticed.enter now (.younger oldest) [])
  | hosts {e : Event} {m' : Machine} (grounds : Grounds m now e m') :
      Row m now fresh e (m'.host now fresh)
  | asksPrevious {a : Address} (h : m.phase = .younger (some a))
      (known : m.isRemoved a now = false) :
      Row m now fresh (.oldestChanged (some m.self))
        (m.noticed.enter now (.becomingOldest (some a)) [.send a .handOverToMe])
  | follows {oldest new : Option Address} (h : m.phase = .younger oldest)
      (other : new ≠ some m.self) :
      Row m now fresh (.oldestChanged new) (m.asked.stayAs (.younger new) [.requestNextOldest])
  | forgets {a : Address} (h : m.phase = .younger (some a)) :
      Row m now fresh (.delayedMemberRemoved a)
        ({ m with removed := m.removed.add a now }.stayAs (.younger none) [])
  | selfRemovedWaiting (h : waits m.phase = true) :
      Row m now fresh (.memberRemoved m.self) (m.stop [])
  | awaitsMargin {a : Address} (h : waits m.phase = true) (other : a ≠ m.self) :
      Row m now fresh (.memberRemoved a)
        (m.stay [.scheduleOnce (.delayedMemberRemoved a) m.removalMargin])
  | isPromised {sender : Address} {previous : Option Address}
      (h : m.phase = .becomingOldest previous) :
      Row m now fresh (.peer sender .handOverInProgress) (m.stay [.cancelTimer .handOverRetry])
  | refusesDone {a sender : Address} (h : m.phase = .becomingOldest (some a))
      (other : a ≠ sender) : Row m now fresh (.peer sender .handOverDone) (m.stay [])
  | adopts {sender : Address} (h : m.phase = .becomingOldest none) :
      Row m now fresh (.peer sender .takeOverFromMe)
        (m.stayAs (.becomingOldest (some sender)) [.send sender .handOverToMe])
  | answersTakeOver {a : Address} (h : m.phase = .becomingOldest (some a)) :
      Row m now fresh (.peer a .takeOverFromMe) (m.stay [.send a .handOverToMe])
  | refusesTakeOver {a sender : Address} (h : m.phase = .becomingOldest (some a))
      (other : a ≠ sender) : Row m now fresh (.peer sender .takeOverFromMe) (m.stay [])
  | retriesHandOver {previous : Option Address} {count : UInt32}
      (h : m.phase = .becomingOldest previous) (within : count ≤ m.limits.handOver)
      (fits : count.toNat < RetryLimits.bound) :
      Row m now fresh (.handOverRetry count)
        (m.stay (sendTo previous .handOverToMe ++
          [.startTimer .handOverRetry (.handOverRetry (count + 1)) m.retryInterval]))
  | overflowsHandOver {previous : Option Address} {count : UInt32}
      (h : m.phase = .becomingOldest previous) (within : count ≤ m.limits.handOver)
      (last : RetryLimits.bound ≤ count.toNat) : Row m now fresh (.handOverRetry count) m.breakOff
  | quitsHandOver {previous : Option Address} {count : UInt32}
      (h : m.phase = .becomingOldest previous) (exhausted : m.limits.handOver < count)
      (present : m.knownRemoved previous now = false) (ended : m.clusterTerminated = true) :
      Row m now fresh (.handOverRetry count) (m.stop [])
  | stuckHandOver {previous : Option Address} {count : UInt32}
      (h : m.phase = .becomingOldest previous) (exhausted : m.limits.handOver < count)
      (present : m.knownRemoved previous now = false) (running : m.clusterTerminated = false) :
      Row m now fresh (.handOverRetry count) (m.fail (handOverStuck previous))
  | hearsItself {unit : UnitId} {unitEnded : Bool} (h : m.phase = .oldest unit unitEnded) :
      Row m now fresh (.oldestChanged (some m.self)) (m.noticed.stay [])
  | yields {unit : UnitId} {unitEnded : Bool} {new : Option Address}
      (h : m.phase = .oldest unit unitEnded) (other : new ≠ some m.self)
      (trusted : ∀ a, new = some a → m.selfExited = true ∨ m.isRemoved a now = false) :
      Row m now fresh (.oldestChanged new) (m.noticed.yieldTo now unit unitEnded new)
  | handsOver {unit : UnitId} {unitEnded : Bool} {e : Event} {m' : Machine}
      {target : Option Address} (reason : Release m now unit unitEnded e m' target) :
      Row m now fresh e (m'.handOver now unit unitEnded target)
  | unitEndsAsOldest {unit : UnitId} {unitEnded : Bool} (h : m.phase = .oldest unit unitEnded) :
      Row m now fresh (.unitTerminated unit) (m.stayAs (.oldest unit true) [])
  | unitEndsAsWasOldest {unit : UnitId} {unitEnded : Bool} {newOldest : Option Address}
      (h : m.phase = .wasOldest unit unitEnded newOldest) :
      Row m now fresh (.unitTerminated unit) (m.stayAs (.wasOldest unit true newOldest) [])
  | endsQuietly {unit : UnitId} {unitEnded : Bool} {newOldest : Option Address} {count : UInt32}
      (h : m.phase = .wasOldest unit unitEnded newOldest)
      (leaving : m.clusterTerminated = true ∨ m.selfExited = true)
      (nobody : newOldest = none ∨ m.limits.takeOver < count) :
      Row m now fresh (.takeOverRetry count) (m.windDown now unit unitEnded)
  | findsNobody {unit : UnitId} {unitEnded : Bool} {newOldest : Option Address} {count : UInt32}
      (h : m.phase = .wasOldest unit unitEnded newOldest) (exhausted : m.limits.takeOver < count)
      (gone : ∀ a, newOldest = some a → m.isRemoved a now = true) :
      Row m now fresh (.takeOverRetry count) (m.windDown now unit unitEnded)
  | retriesTakeOver {unit : UnitId} {unitEnded : Bool} {newOldest : Option Address}
      {count : UInt32} (h : m.phase = .wasOldest unit unitEnded newOldest)
      (within : count ≤ m.limits.takeOver) (fits : count.toNat < RetryLimits.bound)
      (somebody : newOldest = none → m.clusterTerminated = false ∧ m.selfExited = false) :
      Row m now fresh (.takeOverRetry count)
        (m.stay (sendTo newOldest .takeOverFromMe ++
          [.startTimer .takeOverRetry (.takeOverRetry (count + 1)) m.retryInterval]))
  | overflowsTakeOver {unit : UnitId} {unitEnded : Bool} {newOldest : Option Address}
      {count : UInt32} (h : m.phase = .wasOldest unit unitEnded newOldest)
      (within : count ≤ m.limits.takeOver) (last : RetryLimits.bound ≤ count.toNat) :
      Row m now fresh (.takeOverRetry count) m.breakOff
  | stuckTakeOver {unit : UnitId} {unitEnded : Bool} {a : Address} {count : UInt32}
      (h : m.phase = .wasOldest unit unitEnded (some a)) (exhausted : m.limits.takeOver < count)
      (running : m.clusterTerminated = false ∧ m.selfExited = false)
      (known : m.isRemoved a now = false) :
      Row m now fresh (.takeOverRetry count) (m.fail (takeOverStuck (some a)))
  | selfRemovedAsWasOldest {unit : UnitId} {unitEnded : Bool} {newOldest : Option Address}
      (h : m.phase = .wasOldest unit unitEnded newOldest) (present : m.selfExited = false) :
      Row m now fresh (.memberRemoved m.self) (m.stop [])
  | completes {unit : UnitId} {target : Option Address} (h : m.phase = .handingOver unit target) :
      Row m now fresh (.unitTerminated unit) (m.handOverDone now target)
  | repeatsPromise {unit : UnitId} {a : Address} (h : m.phase = .handingOver unit (some a)) :
      Row m now fresh (.peer a .handOverToMe) (m.stay [.send a .handOverInProgress])
  | unitEndsStopping {unit : UnitId} (h : m.phase = .stopping unit) :
      Row m now fresh (.unitTerminated unit) (m.stop [])
  | selfRemovedAtEnd (h : m.phase = .ended) : Row m now fresh (.memberRemoved m.self) (m.stop [])
  | ignores {e : Event} (h : m.inPhase now fresh e = none) : Row m now fresh e (m.fallback now e)

/-! ## Every turn is a row -/

theorem inStart_row {e : Event} {t : Turn} (h : m.phase = .start)
    (ht : m.inStart now fresh e = some t) : Row m now fresh e t := by
  cases e with
  | startNotifier =>
      obtain rfl := Option.some.inj ht
      exact .wakes h
  | initialOldest oldest safe =>
      simp only [inStart] at ht
      split at ht
      next self =>
        subst self
        cases safe with
        | true =>
            obtain rfl := Option.some.inj ht
            exact .hosts (.safeFromStart h)
        | false =>
            obtain rfl := Option.some.inj ht
            exact .unsafeFromStart h
      next other =>
        obtain rfl := Option.some.inj ht
        exact .waitsFromStart h other
  | _ => exact absurd ht (by simp [inStart])

/-- What a waiting machine does with a removal. -/
theorem awaitMargin_row {a : Address} (h : waits m.phase = true) :
    Row m now fresh (.memberRemoved a) (m.awaitMargin a) := by
  unfold awaitMargin
  split
  next self =>
    subst self
    exact .selfRemovedWaiting h
  next other => exact .awaitsMargin h other

theorem inYounger_row {oldest : Option Address} {e : Event} {t : Turn}
    (h : m.phase = .younger oldest) (ht : m.inYounger oldest now fresh e = some t) :
    Row m now fresh e t := by
  cases e with
  | oldestChanged new =>
      simp only [inYounger] at ht
      split at ht
      next self =>
        subst self
        cases oldest with
        | none =>
            obtain rfl := Option.some.inj ht
            exact .hosts (.nobodyBefore h (by simp))
        | some a =>
            simp only at ht
            split at ht
            next gone =>
              obtain rfl := Option.some.inj ht
              refine .hosts (.nobodyBefore h ?_)
              rintro b ⟨⟩
              exact gone
            next known =>
              obtain rfl := Option.some.inj ht
              exact .asksPrevious h (Bool.not_eq_true _ ▸ known)
      next other =>
        obtain rfl := Option.some.inj ht
        exact .follows h other
  | memberRemoved a =>
      obtain rfl := Option.some.inj ht
      exact awaitMargin_row (by rw [h]; rfl)
  | delayedMemberRemoved a =>
      simp only [inYounger] at ht
      split at ht
      next tracked =>
        obtain rfl := Option.some.inj ht
        exact .forgets (tracked ▸ h)
      next => cases ht
  | _ => exact absurd ht (by simp [inYounger])

theorem retryHandOver_row {previous : Option Address} {count : UInt32}
    (h : m.phase = .becomingOldest previous) :
    Row m now fresh (.handOverRetry count) (m.retryHandOver previous now fresh count) := by
  unfold retryHandOver
  split
  next within =>
    unfold askAgain
    split
    next fits => exact .retriesHandOver h within fits
    next last => exact .overflowsHandOver h within (Nat.le_of_not_lt last)
  next exhausted =>
    have exhausted : m.limits.handOver < count := UInt32.not_le.mp exhausted
    split
    next gone =>
      cases previous with
      | none => cases gone
      | some a => exact .hosts (.retriesOver h exhausted gone)
    next present =>
      have present : m.knownRemoved previous now = false := by simpa using present
      split
      next ended => exact .quitsHandOver h exhausted present ended
      next running => exact .stuckHandOver h exhausted present (by simpa using running)

theorem inBecomingOldest_row {previous : Option Address} {e : Event} {t : Turn}
    (h : m.phase = .becomingOldest previous)
    (ht : m.inBecomingOldest previous now fresh e = some t) : Row m now fresh e t := by
  cases e with
  | peer sender message =>
      cases message with
      | handOverToMe => exact absurd ht (by simp [inBecomingOldest])
      | handOverInProgress =>
          obtain rfl := Option.some.inj ht
          exact .isPromised h
      | handOverDone =>
          cases previous with
          | none => exact absurd ht (by simp [inBecomingOldest])
          | some a =>
              simp only [inBecomingOldest] at ht
              split at ht
              next expected =>
                subst expected
                obtain rfl := Option.some.inj ht
                exact .hosts (.handedOver h)
              next other =>
                obtain rfl := Option.some.inj ht
                exact .refusesDone h other
      | takeOverFromMe =>
          cases previous with
          | none =>
              obtain rfl := Option.some.inj ht
              exact .adopts h
          | some a =>
              simp only [inBecomingOldest] at ht
              split at ht
              next expected =>
                subst expected
                obtain rfl := Option.some.inj ht
                exact .answersTakeOver h
              next other =>
                obtain rfl := Option.some.inj ht
                exact .refusesTakeOver h other
  | memberRemoved a =>
      obtain rfl := Option.some.inj ht
      exact awaitMargin_row (by rw [h]; rfl)
  | delayedMemberRemoved a =>
      simp only [inBecomingOldest] at ht
      split at ht
      next tracked =>
        obtain rfl := Option.some.inj ht
        exact .hosts (.marginPassed (tracked ▸ h))
      next => cases ht
  | handOverRetry count =>
      obtain rfl := Option.some.inj ht
      exact retryHandOver_row h
  | _ => exact absurd ht (by simp [inBecomingOldest])

theorem inOldest_row {unit : UnitId} {unitEnded : Bool} {e : Event} {t : Turn}
    (h : m.phase = .oldest unit unitEnded) (ht : m.inOldest unit unitEnded now e = some t) :
    Row m now fresh e t := by
  cases e with
  | oldestChanged new =>
      cases new with
      | none =>
          obtain rfl := Option.some.inj ht
          exact .yields h (by simp) (by simp)
      | some a =>
          simp only [inOldest] at ht
          split at ht
          next self =>
            subst self
            obtain rfl := Option.some.inj ht
            exact .hearsItself h
          next other =>
            split at ht
            next gone =>
              obtain ⟨present, gone⟩ := Bool.and_eq_true_iff.mp gone
              obtain rfl := Option.some.inj ht
              exact .handsOver (.claimOfRemoved h other (by simpa using present) gone)
            next trusted =>
              obtain rfl := Option.some.inj ht
              refine .yields h (by simpa using other) ?_
              rintro b ⟨⟩
              cases hx : m.selfExited with
              | true => exact Or.inl rfl
              | false => exact Or.inr (by simpa [hx] using trusted)
  | peer sender message =>
      cases message with
      | handOverToMe =>
          obtain rfl := Option.some.inj ht
          exact .handsOver (.askedAsOldest h)
      | _ => exact absurd ht (by simp [inOldest])
  | unitTerminated u =>
      simp only [inOldest] at ht
      split at ht
      next same =>
        subst same
        obtain rfl := Option.some.inj ht
        exact .unitEndsAsOldest h
      next => cases ht
  | _ => exact absurd ht (by simp [inOldest])

theorem retryTakeOver_row {unit : UnitId} {unitEnded : Bool} {newOldest : Option Address}
    {count : UInt32} (h : m.phase = .wasOldest unit unitEnded newOldest) :
    Row m now fresh (.takeOverRetry count)
      (m.retryTakeOver unit unitEnded newOldest now count) := by
  unfold retryTakeOver
  split
  next quiet =>
    simp only [Bool.and_eq_true, Bool.or_eq_true, Option.isNone_iff_eq_none,
      decide_eq_true_eq] at quiet
    exact .endsQuietly h quiet.1 quiet.2
  next loud =>
    -- without a new oldest, or past the limit, nothing has told the machine to leave
    have running : newOldest = none ∨ m.limits.takeOver < count →
        m.clusterTerminated = false ∧ m.selfExited = false := by
      intro nobody
      simpa [nobody] using loud
    split
    next within =>
      unfold askAgain
      split
      next fits => exact .retriesTakeOver h within fits (fun none => running (Or.inl none))
      next last => exact .overflowsTakeOver h within (Nat.le_of_not_lt last)
    next exhausted =>
      have exhausted : m.limits.takeOver < count := UInt32.not_le.mp exhausted
      cases newOldest with
      | none => exact .findsNobody h exhausted (by simp)
      | some a =>
          cases known : m.isRemoved a now with
          | true =>
              simp only [knownRemoved, known, Bool.or_true, if_true]
              exact .findsNobody h exhausted (by simpa using known)
          | false =>
              simp only [knownRemoved, known, Option.isNone_some, Bool.or_false,
                Bool.false_eq_true, if_false]
              exact .stuckTakeOver h exhausted (running (Or.inr exhausted)) known

theorem inWasOldest_row {unit : UnitId} {unitEnded : Bool} {newOldest : Option Address}
    {e : Event} {t : Turn} (h : m.phase = .wasOldest unit unitEnded newOldest)
    (ht : m.inWasOldest unit unitEnded newOldest now e = some t) : Row m now fresh e t := by
  cases e with
  | takeOverRetry count =>
      obtain rfl := Option.some.inj ht
      exact retryTakeOver_row h
  | peer sender message =>
      cases message with
      | handOverToMe =>
          obtain rfl := Option.some.inj ht
          exact .handsOver (.askedAsWasOldest h)
      | _ => exact absurd ht (by simp [inWasOldest])
  | memberRemoved a =>
      simp only [inWasOldest] at ht
      split at ht
      next => cases ht
      next present =>
        have present : m.selfExited = false := by simpa using present
        split at ht
        next self =>
          subst self
          obtain rfl := Option.some.inj ht
          exact .selfRemovedAsWasOldest h present
        next other =>
          split at ht
          next tracked =>
            subst tracked
            obtain rfl := Option.some.inj ht
            exact .handsOver (.newOldestRemoved h other present)
          next => cases ht
  | unitTerminated u =>
      simp only [inWasOldest] at ht
      split at ht
      next same =>
        subst same
        obtain rfl := Option.some.inj ht
        exact .unitEndsAsWasOldest h
      next => cases ht
  | _ => exact absurd ht (by simp [inWasOldest])

theorem inHandingOver_row {unit : UnitId} {target : Option Address} {e : Event} {t : Turn}
    (h : m.phase = .handingOver unit target) (ht : m.inHandingOver unit target now e = some t) :
    Row m now fresh e t := by
  cases e with
  | unitTerminated u =>
      simp only [inHandingOver] at ht
      split at ht
      next same =>
        subst same
        obtain rfl := Option.some.inj ht
        exact .completes h
      next => cases ht
  | peer sender message =>
      cases message with
      | handOverToMe =>
          simp only [inHandingOver] at ht
          split at ht
          next asked =>
            obtain rfl := Option.some.inj ht
            exact .repeatsPromise (asked ▸ h)
          next => cases ht
      | _ => exact absurd ht (by simp [inHandingOver])
  | _ => exact absurd ht (by simp [inHandingOver])

theorem inStopping_row {unit : UnitId} {e : Event} {t : Turn} (h : m.phase = .stopping unit)
    (ht : m.inStopping unit e = some t) : Row m now fresh e t := by
  cases e with
  | unitTerminated u =>
      simp only [inStopping] at ht
      split at ht
      next same =>
        subst same
        obtain rfl := Option.some.inj ht
        exact .unitEndsStopping h
      next => cases ht
  | _ => exact absurd ht (by simp [inStopping])

theorem inEnded_row {e : Event} {t : Turn} (h : m.phase = .ended) (ht : m.inEnded e = some t) :
    Row m now fresh e t := by
  cases e with
  | memberRemoved a =>
      simp only [inEnded] at ht
      split at ht
      next self =>
        subst self
        obtain rfl := Option.some.inj ht
        exact .selfRemovedAtEnd h
      next => cases ht
  | _ => exact absurd ht (by simp [inEnded])

theorem inPhase_row {e : Event} {t : Turn} (ht : m.inPhase now fresh e = some t) :
    Row m now fresh e t := by
  unfold inPhase at ht
  split at ht
  next h => exact inStart_row h ht
  next h => exact inYounger_row h ht
  next h => exact inBecomingOldest_row h ht
  next h => exact inOldest_row h ht
  next h => exact inWasOldest_row h ht
  next h => exact inHandingOver_row h ht
  next h => exact inStopping_row h ht
  next h => exact inEnded_row h ht

/-- **The table is complete.** Every answer of a machine that is not terminated is a row. -/
theorem handle_row (running : m.terminated = false) (e : Event) :
    Row m now fresh e (m.handle now fresh e) := by
  rw [handle, running]
  cases ht : m.inPhase now fresh e with
  | none => exact .ignores ht
  | some t => exact inPhase_row ht

/-- A terminated machine answers nothing and stays as it is. -/
theorem handle_terminated (done : m.terminated = true) (e : Event) :
    m.handle now fresh e = ⟨m, [], .stopped⟩ := by
  rw [handle, if_pos done]

end ClusterSingleton.Machine
