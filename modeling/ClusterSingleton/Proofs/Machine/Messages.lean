import ClusterSingleton.Proofs.Machine.Answers
import ClusterSingleton.Proofs.Units.Turns

/-!
# Who is told what

Every message of a machine, with the event that it answers. `Writes` has one case for each of them, and
`writes_iff` says that a running machine sends just these. `Row.handsOverTo` adds for whom a unit is
told to end.
-/

namespace ClusterSingleton

/-- Who is to hear of the end of the unit. -/
def Phase.handOverTarget? : Phase → Option Address
  | handingOver _ target => target
  | _ => none

namespace Machine

/-- The messages of a machine: the event, the addressee, and what it is told. -/
inductive Writes (m : Machine) (now : Nat) : Event → Address → Message → Prop where
  | asksPrevious {a : Address} (h : m.phase = .younger (some a))
      (known : m.isRemoved a now = false) :
      Writes m now (.oldestChanged (some m.self)) a .handOverToMe
  | answersTakeOver {a : Address} {previous : Option Address}
      (h : m.phase = .becomingOldest previous) (expected : ∀ b, previous = some b → b = a) :
      Writes m now (.peer a .takeOverFromMe) a .handOverToMe
  | asksAgain {a : Address} {count : UInt32} (h : m.phase = .becomingOldest (some a))
      (within : count ≤ m.limits.handOver) (fits : count.toNat < RetryLimits.bound) :
      Writes m now (.handOverRetry count) a .handOverToMe
  | promises {a : Address} {unit : UnitId} (held : m.phase.hold = .hosted unit false) :
      Writes m now (.peer a .handOverToMe) a .handOverInProgress
  | promisesAgain {a : Address} {unit : UnitId} (h : m.phase = .handingOver unit (some a)) :
      Writes m now (.peer a .handOverToMe) a .handOverInProgress
  | declaresAtOnce {a : Address} {unit : UnitId} (held : m.phase.hold = .hosted unit true) :
      Writes m now (.peer a .handOverToMe) a .handOverDone
  | declaresDone {a : Address} {unit : UnitId} (h : m.phase = .handingOver unit (some a)) :
      Writes m now (.unitTerminated unit) a .handOverDone
  | announces {a : Address} (hosts : m.state = .oldest) (other : a ≠ m.self)
      (trusted : m.selfExited = true ∨ m.isRemoved a now = false) :
      Writes m now (.oldestChanged (some a)) a .takeOverFromMe
  | announcesAgain {a : Address} {unit : UnitId} {unitEnded : Bool} {count : UInt32}
      (h : m.phase = .wasOldest unit unitEnded (some a)) (within : count ≤ m.limits.takeOver)
      (fits : count.toNat < RetryLimits.bound) :
      Writes m now (.takeOverRetry count) a .takeOverFromMe

variable {m : Machine} {now : Nat} {fresh : UnitId} {e : Event} {a : Address} {message : Message}

/-! ## Messages of the moves -/

section Moves

variable {target : Option Address} {unit : UnitId} {unitEnded : Bool}

@[simp] theorem mem_sendTo {other : Message} :
    .send a message ∈ sendTo target other ↔ target = some a ∧ message = other := by
  cases target with
  | none => simp [sendTo]
  | some b =>
      rw [sendTo, List.mem_singleton, Effect.send.injEq, Option.some.injEq]
      exact and_congr_left fun _ => eq_comm

@[simp] theorem not_mem_request : .send a message ∉ m.request := by
  unfold request
  split <;> simp

theorem mem_send_enter {p : Phase} {effects : List Effect} :
    .send a message ∈ (m.enter now p effects).effects ↔ .send a message ∈ effects := by
  have left : .send a message ∉ leave m.state := by cases m.state <;> simp [leave]
  have arriving : .send a message ∉ m.arrival p := by cases p <;> simp [arrival]
  rw [enter_effects, List.mem_append, List.mem_append, or_iff_left arriving, or_iff_left left]

theorem mem_send_yieldTo :
    .send a message ∈ (m.yieldTo now unit unitEnded target).effects ↔
      target = some a ∧ message = .takeOverFromMe := by
  rw [yieldTo, mem_send_enter]
  simp

theorem mem_send_handOverDone :
    .send a message ∈ (m.handOverDone now target).effects ↔
      target = some a ∧ message = .handOverDone := by
  simp only [handOverDone]
  split
  · exact mem_sendTo
  · split <;> exact mem_send_enter.trans mem_sendTo

theorem mem_send_handOver :
    .send a message ∈ (m.handOver now unit unitEnded target).effects ↔
      target = some a ∧ message = if unitEnded then .handOverDone else .handOverInProgress := by
  unfold handOver
  split
  · exact mem_send_handOverDone
  · rw [mem_send_enter]
    simp

theorem not_mem_windDown : .send a message ∉ (m.windDown now unit unitEnded).effects := by
  unfold windDown
  split
  · exact List.not_mem_nil
  · rw [mem_send_enter]
    simp

end Moves

/-! ## Every message -/

theorem Row.writes {t : Turn} (row : Row m now fresh e t) (mem : .send a message ∈ t.effects) :
    Writes m now e a message := by
  cases row with
  | asksPrevious h known =>
      rw [mem_send_enter] at mem
      cases List.mem_singleton.mp mem
      exact .asksPrevious h known
  | adopts h =>
      cases List.mem_singleton.mp mem
      exact .answersTakeOver h (by simp)
  | answersTakeOver h =>
      cases List.mem_singleton.mp mem
      exact .answersTakeOver h (by simp)
  | retriesHandOver h within fits =>
      obtain ⟨rfl, rfl⟩ : _ = some a ∧ message = .handOverToMe := by simpa using mem
      exact .asksAgain h within fits
  | @handsOver unit unitEnded event m' target reason =>
      obtain ⟨asked, told⟩ := mem_send_handOver.mp mem
      have held : m.phase.hold = .hosted unit unitEnded := reason.held.1
      cases reason with
      | askedAsOldest | askedAsWasOldest =>
          cases asked
          cases unitEnded with
          | true => exact told ▸ .declaresAtOnce held
          | false => exact told ▸ .promises held
      | claimOfRemoved | newOldestRemoved => cases asked
  | yields h other trusted =>
      obtain ⟨rfl, rfl⟩ := mem_send_yieldTo.mp mem
      exact .announces (congrArg Phase.state h) (by simpa using other) (trusted a rfl)
  | retriesTakeOver h within fits =>
      obtain ⟨rfl, rfl⟩ : _ = some a ∧ message = .takeOverFromMe := by simpa using mem
      exact .announcesAgain h within fits
  | completes h =>
      obtain ⟨rfl, rfl⟩ := mem_send_handOverDone.mp mem
      exact .declaresDone h
  | repeatsPromise h =>
      cases List.mem_singleton.mp mem
      exact .promisesAgain h
  | hosts | unsafeFromStart | waitsFromStart =>
      have given := mem_send_enter.mp mem
      simp at given
  | endsQuietly | findsNobody => exact absurd mem not_mem_windDown
  | _ => simp at mem

/-- A machine that hosts a unit hands it over on request, whether the unit has ended or not. -/
theorem handle_handOverToMe {unit : UnitId} {unitEnded : Bool} (running : m.terminated = false)
    (held : m.phase.hold = .hosted unit unitEnded) :
    m.handle now fresh (.peer a .handOverToMe) = m.handOver now unit unitEnded (some a) := by
  rw [handle, running, inPhase]
  cases h : m.phase with
  | oldest | wasOldest =>
      rw [h] at held
      cases held
      rfl
  | _ => simp [h, Phase.hold] at held

theorem Writes.sent (writes : Writes m now e a message) (running : m.terminated = false) :
    .send a message ∈ (m.handle now fresh e).effects := by
  cases writes with
  | asksPrevious h known =>
      rw [handle, running, inPhase, h]
      simp [inYounger, known, arrival]
  | @answersTakeOver _ previous h expected =>
      rw [handle, running, inPhase, h]
      cases previous with
      | none => simp [inBecomingOldest]
      | some b => simp [inBecomingOldest, expected b rfl]
  | asksAgain h within fits =>
      rw [handle, running, inPhase, h]
      simp [inBecomingOldest, retryHandOver, within, askAgain, fits]
  | promises held =>
      rw [handle_handOverToMe running held]
      exact mem_send_handOver.mpr ⟨rfl, rfl⟩
  | declaresAtOnce held =>
      rw [handle_handOverToMe running held]
      exact mem_send_handOver.mpr ⟨rfl, rfl⟩
  | promisesAgain h =>
      rw [handle, running, inPhase, h]
      simp [inHandingOver]
  | declaresDone h =>
      rw [handle, running, inPhase, h]
      simp [inHandingOver, mem_send_handOverDone]
  | announces hosts other trusted =>
      have turn : ∃ unit unitEnded, m.handle now fresh (.oldestChanged (some a)) =
          m.noticed.yieldTo now unit unitEnded (some a) := by
        rw [handle, running, inPhase]
        cases h : m.phase with
        | oldest unit unitEnded =>
            refine ⟨unit, unitEnded, ?_⟩
            rcases trusted with left | known <;> simp [inOldest, *]
        | _ => simp [state, h, Phase.state] at hosts
      obtain ⟨unit, unitEnded, turn⟩ := turn
      rw [turn]
      exact mem_send_yieldTo.mpr ⟨rfl, rfl⟩
  | announcesAgain h within fits =>
      rw [handle, running, inPhase, h]
      simp [inWasOldest, retryTakeOver, within, UInt32.not_lt.mpr within, askAgain, fits]

/-- **A running machine sends just these messages.** -/
theorem writes_iff (running : m.terminated = false) :
    .send a message ∈ (m.handle now fresh e).effects ↔ Writes m now e a message :=
  ⟨(handle_row running e).writes, fun writes => writes.sent running⟩

/-! ## Every hand-over -/

section Targets

variable {target : Option Address} {unit : UnitId} {unitEnded : Bool}

/-- When a hand-over is done none is under way, unless the machine has stopped where it was. -/
theorem handOverDone_target (m : Machine) (now : Nat) (target : Option Address) :
    (m.handOverDone now target).machine.phase.handOverTarget? = none ∨
      (m.handOverDone now target).machine.phase = m.phase := by
  simp only [handOverDone]
  split
  · exact Or.inr rfl
  · split <;> exact Or.inl (by rw [enter_machine]; rfl)

theorem handOver_target
    (there : (m.handOver now unit unitEnded target).machine.phase.handOverTarget? = some a) :
    target = some a ∨ m.phase.handOverTarget? = some a := by
  unfold handOver at there
  split at there
  · rcases handOverDone_target m now target with none | still
    · rw [none] at there
      cases there
    · exact Or.inr (still ▸ there)
  · rw [enter_machine] at there
    exact Or.inl there

theorem windDown_target :
    (m.windDown now unit unitEnded).machine.phase.handOverTarget? = none ∨
      (m.windDown now unit unitEnded).machine.phase = m.phase := by
  unfold windDown
  split
  · exact Or.inr rfl
  · exact Or.inl (by rw [enter_machine]; rfl)

end Targets

/-- **A hand-over begins only for the node that asks the host for it.** -/
theorem Row.handsOverTo {t : Turn} (row : Row m now fresh e t)
    (there : t.machine.phase.handOverTarget? = some a) :
    (e = .peer a .handOverToMe ∧ ∃ unit unitEnded, m.phase.hold = .hosted unit unitEnded) ∨
      m.phase.handOverTarget? = some a := by
  have onward (left : t.machine.phase.handOverTarget? = none ∨ t.machine.phase = m.phase) :
      m.phase.handOverTarget? = some a := by
    rcases left with none | same
    · rw [none] at there
      cases there
    · exact same ▸ there
  cases row with
  | handsOver reason =>
      rcases handOver_target there with asked | before
      · have held := reason.held.1
        cases reason with
        | askedAsOldest | askedAsWasOldest =>
            cases asked
            exact Or.inl ⟨rfl, _, _, held⟩
        | claimOfRemoved | newOldestRemoved => cases asked
      · exact Or.inr (reason.phase ▸ before)
  | completes => exact Or.inr (onward (handOverDone_target ..))
  | endsQuietly | findsNobody => exact Or.inr (onward windDown_target)
  | ignores => exact Or.inr (onward (Or.inr fallback_frame.1))
  | hosts | unsafeFromStart | waitsFromStart | asksPrevious | yields =>
      exact Or.inr (onward (Or.inl (by simp only [host, yieldTo, enter_machine]; rfl)))
  | follows | forgets | adopts | unitEndsAsOldest | unitEndsAsWasOldest =>
      exact Or.inr (onward (Or.inl rfl))
  | _ => exact Or.inr (onward (Or.inr rfl))

end Machine

end ClusterSingleton
