import ClusterSingleton.Proofs.Machine.Stray

/-!
# Messages that arrive more than once

A node sends its requests again until they are answered, so the other node may be handed the same
message many times. `Heeded` lists what a machine has made of a message, and the answer that every
further copy gets. `heeded_after` says that one copy is enough to get there, whatever the machine
was before; `copies_unheeded` that the copies after it move nothing and ask for nothing that must
not happen twice.
-/

namespace ClusterSingleton.Machine

variable {m : Machine} {now : Nat} {fresh : UnitId} {sender : Address} {message : Message}

/-- The message has done its work on the machine; a further copy is answered with these effects. -/
inductive Heeded (m : Machine) (sender : Address) : Message → List Effect → Prop where
  | stopped {message : Message} (done : m.terminated = true) : Heeded m sender message []
  | settled {message : Message} (stray : Stray m (.peer sender message)) :
      Heeded m sender message []
  /-- The sender is the one that the machine asks for the unit, and is asked again. -/
  | asked (running : m.terminated = false) (h : m.phase = .becomingOldest (some sender)) :
      Heeded m sender .takeOverFromMe [.send sender .handOverToMe]
  /-- The machine has put its retries aside. -/
  | promised {previous : Option Address} (running : m.terminated = false)
      (h : m.phase = .becomingOldest previous) :
      Heeded m sender .handOverInProgress [.cancelTimer .handOverRetry]
  /-- The unit was told to end for the sender, which is told so again. -/
  | assured {unit : UnitId} (running : m.terminated = false)
      (h : m.phase = .handingOver unit (some sender)) :
      Heeded m sender .handOverToMe [.send sender .handOverInProgress]

/-- What must happen once only is not among the effects. -/
structure Repeatable (effects : List Effect) : Prop where
  startsNone : ∀ unit, .startUnit unit ∉ effects
  endsNone : ∀ unit, .terminateUnit unit ∉ effects
  noDone : ∀ a, .send a .handOverDone ∉ effects
  noTimer : ∀ key event after, .startTimer key event after ∉ effects
  noRequest : .requestNextOldest ∉ effects

/-! ## One copy -/

theorem Heeded.repeatable {effects : List Effect} (h : Heeded m sender message effects) :
    Repeatable effects := by
  cases h <;> constructor <;> simp

/-- **A further copy moves nothing.** -/
theorem Heeded.handle {effects : List Effect} (h : Heeded m sender message effects) :
    m.handle now fresh (.peer sender message) = ⟨m, effects, quiet m.terminated⟩ := by
  cases done : m.terminated with
  | true =>
      rw [handle_terminated done]
      cases h with
      | stopped | settled => rfl
      | asked running | promised running | assured running => cases running.symm.trans done
  | false =>
      have row : Row m now fresh (.peer sender message)
          (m.handle now fresh (.peer sender message)) := handle_row done _
      cases h with
      | stopped stops => cases done.symm.trans stops
      | settled stray => exact row.unheeded stray
      | asked _ h =>
          rw [Machine.handle, done, inPhase, h]
          simp [inBecomingOldest, stay, quiet]
      | promised _ h =>
          rw [Machine.handle, done, inPhase, h]
          rfl
      | assured _ h =>
          rw [Machine.handle, done, inPhase, h]
          simp [inHandingOver, stay, quiet]

theorem handOver_heeded {unit : UnitId} {unitEnded : Bool} (running : m.terminated = false) :
    ∃ effects, Heeded (m.handOver now unit unitEnded (some sender)).machine sender .handOverToMe
      effects := by
  cases unitEnded with
  | false =>
      -- the machine has begun to hand over to the sender
      have goesOn : (m.handOver now unit false (some sender)).machine.terminated = false := by
        simp [handOver, endsRemoved, running]
      have phase : (m.handOver now unit false (some sender)).machine.phase =
          .handingOver unit (some sender) := by simp [handOver]
      exact ⟨_, .assured goesOn phase⟩
  | true =>
      refine ⟨[], ?_⟩
      show Heeded (m.handOverDone now (some sender)).machine sender .handOverToMe []
      simp only [handOverDone]
      split
      · exact .stopped rfl
      · refine .settled (.handOverToMe ?_ ?_ ?_) <;> split <;> simp [state, Phase.state]

theorem Row.heeded {t : Turn} (row : Row m now fresh (.peer sender message) t)
    (running : m.terminated = false) : ∃ effects, Heeded t.machine sender message effects := by
  cases row with
  | hosts grounds =>
      cases grounds with
      | handedOver => exact ⟨[], .settled (.handOverDone (by simp [host]))⟩
  | isPromised h => exact ⟨_, .promised running h⟩
  | refusesDone h other => exact ⟨[], .settled (.handOverDone (by simpa [h] using other))⟩
  | adopts => exact ⟨_, .asked running rfl⟩
  | answersTakeOver h => exact ⟨_, .asked running h⟩
  | refusesTakeOver h other =>
      exact ⟨[], .settled (.takeOverFromMe (by simp [h]) (by simpa [h] using other))⟩
  | handsOver reason =>
      cases reason with
      | askedAsOldest | askedAsWasOldest => exact handOver_heeded running
  | repeatsPromise h => exact ⟨_, .assured running h⟩
  | ignores unanswered =>
      have stray : Stray m (.peer sender message) :=
        (stray_of_unanswered unanswered).resolve_right (by simp [Event.isNews])
      exact ⟨[], .settled stray⟩

/-- **One copy is enough**, whatever the machine was before. -/
theorem heeded_after (m : Machine) (now : Nat) (fresh : UnitId) (sender : Address)
    (message : Message) :
    ∃ effects,
      Heeded (m.handle now fresh (.peer sender message)).machine sender message effects := by
  cases done : m.terminated with
  | true =>
      rw [handle_terminated done]
      exact ⟨[], .stopped done⟩
  | false => exact (handle_row done _).heeded done

/-! ## Any number of copies -/

/-- The copies of a message, each with the time at which it arrives and the identifier that a unit
would get. -/
def copies (sender : Address) (message : Message) (arrivals : List (Nat × UnitId)) : List Input :=
  arrivals.map fun x => ⟨x.1, x.2, .peer sender message⟩

theorem Heeded.run {effects : List Effect} (h : Heeded m sender message effects)
    (arrivals : List (Nat × UnitId)) :
    m.run (copies sender message arrivals) = m ∧
      ∀ e ∈ m.history (copies sender message arrivals),
        e.turn = ⟨m, effects, quiet m.terminated⟩ := by
  induction arrivals with
  | nil =>
      refine ⟨rfl, ?_⟩
      intro e mem
      cases mem
  | cons x rest ih =>
      have same : (Entry.mk ⟨x.1, x.2, .peer sender message⟩ m).after = m :=
        congrArg Turn.machine h.handle
      constructor
      · show (Entry.mk ⟨x.1, x.2, .peer sender message⟩ m).after.run
          (copies sender message rest) = m
        rw [same]
        exact ih.1
      · intro e mem
        rcases List.mem_cons.mp mem with rfl | later
        · exact h.handle
        · rw [same] at later
          exact ih.2 e later

/-- **A message that arrives again changes nothing.** Say a machine is handed a message, and any
number of copies of it at any later or earlier times. Then it is what the first copy made of it,
state and data, memory and flags, and every further copy gets the same answer: no unit is started or
told to end for it, no hand-over is declared done, no timer is started and the notifier is not
asked. -/
theorem copies_unheeded (m : Machine) (now : Nat) (fresh : UnitId) (sender : Address)
    (message : Message) (arrivals : List (Nat × UnitId)) :
    let once := (m.handle now fresh (.peer sender message)).machine
    let again := copies sender message arrivals
    once.run again = once ∧
      ∃ effects, Heeded once sender message effects ∧ Repeatable effects ∧
        ∀ e ∈ once.history again, e.turn = ⟨once, effects, quiet once.terminated⟩ := by
  intro once again
  obtain ⟨effects, heeded⟩ := heeded_after m now fresh sender message
  obtain ⟨same, answers⟩ := heeded.run arrivals
  exact ⟨same, effects, heeded, heeded.repeatable, answers⟩

/-- A node whose unit has ended is asked for it three times. -/
example :
    let m : Machine := (Profile.machine ⟨⟨"a"⟩, ⟨5, 2⟩, 1000, 2000, 900000⟩).run
      [⟨0, .nth 0, .initialOldest (some ⟨"a"⟩) true⟩, ⟨5, .nth 9, .unitTerminated (.nth 0)⟩]
    (m.history (copies ⟨"b"⟩ .handOverToMe [(10, .nth 9), (10, .nth 9), (11, .nth 9)])).map
        Entry.effects =
      [[.send ⟨"b"⟩ .handOverDone], [], []] := by decide

end ClusterSingleton.Machine
