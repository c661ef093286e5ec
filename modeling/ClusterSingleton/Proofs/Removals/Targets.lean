import ClusterSingleton.Proofs.Machine.History
import ClusterSingleton.Proofs.Machine.Messages

/-!
# Removed members as targets

A member that is remembered as removed is not to take the unit over any more. `removed_not_targeted`
says what that memory keeps a machine from. It looks there when it hears of a new oldest member, but
not when it is asked for the unit; nor if its own node has left, nor before its retries are used up.
-/

namespace ClusterSingleton

/-- Who hosts a unit has it. -/
theorem Phase.hosted_iff {p : Phase} :
    (∃ unit unitEnded, p.hold = .hosted unit unitEnded) ↔ p.state = .oldest ∨ p.state = .wasOldest := by
  cases p <;> simp [hold, state]

namespace Machine

/-- A step takes a node for a target: a hand-over to it begins, it is told of one that was not under
way, or it is asked to take over. -/
inductive Targets (m : Machine) (a : Address) (t : Turn) : Prop where
  | begins (before : m.phase.handOverTarget? ≠ some a)
      (after : t.machine.phase.handOverTarget? = some a)
  | promises (before : m.phase.handOverTarget? ≠ some a) (sends : .send a .handOverInProgress ∈ t.effects)
  | declares (before : m.phase.handOverTarget? ≠ some a) (sends : .send a .handOverDone ∈ t.effects)
  | announces (sends : .send a .takeOverFromMe ∈ t.effects)

/-- Where a machine does not look whether a node was removed: it hosts the unit and is asked for it, it
has left and hears of a new oldest member, or it has asked that member before. -/
inductive Disregards (m : Machine) (a : Address) : Event → Prop where
  | asked (hosts : m.state = .oldest ∨ m.state = .wasOldest) : Disregards m a (.peer a .handOverToMe)
  | leaving (hosts : m.state = .oldest) (other : a ≠ m.self) (left : m.selfExited = true) :
      Disregards m a (.oldestChanged (some a))
  | retries {unit : UnitId} {unitEnded : Bool} {count : UInt32}
      (h : m.phase = .wasOldest unit unitEnded (some a)) (within : count ≤ m.limits.takeOver)
      (fits : count.toNat < RetryLimits.bound) : Disregards m a (.takeOverRetry count)

variable {m : Machine} {a : Address} {now : Nat} {fresh : UnitId} {e : Event}

/-- Who is asked for the unit that it hosts takes the asking node for a target. -/
theorem targets_of_asked (running : m.terminated = false)
    (hosts : m.state = .oldest ∨ m.state = .wasOldest) :
    Targets m a (m.handle now fresh (.peer a .handOverToMe)) := by
  obtain ⟨unit, unitEnded, held⟩ := Phase.hosted_iff.mpr hosts
  have before : m.phase.handOverTarget? ≠ some a := by
    cases h : m.phase with
    | handingOver unit target => simp [h, Phase.hold] at held
    | _ => rintro ⟨⟩
  cases unitEnded with
  | false => exact .promises before ((writes_iff running).mpr (.promises held))
  | true => exact .declares before ((writes_iff running).mpr (.declaresAtOnce held))

theorem disregards_of_targets (running : m.terminated = false) (gone : m.isRemoved a now = true)
    (targets : Targets m a (m.handle now fresh e)) : Disregards m a e := by
  have row : Row m now fresh e (m.handle now fresh e) := handle_row running e
  cases targets with
  | begins before after =>
      obtain ⟨rfl, held⟩ := (row.handsOverTo after).resolve_right before
      exact .asked (Phase.hosted_iff.mp held)
  | promises before sends =>
      cases row.writes sends with
      | promises held => exact .asked (Phase.hosted_iff.mp ⟨_, _, held⟩)
      | promisesAgain h => exact absurd (congrArg Phase.handOverTarget? h) before
  | declares before sends =>
      cases row.writes sends with
      | declaresAtOnce held => exact .asked (Phase.hosted_iff.mp ⟨_, _, held⟩)
      | declaresDone h => exact absurd (congrArg Phase.handOverTarget? h) before
  | announces sends =>
      cases row.writes sends with
      | announces hosts other trusted =>
          have left : m.selfExited = true := by simpa [gone] using trusted
          exact .leaving hosts other left
      | announcesAgain h within fits => exact .retries h within fits

/-- **A removed member is no target**, but where the machine does not look whether it was removed. Once
a hand-over to it is under way, it is told so when it asks again, and when the unit has ended. -/
theorem removed_not_targeted (gone : m.isRemoved a now = true) (fresh : UnitId) (e : Event) :
    (Targets m a (m.handle now fresh e) ↔ m.terminated = false ∧ Disregards m a e) ∧
      ∀ unit, m.terminated = false → m.phase = .handingOver unit (some a) →
        (.send a .handOverInProgress ∈ (m.handle now fresh e).effects ↔ e = .peer a .handOverToMe) ∧
          (.send a .handOverDone ∈ (m.handle now fresh e).effects ↔ e = .unitTerminated unit) := by
  refine ⟨⟨fun targets => ?_, ?_⟩, fun unit running phase => ?_⟩
  · cases done : m.terminated with
    | true =>
        rw [handle_terminated done] at targets
        cases targets with
        | begins before after => exact absurd after before
        | promises before sends | declares before sends | announces sends => cases sends
    | false => exact ⟨rfl, disregards_of_targets done gone targets⟩
  · rintro ⟨running, disregards⟩
    cases disregards with
    | asked hosts => exact targets_of_asked running hosts
    | leaving hosts other left =>
        exact .announces ((writes_iff running).mpr (.announces hosts other (Or.inl left)))
    | retries h within fits => exact .announces ((writes_iff running).mpr (.announcesAgain h within fits))
  · rw [writes_iff running, writes_iff running]
    refine ⟨⟨?_, ?_⟩, ⟨?_, ?_⟩⟩
    · rintro (_ | _) <;> rfl
    · rintro rfl
      exact .promisesAgain phase
    · intro writes
      cases writes with
      | declaresAtOnce held => simp [phase, Phase.hold] at held
      | declaresDone h => cases phase.symm.trans h; rfl
    · rintro rfl
      exact .declaresDone phase

/-- A node hosts the unit and has seen `c` removed. -/
def hostsWithoutC : Machine :=
  (Profile.mk ⟨"a"⟩ ⟨5, 2⟩ 1000 2000 900000).machine.run
    [⟨0, .nth 0, .startNotifier⟩, ⟨0, .nth 1, .initialOldest (some ⟨"a"⟩) true⟩,
      ⟨10, .nth 0, .memberRemoved ⟨"c"⟩⟩]

/-- When `c` is named the oldest again it is no target, unless the node has left; but the unit is
handed over to it if it asks. -/
theorem removed_not_targeted_claimsAgain :
    let c : Address := ⟨"c"⟩
    let left := hostsWithoutC.run [⟨15, .nth 0, .memberExited ⟨"a"⟩⟩]
    let asked := hostsWithoutC.handle 20 (.nth 0) (.peer c .handOverToMe)
    hostsWithoutC.isRemoved c 20 = true ∧ left.isRemoved c 20 = true ∧
      ¬ Targets hostsWithoutC c (hostsWithoutC.handle 20 (.nth 0) (.oldestChanged (some c))) ∧
      Targets left c (left.handle 20 (.nth 0) (.oldestChanged (some c))) ∧
      Targets hostsWithoutC c asked ∧ asked.machine.phase = .handingOver (.nth 1) (some c) := by
  intro c left asked
  have gone : hostsWithoutC.isRemoved c 20 = true := by decide
  have gone' : left.isRemoved c 20 = true := by decide
  refine ⟨gone, gone', fun targets => ?_, ?_, ?_, by decide⟩
  · cases ((removed_not_targeted gone (.nth 0) (.oldestChanged (some c))).1.mp targets).2 with
    | leaving hosts other left => exact absurd left (by decide)
  · exact (removed_not_targeted gone' (.nth 0) (.oldestChanged (some c))).1.mpr
      ⟨by decide, .leaving (by decide) (by decide) (by decide)⟩
  · exact (removed_not_targeted gone (.nth 0) _).1.mpr ⟨by decide, .asked (by decide)⟩

end Machine

end ClusterSingleton
