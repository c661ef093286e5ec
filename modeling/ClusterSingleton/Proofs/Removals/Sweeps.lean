import ClusterSingleton.Proofs.Removals.Memory

/-!
# Nobody notices a cleanup

A cleanup drops the removals that count no longer. A machine asks for a removal only at the time of
an event, so whether an entry past its deadline is still there makes no difference to it. `swept` is
the machine without such entries: `handle_swept` says that a step commutes with it, and
`cleanup_unobservable` that a run answers the same, whatever cleanups are put in.
-/

namespace ClusterSingleton

namespace RemovedMembers

variable {r : RemovedMembers} {a : Address} {now later : Nat}

theorem contains_cleanup (le : now ≤ later) :
    (r.cleanup now).contains a later = r.contains a later := by
  rw [Bool.eq_iff_iff, contains_iff, contains_iff]
  constructor
  · rintro ⟨d, mem, valid⟩
    exact ⟨d, (mem_cleanup.mp mem).1, valid⟩
  · rintro ⟨d, mem, valid⟩
    exact ⟨d, mem_cleanup.mpr ⟨mem, Nat.lt_of_le_of_lt le valid⟩, valid⟩

/-- The later of two cleanups would have been enough. -/
theorem cleanup_cleanup (le : now ≤ later) : (r.cleanup now).cleanup later = r.cleanup later := by
  simp only [cleanup, List.filter_filter]
  congr 1
  refine List.filter_congr fun e _ => ?_
  rw [Bool.eq_iff_iff]
  simp only [Bool.and_eq_true, Bool.not_eq_true', Deadline.isOverdue_eq_false_iff]
  exact and_iff_left_of_imp (Nat.lt_of_le_of_lt le)

/-- A cleanup before a removal is recorded adds nothing to one right after it. -/
theorem cleanup_add :
    ((r.cleanup now).add a now).cleanup now = (r.add a now).cleanup now := by
  have same : r.entries.filter
        (fun e => !e.2.isOverdue now && (decide (e.1 ≠ a) && !e.2.isOverdue now)) =
      r.entries.filter (fun e => !e.2.isOverdue now && decide (e.1 ≠ a)) := by
    refine List.filter_congr fun e _ => ?_
    cases e.2.isOverdue now <;> simp
  simp only [cleanup, add, List.filter_cons, List.filter_filter, same]

end RemovedMembers

namespace Machine

/-- The machine after a cleanup. -/
def swept (m : Machine) (now : Nat) : Machine := { m with removed := m.removed.cleanup now }

end Machine

/-- The turn with a cleanup at its end. -/
def Turn.swept (t : Turn) (now : Nat) : Turn := { t with machine := t.machine.swept now }

@[simp] theorem Turn.swept_ite {c : Prop} [Decidable c] {t t' : Turn} {now : Nat} :
    (if c then t else t').swept now = if c then t.swept now else t'.swept now :=
  apply_ite (·.swept now) c t t'

@[simp] theorem map_swept_ite {c : Prop} [Decidable c] {o o' : Option Turn} {now : Nat} :
    (if c then o else o').map (·.swept now) =
      if c then o.map (·.swept now) else o'.map (·.swept now) :=
  apply_ite (Option.map (·.swept now)) c o o'

namespace Machine

variable {m m' : Machine} {now later : Nat} {fresh : UnitId} {effects : List Effect}
  {phase : Phase} {unit : UnitId} {unitEnded : Bool} {target : Option Address} {a : Address}

theorem isRemoved_swept (le : now ≤ later) :
    (m.swept now).isRemoved a later = m.isRemoved a later :=
  RemovedMembers.contains_cleanup le

theorem swept_swept (le : now ≤ later) : (m.swept now).swept later = m.swept later := by
  rw [swept, swept, RemovedMembers.cleanup_cleanup le]
  rfl

@[simp] theorem turn_swept_swept {t : Turn} : (t.swept now).swept now = t.swept now := by
  rw [Turn.swept, Turn.swept]
  simp only [swept_swept (Nat.le_refl now)]

/-! ## Moves

What a move reads is not touched by a cleanup, and no move records a removal: it commutes with one. -/

section Moves

@[simp] theorem self_swept : (m.swept now).self = m.self := rfl

@[simp] theorem limits_swept : (m.swept now).limits = m.limits := rfl

@[simp] theorem retryInterval_swept : (m.swept now).retryInterval = m.retryInterval := rfl

@[simp] theorem removalMargin_swept : (m.swept now).removalMargin = m.removalMargin := rfl

@[simp] theorem selfExited_swept : (m.swept now).selfExited = m.selfExited := rfl

@[simp] theorem clusterTerminated_swept :
    (m.swept now).clusterTerminated = m.clusterTerminated := rfl

@[simp] theorem isRemoved_swept_now : (m.swept now).isRemoved a now = m.isRemoved a now :=
  isRemoved_swept (Nat.le_refl now)

@[simp] theorem knownRemoved_swept :
    (m.swept now).knownRemoved target now = m.knownRemoved target now := by
  cases target with
  | none => rfl
  | some a => exact isRemoved_swept_now

@[simp] theorem noticed_swept : (m.swept now).noticed = m.noticed.swept now := rfl

@[simp] theorem request_swept : (m.swept now).request = m.request := rfl

@[simp] theorem asked_swept : (m.swept now).asked = m.asked.swept now := rfl

@[simp] theorem stay_swept : (m.swept now).stay effects = (m.stay effects).swept now := rfl

@[simp] theorem stayAs_swept :
    (m.swept now).stayAs phase effects = (m.stayAs phase effects).swept now := rfl

@[simp] theorem stop_swept : (m.swept now).stop effects = (m.stop effects).swept now := rfl

@[simp] theorem fail_swept {error : Error} :
    (m.swept now).fail error = (m.fail error).swept now := rfl

@[simp] theorem breakOff_swept : (m.swept now).breakOff = m.breakOff.swept now := rfl

@[simp] theorem enter_swept :
    (m.swept now).enter now phase effects = (m.enter now phase effects).swept now := by
  simp only [enter, isRemoved_swept_now, self_swept]
  cases phase.state with
  | younger | ended =>
      dsimp only
      split <;> rfl
  | _ => rfl

@[simp] theorem host_swept : (m.swept now).host now fresh = (m.host now fresh).swept now :=
  enter_swept

@[simp] theorem yieldTo_swept :
    (m.swept now).yieldTo now unit unitEnded target =
      (m.yieldTo now unit unitEnded target).swept now :=
  enter_swept

@[simp] theorem handOverDone_swept :
    (m.swept now).handOverDone now target = (m.handOverDone now target).swept now := by
  simp [handOverDone]

@[simp] theorem handOver_swept :
    (m.swept now).handOver now unit unitEnded target =
      (m.handOver now unit unitEnded target).swept now := by
  simp [handOver]

@[simp] theorem windDown_swept :
    (m.swept now).windDown now unit unitEnded = (m.windDown now unit unitEnded).swept now := by
  simp [windDown]

@[simp] theorem awaitMargin_swept : (m.swept now).awaitMargin a = (m.awaitMargin a).swept now := by
  simp only [awaitMargin, self_swept, removalMargin_swept, stop_swept, stay_swept, Turn.swept_ite]
  rfl

@[simp] theorem askAgain_swept {message : Message} {key : TimerKey} {retry : UInt32 → Event}
    {count : UInt32} :
    (m.swept now).askAgain target message key retry count =
      (m.askAgain target message key retry count).swept now := by
  simp only [askAgain, retryInterval_swept, stay_swept, breakOff_swept, Turn.swept_ite]

@[simp] theorem retryHandOver_swept {count : UInt32} :
    (m.swept now).retryHandOver target now fresh count =
      (m.retryHandOver target now fresh count).swept now := by
  simp only [retryHandOver, limits_swept, knownRemoved_swept, clusterTerminated_swept, host_swept,
    stop_swept, fail_swept, askAgain_swept, Turn.swept_ite]
  rfl

@[simp] theorem retryTakeOver_swept {count : UInt32} :
    (m.swept now).retryTakeOver unit unitEnded target now count =
      (m.retryTakeOver unit unitEnded target now count).swept now := by
  simp only [retryTakeOver, limits_swept, knownRemoved_swept, clusterTerminated_swept,
    selfExited_swept, windDown_swept, fail_swept, askAgain_swept, Turn.swept_ite]
  rfl

end Moves

/-! ## One event

A phase may record a removal, which is overdue at once if removals are not remembered at all. So the
answers of the phases agree up to one more cleanup only. -/

variable {e : Event}

theorem record_swept :
    ({ m.swept now with removed := (m.swept now).removed.add a now } : Machine).swept now =
      ({ m with removed := m.removed.add a now } : Machine).swept now := by
  show ({ m with removed := (((m.removed.cleanup now).add a now).cleanup now) } : Machine) = _
  rw [RemovedMembers.cleanup_add]
  rfl

theorem inStart_swept :
    ((m.swept now).inStart now fresh e).map (·.swept now) =
      (m.inStart now fresh e).map (·.swept now) := by
  cases e with
  | startNotifier => simp [inStart]
  | initialOldest oldest safe => simp [inStart]
  | _ => rfl

theorem inYounger_swept :
    ((m.swept now).inYounger target now fresh e).map (·.swept now) =
      (m.inYounger target now fresh e).map (·.swept now) := by
  cases e with
  | oldestChanged new =>
      cases target with
      | none | some previous => simp [inYounger]
  | memberRemoved a => simp [inYounger]
  | delayedMemberRemoved a =>
      by_cases known : target = some a
      · simp only [inYounger, if_pos known]
        exact congrArg some (congrArg (stayAs · (.younger none) []) record_swept)
      · simp [inYounger, known]
  | _ => rfl

theorem inBecomingOldest_swept :
    ((m.swept now).inBecomingOldest target now fresh e).map (·.swept now) =
      (m.inBecomingOldest target now fresh e).map (·.swept now) := by
  cases e with
  | peer sender message =>
      cases message <;> cases target <;> simp [inBecomingOldest]
  | memberRemoved a => simp [inBecomingOldest]
  | delayedMemberRemoved a =>
      by_cases known : target = some a
      · simp only [inBecomingOldest, if_pos known, Option.map_some]
        rw [← host_swept, record_swept, host_swept]
      · simp [inBecomingOldest, known]
  | handOverRetry count => simp [inBecomingOldest]
  | _ => rfl

theorem inOldest_swept :
    ((m.swept now).inOldest unit unitEnded now e).map (·.swept now) =
      (m.inOldest unit unitEnded now e).map (·.swept now) := by
  cases e with
  | oldestChanged oldest => cases oldest <;> simp [inOldest]
  | peer sender message => cases message <;> simp [inOldest]
  | unitTerminated u => simp [inOldest]
  | _ => rfl

theorem inWasOldest_swept :
    ((m.swept now).inWasOldest unit unitEnded target now e).map (·.swept now) =
      (m.inWasOldest unit unitEnded target now e).map (·.swept now) := by
  cases e with
  | takeOverRetry count => simp [inWasOldest]
  | peer sender message => cases message <;> simp [inWasOldest]
  | memberRemoved a =>
      by_cases heeded : m.selfExited = true ∨ a = m.self ∨ target ≠ some a
      · rcases heeded with gone | own | other
        · simp [inWasOldest, gone]
        · simp [inWasOldest, own]
        · simp [inWasOldest, other]
      · simp only [not_or, not_not] at heeded
        obtain ⟨active, other, known⟩ := heeded
        have active' : ¬ (m.swept now).selfExited = true := active
        have other' : ¬ a = (m.swept now).self := other
        rw [inWasOldest, inWasOldest, if_neg active, if_neg active', if_neg other, if_neg other',
          if_pos known, if_pos known, Option.map_some, Option.map_some, ← handOver_swept,
          record_swept, handOver_swept]
  | unitTerminated u => simp [inWasOldest]
  | _ => rfl

theorem inHandingOver_swept :
    ((m.swept now).inHandingOver unit target now e).map (·.swept now) =
      (m.inHandingOver unit target now e).map (·.swept now) := by
  cases e with
  | peer sender message => cases message <;> simp [inHandingOver]
  | unitTerminated u => simp [inHandingOver]
  | _ => rfl

theorem inStopping_swept :
    ((m.swept now).inStopping unit e).map (·.swept now) =
      (m.inStopping unit e).map (·.swept now) := by
  cases e with
  | unitTerminated u => simp [inStopping]
  | _ => rfl

theorem inEnded_swept :
    ((m.swept now).inEnded e).map (·.swept now) = (m.inEnded e).map (·.swept now) := by
  cases e with
  | memberRemoved a =>
      by_cases own : a = m.self
      · simp [inEnded, own]
      · simp [inEnded, own]
  | _ => rfl

theorem fallback_swept :
    ((m.swept now).fallback now e).swept now = (m.fallback now e).swept now := by
  have again : (m.swept now).swept now = m.swept now := swept_swept (Nat.le_refl now)
  cases e with
  | memberExited a =>
      by_cases own : a = m.self
      · simp only [fallback, self_swept, own, reduceIte]
        exact congrArg (fun n : Machine => ({ n with selfExited := true } : Machine).stay []) again
      · simp only [fallback, self_swept, own, reduceIte]
        exact congrArg (stay · []) again
  | memberRemoved a =>
      by_cases own : a = m.self ∧ m.selfExited = false
      · simp only [fallback, self_swept, selfExited_swept, own]
        exact congrArg (stop · []) again
      · simp only [fallback, self_swept, selfExited_swept, own]
        exact congrArg (stay · []) record_swept
  | delayedMemberRemoved a => exact congrArg (stay · []) record_swept
  | cleanup => exact congrArg (fun n : Machine => (n.swept now).stay []) again
  | clusterShutdown =>
      exact congrArg (fun n : Machine => ({ n with clusterTerminated := true } : Machine).stay [])
        again
  | _ => exact congrArg (stay · []) again

theorem inPhase_swept :
    ((m.swept now).inPhase now fresh e).map (·.swept now) =
      (m.inPhase now fresh e).map (·.swept now) := by
  have same : (m.swept now).phase = m.phase := rfl
  rw [inPhase, inPhase, same]
  cases m.phase with
  | start => exact inStart_swept
  | younger oldest => exact inYounger_swept
  | becomingOldest previous => exact inBecomingOldest_swept
  | oldest unit unitEnded => exact inOldest_swept
  | wasOldest unit unitEnded newOldest => exact inWasOldest_swept
  | handingOver unit target => exact inHandingOver_swept
  | stopping unit => exact inStopping_swept
  | ended => exact inEnded_swept

/-- **A cleanup before an event makes no difference to it**: what is left of it is what a cleanup
after the event would leave. -/
theorem handle_swept :
    ((m.swept now).handle now fresh e).swept now = (m.handle now fresh e).swept now := by
  have same : (m.swept now).terminated = m.terminated := rfl
  rw [handle, handle, same, Turn.swept_ite, Turn.swept_ite]
  split
  · exact congrArg (fun n => Turn.mk n [] .stopped) (swept_swept (Nat.le_refl now))
  · have sweeps (o : Option Turn) (t : Turn) :
        (o.getD t).swept now = (o.map (·.swept now)).getD (t.swept now) :=
      (Option.getD_map (·.swept now) t o).symm
    rw [sweeps, sweeps, inPhase_swept, fallback_swept]

theorem handle_cleanup :
    (m.handle now fresh .cleanup).effects = [] ∧
      (m.handle now fresh .cleanup).machine.swept now = m.swept now := by
  cases done : m.terminated with
  | true =>
      rw [handle_terminated done]
      exact ⟨rfl, rfl⟩
  | false =>
      have unheard : m.inPhase now fresh .cleanup = none := by
        rw [inPhase]
        cases m.phase <;> rfl
      rw [handle, done, unheard]
      exact ⟨rfl, swept_swept (Nat.le_refl now)⟩

/-! ## Two runs -/

/-- Two machines that differ, if at all, in removals that count no longer. -/
def Alike (now : Nat) (m m' : Machine) : Prop := m.swept now = m'.swept now

theorem Alike.mono (h : Alike now m m') (le : now ≤ later) : Alike later m m' := by
  rw [Alike, ← swept_swept le, h, swept_swept le]

theorem Alike.frame (h : Alike now m m') : { m with removed := m'.removed } = m' :=
  congrArg (fun n : Machine => { n with removed := m'.removed }) h

theorem Alike.isRemoved (h : Alike now m m') (le : now ≤ later) (a : Address) :
    m.isRemoved a later = m'.isRemoved a later := by
  rw [← isRemoved_swept le, h, isRemoved_swept le]

/-- **Alike machines answer alike**, and stay alike. -/
theorem Alike.handle (h : Alike now m m') :
    Alike now (m.handle now fresh e).machine (m'.handle now fresh e).machine ∧
      (m.handle now fresh e).effects = (m'.handle now fresh e).effects ∧
      (m.handle now fresh e).outcome = (m'.handle now fresh e).outcome := by
  have same : (m.handle now fresh e).swept now = (m'.handle now fresh e).swept now := by
    rw [← handle_swept, h, handle_swept]
  exact Turn.mk.inj same

/-- A step of a run with cleanups put in. -/
inductive Step : Type where
  | given (x : Input)
  | sweep (now : Nat) (fresh : UnitId)
deriving DecidableEq, Repr

namespace Step

def input : Step → Input
  | given x => x
  | sweep now fresh => ⟨now, fresh, .cleanup⟩

/-- What is left of the step in the run without the cleanups. -/
def given? : Step → Option Input
  | given x => some x
  | sweep _ _ => none

end Step

/-- Time never goes back in the run, the cleanups included. -/
def Step.Ordered (steps : List Step) : Prop :=
  steps.Pairwise fun s s' => s.input.now ≤ s'.input.now

instance (steps : List Step) : Decidable (Step.Ordered steps) :=
  inferInstanceAs (Decidable (List.Pairwise _ _))

variable {steps : List Step}

/-- The last step is no earlier than any other. -/
theorem Step.Ordered.bounded (h : Step.Ordered steps) : ∃ t, ∀ s ∈ steps, s.input.now ≤ t := by
  cases steps using List.reverseRecOn with
  | nil => exact ⟨0, by simp⟩
  | append_singleton earlier last =>
      refine ⟨last.input.now, fun s mem => ?_⟩
      rcases List.mem_append.mp mem with before | final
      · exact (List.pairwise_append.mp h).2.2 s before last (List.mem_singleton_self last)
      · obtain rfl := List.mem_singleton.mp final
        exact Nat.le_refl _

/-- **The two runs stay alike**, from the last step on. -/
theorem alike_run (ordered : Step.Ordered steps) (le : ∀ s ∈ steps, s.input.now ≤ now) :
    Alike now (m.run (steps.map Step.input)) (m.run (steps.filterMap Step.given?)) := by
  induction steps using List.reverseRecOn generalizing now with
  | nil => rfl
  | append_singleton steps s ih =>
      obtain ⟨before, -, last⟩ := List.pairwise_append.mp ordered
      have alike : Alike s.input.now (m.run (steps.map Step.input))
          (m.run (steps.filterMap Step.given?)) := ih before fun s' mem => last s' mem s (by simp)
      refine Alike.mono ?_ (le s (by simp))
      rw [List.map_append, List.filterMap_append, List.map_singleton, run_snoc]
      cases s with
      | given x =>
          show Alike x.now _ (m.run (steps.filterMap Step.given? ++ [x]))
          rw [run_snoc]
          exact alike.handle.1
      | sweep t fresh =>
          show Alike t _ (m.run (steps.filterMap Step.given? ++ []))
          rw [List.append_nil]
          exact handle_cleanup.2.trans alike

end Machine

open Machine (Step)

/-- **Nobody notices a cleanup.** Put any cleanups into a run. They ask for nothing, and each event
of the run has the same effects and the same outcome as without them. At the end state, data and
flags are the same, and so is what counts as removed, now and later; only what counts no longer may
be gone. -/
theorem cleanup_unobservable (m : Machine) {steps : List Step} (ordered : Step.Ordered steps) :
    (∀ pre x post, steps = pre ++ .given x :: post →
      let e : Entry := ⟨x, m.run (pre.map Step.input)⟩
      let bare : Entry := ⟨x, m.run (pre.filterMap Step.given?)⟩
      e.effects = bare.effects ∧ e.turn.outcome = bare.turn.outcome) ∧
    (∀ pre now fresh post, steps = pre ++ .sweep now fresh :: post →
      ((m.run (pre.map Step.input)).handle now fresh .cleanup).effects = []) ∧
    let swept := m.run (steps.map Step.input)
    let bare := m.run (steps.filterMap Step.given?)
    { swept with removed := bare.removed } = bare ∧
      ∀ a t, (∀ s ∈ steps, s.input.now ≤ t) → swept.isRemoved a t = bare.isRemoved a t := by
  refine ⟨?_, ?_, ?_, ?_⟩
  · rintro pre x post rfl e bare
    obtain ⟨before, -, last⟩ := List.pairwise_append.mp ordered
    have alike : Machine.Alike x.now e.before bare.before :=
      Machine.alike_run before fun s mem => last s mem (.given x) (List.mem_cons_self ..)
    exact alike.handle.2
  · intro pre now fresh post place
    exact Machine.handle_cleanup.1
  · obtain ⟨t, le⟩ := ordered.bounded
    exact (Machine.alike_run ordered le).frame
  · intro a t le
    exact (Machine.alike_run ordered le).isRemoved (Nat.le_refl t) a

/-- A removal is dropped at the very moment at which it counts no longer, right before the notifier
names the node. -/
theorem cleanup_unobservable_atExpiry :
    let m := Profile.machine ⟨⟨"a"⟩, ⟨5, 2⟩, 1000, 2000, 900000⟩
    let pre : List Step := [.given ⟨0, .nth 0, .initialOldest (some ⟨"a"⟩) true⟩,
      .given ⟨10, .nth 9, .memberRemoved ⟨"b"⟩⟩, .sweep 900010 (.nth 9)]
    let x : Input := ⟨900010, .nth 9, .oldestChanged (some ⟨"b"⟩)⟩
    let e : Entry := ⟨x, m.run (pre.map Step.input)⟩
    let bare : Entry := ⟨x, m.run (pre.filterMap Step.given?)⟩
    Step.Ordered (pre ++ [.given x]) ∧ e.before.removed.size = 0 ∧ bare.before.removed.size = 1 ∧
      e.effects = bare.effects := by
  intro m pre x e bare
  have ordered : Step.Ordered (pre ++ [.given x]) := by decide
  refine ⟨ordered, by decide, by decide, ?_⟩
  exact ((cleanup_unobservable m ordered).1 pre x [] rfl).1

end ClusterSingleton
