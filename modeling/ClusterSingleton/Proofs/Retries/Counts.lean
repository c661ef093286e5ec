import ClusterSingleton.Proofs.Coordinator.Tallies
import ClusterSingleton.Proofs.Retries.Limits
import ClusterSingleton.Proofs.Timers.Origin
import ClusterSingleton.Proofs.Timers.Turns

/-!
# Retries are counted

The metrics count the start of a timer by the number that its retry carries, not the retry that led
to it. Both come to the same where no retry has the number zero, and no machine sets such a one:
`retries_counted`.
-/

namespace ClusterSingleton

def Effect.startsTimer (key : TimerKey) : Effect → Bool
  | startTimer k _ _ => decide (k = key)
  | _ => false

namespace Entry

/-- The step answers a retry in the state of the timer (`becomingOldest` for a hand-over, `wasOldest`
for a take-over), and starts the timer again. -/
def reschedules (key : TimerKey) (e : Entry) : Bool :=
  decide (e.before.state.timer? = some key) && decide (e.event.retryKey? = some key) &&
    e.effects.any (Effect.startsTimer key)

end Entry

theorem TimerKey.fire_inj {key : TimerKey} (retry : key ≠ .cleanup) {n n' : UInt32} :
    key.fire n = key.fire n' ↔ n = n' := by
  cases key with
  | cleanup => exact absurd rfl retry
  | handOverRetry => exact ⟨Event.handOverRetry.inj, congrArg _⟩
  | takeOverRetry => exact ⟨Event.takeOverRetry.inj, congrArg _⟩

/-- Where a number has a next one, that is above one unless the number is zero. -/
theorem RetryLimits.one_lt_succ_iff {n : UInt32} (small : n.toNat < bound) : 1 < n + 1 ↔ n ≠ 0 := by
  have one : (1 : UInt32).toNat = 1 := rfl
  rw [UInt32.lt_iff_toNat_lt, toNat_succ small, one, ne_eq, ← UInt32.toNat_inj]
  exact Nat.succ_lt_succ_iff.trans Nat.pos_iff_ne_zero

section Turn

variable {key : TimerKey}

/-- Of the effects of a turn only its timer work counts as retries. -/
theorem Turn.countP_asksAgain (t : Turn) :
    t.effects.countP (Effect.asksAgain key) = t.timerWork.countP (Effect.asksAgain key) := by
  rw [timerWork, List.countP_filter]
  congr 1
  funext x
  cases key <;> cases x <;> simp [Effect.asksAgain, Effect.isTimerWork]

theorem Turn.any_startsTimer (t : Turn) :
    t.effects.any (Effect.startsTimer key) = t.timerWork.any (Effect.startsTimer key) := by
  rw [timerWork, List.any_filter]
  congr 1
  funext x
  cases x <;> simp [Effect.startsTimer, Effect.isTimerWork]

/-- A timer that is started for the first time counts as no retry. -/
theorem Effect.asksAgain_first {k : TimerKey} {after : Nat} :
    (Effect.startTimer k (k.fire 1) after).asksAgain key = false := by
  cases key <;> cases k <;> rfl

/-- What a step does with the retries under a timer. -/
inductive Retrying (key : TimerKey) (e : Entry) : Prop where
  | again {n : UInt32} (event : e.event = key.fire n) (reschedules : e.reschedules key = true)
      (counted : e.effects.countP (Effect.asksAgain key) = if n = 0 then 0 else 1)
  | none (still : e.reschedules key = false)
      (silent : e.effects.countP (Effect.asksAgain key) = 0)

theorem Entry.retrying (e : Entry) (retry : key ≠ .cleanup) : Retrying key e := by
  have of_work {work : List Effect} (h : e.turn.timerWork = work)
      (still : work.any (Effect.startsTimer key) = false ∨ e.before.state.timer? ≠ some key)
      (silent : work.countP (Effect.asksAgain key) = 0) : Retrying key e := by
    refine .none ?_ ?_
    · rw [reschedules, effects, Turn.any_startsTimer, h]
      rcases still with none | other
      · rw [none, Bool.and_false]
      · rw [decide_eq_false other]
        rfl
    · rw [effects, Turn.countP_asksAgain, h, silent]
  cases done : e.before.terminated with
  | true => exact of_work (congrArg Turn.timerWork (e.turn_terminated done)) (Or.inl rfl) rfl
  | false =>
      cases e.timerTurn done with
      | keeps work => exact of_work work (Or.inl rfl) rfl
      | promised before event same work => exact of_work work (Or.inl rfl) (by cases key <;> rfl)
      | leaves before after work => exact of_work work (Or.inl rfl) (by cases key <;> rfl)
      | enters before after work =>
          refine of_work work (Or.inr (by rw [before]; rintro ⟨⟩)) ?_
          rw [List.countP_singleton, Effect.asksAgain_first]
          rfl
      | @retries k n before event within fits same work =>
          by_cases here : k = key
          · subst here
            refine .again event ?_ ?_
            · rw [reschedules, effects, Turn.any_startsTimer, work, before, event,
                TimerKey.retryKey?_fire retry]
              simp [Effect.startsTimer]
            · have counts : Effect.asksAgain k (.startTimer k (k.fire (n + 1)) e.before.retryInterval) =
                  decide (1 < n + 1) := by
                cases k with
                | cleanup => exact absurd rfl retry
                | _ => rfl
              rw [effects, Turn.countP_asksAgain, work, List.countP_singleton, counts]
              simp only [RetryLimits.one_lt_succ_iff fits, decide_eq_true_eq, ne_eq, ite_not]
          · refine of_work work (Or.inl ?_) ?_
            · simp [Effect.startsTimer, here]
            · rw [List.countP_singleton]
              cases k <;> cases key <;> first | rfl | exact absurd rfl here

/-- **A retry that is answered is counted**, unless it has the number zero. -/
theorem Entry.counted (e : Entry) (retry : key ≠ .cleanup) (positive : e.event ≠ key.fire 0) :
    e.effects.countP (Effect.asksAgain key) = if e.reschedules key then 1 else 0 := by
  cases e.retrying retry with
  | none still silent =>
      rw [silent, still]
      rfl
  | @again n event reschedules counted =>
      have nonzero : n ≠ 0 := by
        rintro rfl
        exact positive event
      rw [counted, reschedules, if_neg nonzero, if_pos rfl]

end Turn

namespace Coordinator

variable {c : Coordinator} {act : Act} {key : TimerKey}

/-- No retry under way has the number zero. -/
def Positive (key : TimerKey) (c : Coordinator) : Prop :=
  ∀ i ∈ c.desk.items, i.carried ≠ key.fire 0

/-- A step sets no retry with the number zero: it sets the first one, or one that follows on another. -/
theorem sets_positive {e : Entry} {x : Effect} {i : Item} (retry : key ≠ .cleanup)
    (mem : x ∈ e.effects) (sets : x.Sets i) : i.carried ≠ key.fire 0 := by
  intro zero
  cases sets with
  | @scheduleOnce event after =>
      have own : event.retryKey? = none := Entry.effects_genuine e _ mem
      have fires : event = key.fire 0 := zero
      rw [fires, TimerKey.retryKey?_fire retry] at own
      cases own
  | @startTimer k g event after =>
      have fires : event = key.fire 0 := zero
      obtain ⟨-, -, start⟩ := Machine.timerStart_of_mem mem
      cases start with
      | first =>
          obtain rfl := TimerKey.fire_key fires
          cases (TimerKey.fire_inj retry).mp fires
      | @next n before answered within fits =>
          obtain rfl := TimerKey.fire_key fires
          have number : (n + 1).toNat = 0 :=
            congrArg UInt32.toNat ((TimerKey.fire_inj retry).mp fires)
          rw [RetryLimits.toNat_succ fits] at number
          cases number

theorem handed_positive {env : Surroundings} {e : Entry} (h : Positive key c)
    (retry : key ≠ .cleanup) (hands : c.handed env = some e) : e.event ≠ key.fire 0 := by
  rcases handed_carried hands with start | ⟨i, mem, same⟩
  · rw [start]
    cases key with
    | cleanup => exact absurd rfl retry
    | _ => rintro ⟨⟩
  · rw [same]
    exact h i mem

/-- **One act sets no retry with the number zero**, if none comes from elsewhere. -/
theorem Positive.apply (h : Positive key c) (retry : key ≠ .cleanup) (honest : act.Honest c) :
    Positive key (c.apply act) := by
  intro i underWay
  have foreign (silent : i.carried.retryKey? = none) : i.carried ≠ key.fire 0 := by
    intro zero
    rw [zero, TimerKey.retryKey?_fire retry] at silent
    cases silent
  rcases mem_items_apply underWay with before | brings
  · exact h i before
  · cases brings with
    | cleanup cleanup =>
        obtain ⟨generation, rfl⟩ := cleanup
        exact foreign rfl
    | effect hands mem sets => exact sets_positive retry mem sets
    | arrival mem =>
        have outside := honest i mem
        cases i with
        | timer key generation event => exact outside.elim
        | event event => exact foreign outside
        | peer sender message => exact foreign rfl
    | place mem =>
        have queued := (List.Perm.mem_iff honest).mp mem
        exact h i (TimedInbox.mem_items.mpr (Or.inl (List.mem_append_left _ queued)))
    | report same =>
        subst same
        exact foreign rfl

theorem Moment.counted {x : Moment} (positive : Positive key x.before) (retry : key ≠ .cleanup) :
    x.deeds.countP (Deed.asksAgain key) = x.handed.toList.countP (Entry.reschedules key) := by
  rw [← gains_performed, ← gains_handled]
  obtain ⟨act, d⟩ := x
  cases act with
  | turn env =>
      simp only [gains]
      cases hands : d.handed env with
      | none => rfl
      | some e => exact e.counted retry (handed_positive positive retry hands)
  | _ => rfl

section Run

variable {settings : Settings} {supervisor : Supervisor} {restarts : Nat} {acts : List Act}
  (created : create settings supervisor restarts = .ok c)

include created

theorem positive_run (honest : ∀ x ∈ c.history acts, x.act.Honest x.before)
    (retry : key ≠ .cleanup) : Positive key (c.run acts) := by
  induction acts using List.reverseRecOn with
  | nil =>
      intro i underWay
      rw [run, List.foldl_nil, (create_frame created).2.2] at underWay
      cases underWay
  | append_singleton acts act ih =>
      rw [history_snoc, List.forall_mem_append, List.forall_mem_singleton] at honest
      rw [run_snoc]
      exact (ih honest.1).apply retry honest.2

/-- **All retries that are answered are counted**, when none comes from elsewhere. -/
theorem retries_counted (honest : ∀ x ∈ c.history acts, x.act.Honest x.before)
    (retry : key ≠ .cleanup) :
    (c.deeds acts).countP (Deed.asksAgain key) = (c.entries acts).countP (Entry.reschedules key) := by
  induction acts using List.reverseRecOn with
  | nil => rfl
  | append_singleton acts act ih =>
      rw [history_snoc, List.forall_mem_append, List.forall_mem_singleton] at honest
      have last := Moment.counted (x := ⟨act, c.run acts⟩) (positive_run created honest.1 retry) retry
      rw [deeds_snoc, entries_snoc, List.countP_append, List.countP_append, ih honest.1, last]

end Run

end Coordinator

end ClusterSingleton
