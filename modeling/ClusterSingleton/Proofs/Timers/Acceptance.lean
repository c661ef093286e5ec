import ClusterSingleton.Proofs.Timers.Generations

/-!
# Which fires are accepted

Timers are started, cancelled, and run out in any order, and what they deliver may arrive late, more
than once, or when its timer is long gone. `stale_fires_rejected` says which of these fires count:
the fire of the last start of its key, until the key is cancelled or a fire of it is accepted. A
generation tells the starts apart, because each gets the next one.
-/

namespace ClusterSingleton.Timers

/-- What can happen to the timers. -/
inductive Act : Type where
  | start (now : Nat) (key : TimerKey) (event : Event) (after : Nat)
  | cancel (key : TimerKey)
  | cancelAll
  /-- A fire is looked at: of any key and generation, at any time. -/
  | accept (key : TimerKey) (generation : Nat)
  | scheduleOnce (now : Nat) (event : Event) (after : Nat)
  /-- The next timer delivers, if it has run out. -/
  | elapse (now : Nat)
deriving DecidableEq, Repr

def Act.isStart : Act → Bool
  | start _ _ _ _ => true
  | _ => false

def apply (t : Timers) : Act → Timers
  | .start now key event after => t.start now key event after
  | .cancel key => t.cancel key
  | .cancelAll => t.cancelAll
  | .accept key generation => t.accept key generation
  | .scheduleOnce now event after => t.scheduleOnce now event after
  | .elapse now =>
      match t.due? now with
      | some (_, rest) => rest
      | none => t

/-- One act of a history and the timers that it happened to. -/
structure Moment : Type where
  act : Act
  before : Timers

def run (t : Timers) (acts : List Act) : Timers := acts.foldl apply t

def history (t : Timers) : List Act → List Moment
  | [] => []
  | act :: acts => ⟨act, t⟩ :: (t.apply act).history acts

namespace Moment

def after (x : Moment) : Timers := x.before.apply x.act

/-- The key is started, and its fire will carry the generation. -/
def Starts (x : Moment) (key : TimerKey) (g : Nat) : Prop :=
  match x.act with
  | .start _ started _ _ => started = key ∧ g = x.after.generation
  | _ => False

/-- A fire is looked at, and counts. -/
def Accepts (x : Moment) (key : TimerKey) (g : Nat) : Prop :=
  x.act = .accept key g ∧ x.before.accepts key g = true

/-- What was pending under the key is so no longer: it is replaced, cancelled or accepted. -/
def Ends (x : Moment) (key : TimerKey) : Prop :=
  match x.act with
  | .start _ started _ _ => started = key
  | .cancel cancelled => cancelled = key
  | .cancelAll => True
  | .accept fired g => fired = key ∧ x.before.accepts fired g = true
  | _ => False

end Moment

/-- The key was started with the generation, and nothing has put an end to that since. -/
def Stands (log : List Moment) (key : TimerKey) (g : Nat) : Prop :=
  ∃ pre x post, log = pre ++ x :: post ∧ x.Starts key g ∧ ∀ y ∈ post, ¬ y.Ends key

theorem stands_snoc {log : List Moment} {x : Moment} {key : TimerKey} {g : Nat} :
    Stands (log ++ [x]) key g ↔ x.Starts key g ∨ Stands log key g ∧ ¬ x.Ends key := by
  constructor
  · rintro ⟨pre, e, post, place, starts, stays⟩
    rcases split_snoc place with ⟨rfl, rfl, rfl⟩ | ⟨post, rfl, rfl⟩
    · exact Or.inl starts
    · right
      refine ⟨⟨pre, e, post, rfl, starts, fun y mem => ?_⟩, stays x (by simp)⟩
      exact stays y (List.mem_append_left _ mem)
  · rintro (starts | ⟨⟨pre, e, post, rfl, starts, stays⟩, last⟩)
    · exact ⟨log, x, [], rfl, starts, by simp⟩
    · refine ⟨pre, e, post ++ [x], by simp, starts, ?_⟩
      intro y mem
      rcases List.mem_append.mp mem with before | new
      · exact stays y before
      · obtain rfl := List.mem_singleton.mp new
        exact last

/-! ## One act -/

section Step

variable {t : Timers} {act : Act} {x y : Moment} {key : TimerKey} {g : Nat}

/-- A timer that delivers is taken from those that run, and stays pending. -/
theorem elapse_cases (t : Timers) (now : Nat) :
    t.apply (.elapse now) = t ∨ t.apply (.elapse now) = { t with alarms := t.alarms.tail } := by
  cases running : t.alarms with
  | nil => simp [apply, due?, running]
  | cons a rest =>
      by_cases due : a.due ≤ now
      · right
        simp [apply, due?, running, due]
      · left
        simp [apply, due?, running, due]

theorem bare_elapse (t : Timers) (now : Nat) : (t.apply (.elapse now)).bare = t.bare := by
  rcases elapse_cases t now with same | same
  · rw [same]
  · rw [same]
    rfl

theorem later_apply (t : Timers) (act : Act) : Later t (t.apply act) := by
  cases act with
  | start => exact later_start
  | cancel => exact later_cancel
  | cancelAll => exact later_cancelAll
  | accept => exact later_accept
  | scheduleOnce => exact later_of_bare rfl
  | elapse now => exact later_of_bare (bare_elapse t now)

/-- Each start gets the next generation, and nothing else uses one up. -/
theorem generation_apply (t : Timers) (act : Act) :
    (t.apply act).generation = t.generation + if act.isStart then 1 else 0 := by
  cases act with
  | elapse now => exact congrArg (·.generation) (bare_elapse t now)
  | accept key g =>
      show (t.accept key g).generation = t.generation
      unfold accept
      split <;> rfl
  | _ => rfl

theorem Moment.Starts.generation (h : x.Starts key g) :
    g = x.after.generation ∧ x.before.generation < g := by
  obtain ⟨act, t⟩ := x
  cases act with
  | start now started event after =>
      obtain ⟨-, given⟩ := h
      refine ⟨given, ?_⟩
      rw [given]
      exact Nat.lt_succ_self t.generation
  | _ => exact h.elim

theorem Moment.Accepts.ends (h : x.Accepts key g) : x.Ends key := by
  rw [Ends, h.1]
  exact ⟨rfl, h.2⟩

/-- **What is pending after an act** was started by it, or was pending before and is not ended. -/
theorem Moment.pending_iff :
    x.after.current? key = some g ↔
      x.Starts key g ∨ x.before.current? key = some g ∧ ¬ x.Ends key := by
  obtain ⟨act, t⟩ := x
  cases act with
  | start now started event after =>
      show (t.start now started event after).current? key = some g ↔
        (started = key ∧ g = t.generation + 1) ∨ t.current? key = some g ∧ ¬ started = key
      rw [current?_start]
      by_cases same : key = started
      · simp [same, eq_comm]
      · simp [same, Ne.symm same]
  | cancel cancelled =>
      show (t.cancel cancelled).current? key = some g ↔
        False ∨ t.current? key = some g ∧ ¬ cancelled = key
      rw [current?_cancel]
      by_cases same : key = cancelled
      · simp [same]
      · simp [same, Ne.symm same]
  | cancelAll =>
      show none = some g ↔ False ∨ t.current? key = some g ∧ ¬ True
      simp
  | accept fired g' =>
      show (t.accept fired g').current? key = some g ↔
        False ∨ t.current? key = some g ∧ ¬ (fired = key ∧ t.accepts fired g' = true)
      rw [current?_accept, accepts_iff]
      by_cases counts : key = fired ∧ t.current? fired = some g'
      · simp [counts]
      · rw [if_neg counts, eq_comm, false_or, iff_comm, and_iff_left_iff_imp]
        intro _ h
        exact counts ⟨h.1.symm, h.2⟩
  | scheduleOnce now event after =>
      show t.current? key = some g ↔ False ∨ t.current? key = some g ∧ ¬ False
      simp
  | elapse now =>
      show (t.apply (.elapse now)).current? key = some g ↔
        False ∨ t.current? key = some g ∧ ¬ False
      rw [current?_of_bare (bare_elapse t now)]
      simp

/-- **What has ended counts no more**: when its key has a timer again, that one is younger. -/
theorem Moment.Ends.never (h : x.Ends key) (known : g ≤ x.before.generation)
    (later : Later x.after y.before) : ¬ y.Accepts key g := by
  rintro ⟨-, counts⟩
  rcases later.pending key g (accepts_iff.mp counts) with now | ⟨more, -⟩
  · rcases pending_iff.mp now with starts | ⟨-, stays⟩
    · exact absurd starts.generation.2 (Nat.not_lt.mpr known)
    · exact stays h
  · have grown := (later_apply x.before x.act).generation
    exact absurd more (Nat.not_lt.mpr (Nat.le_trans known grown))

/-- A timer that runs after an act ran before, or is the one that was started. -/
theorem alarm_of_apply {a : Alarm} (runs : a ∈ (t.apply act).alarms)
    (keyed : a.keyed = some (key, g)) : a ∈ t.alarms ∨ Moment.Starts ⟨act, t⟩ key g := by
  cases act with
  | start now started event after =>
      rcases Alarm.mem_insert.mp runs with rfl | before
      · obtain ⟨rfl, rfl⟩ := Prod.mk.inj (Option.some.inj keyed)
        exact Or.inr ⟨rfl, rfl⟩
      · exact Or.inl (List.mem_filter.mp before).1
  | cancel => exact Or.inl (List.mem_filter.mp runs).1
  | cancelAll => exact Or.inl (List.mem_filter.mp runs).1
  | accept fired g' =>
      left
      revert runs
      show a ∈ (t.accept fired g').alarms → a ∈ t.alarms
      unfold accept
      split <;> exact id
  | scheduleOnce now event after =>
      rcases Alarm.mem_insert.mp runs with rfl | before
      · cases keyed
      · exact Or.inl before
  | elapse now =>
      left
      rcases elapse_cases t now with same | same
      · rwa [same] at runs
      · rw [same] at runs
        exact List.mem_of_mem_tail runs

end Step

/-! ## Every run -/

section Run

variable {t : Timers} {acts : List Act} {x : Moment} {key : TimerKey} {g : Nat}

theorem run_snoc (t : Timers) (acts : List Act) (act : Act) :
    t.run (acts ++ [act]) = (t.run acts).apply act := by
  rw [run, List.foldl_append]
  rfl

theorem history_snoc (t : Timers) (acts : List Act) (act : Act) :
    t.history (acts ++ [act]) = t.history acts ++ [⟨act, t.run acts⟩] := by
  induction acts generalizing t with
  | nil => rfl
  | cons first acts ih => exact congrArg (⟨first, t⟩ :: ·) (ih (t.apply first))

/-- **What is accepted** is what was started and not ended since. -/
theorem accepts_run_iff :
    (empty.run acts).accepts key g = true ↔ Stands (empty.history acts) key g := by
  induction acts using List.reverseRecOn with
  | nil =>
      refine iff_of_false (by rintro ⟨⟩) ?_
      rintro ⟨pre, x, post, place, -⟩
      exact List.append_ne_nil_of_right_ne_nil pre (List.cons_ne_nil x post) place.symm
  | append_singleton acts act ih =>
      rw [run_snoc, history_snoc, stands_snoc, ← ih, accepts_iff, accepts_iff]
      exact Moment.pending_iff (x := ⟨act, empty.run acts⟩)

theorem later_run (mem : x ∈ t.history acts) : Later x.after (t.run acts) := by
  induction acts using List.reverseRecOn with
  | nil => cases mem
  | append_singleton acts act ih =>
      rw [history_snoc] at mem
      rw [run_snoc]
      rcases List.mem_append.mp mem with before | new
      · exact (ih before).trans (later_apply _ act)
      · obtain rfl := List.mem_singleton.mp new
        exact .refl _

theorem pairwise_later (t : Timers) (acts : List Act) :
    (t.history acts).Pairwise fun x y => Later x.after y.before := by
  induction acts using List.reverseRecOn with
  | nil => exact .nil
  | append_singleton acts act ih =>
      rw [history_snoc, List.pairwise_append]
      refine ⟨ih, List.pairwise_singleton _ _, ?_⟩
      intro x mem y new
      obtain rfl := List.mem_singleton.mp new
      exact later_run mem

theorem numbered_run (acts : List Act) : (empty.run acts).Numbered := by
  induction acts using List.reverseRecOn with
  | nil => rintro key g ⟨⟩
  | append_singleton acts act ih =>
      rw [run_snoc]
      exact ih.later (later_apply _ act)

theorem numbered_of_mem (mem : x ∈ empty.history acts) : x.before.Numbered := by
  induction acts using List.reverseRecOn with
  | nil => cases mem
  | append_singleton acts act ih =>
      rw [history_snoc] at mem
      rcases List.mem_append.mp mem with before | new
      · exact ih before
      · obtain rfl := List.mem_singleton.mp new
        exact numbered_run acts

/-- Every timer that runs was started. -/
theorem alarm_of_run {a : Alarm} (runs : a ∈ (empty.run acts).alarms)
    (keyed : a.keyed = some (key, g)) : ∃ x ∈ empty.history acts, x.Starts key g := by
  induction acts using List.reverseRecOn with
  | nil => cases runs
  | append_singleton acts act ih =>
      rw [run_snoc] at runs
      rw [history_snoc]
      rcases alarm_of_apply runs keyed with before | starts
      · obtain ⟨x, mem, starts⟩ := ih before
        exact ⟨x, List.mem_append_left _ mem, starts⟩
      · exact ⟨⟨act, empty.run acts⟩, by simp, starts⟩

theorem generation_run (t : Timers) (acts : List Act) :
    (t.run acts).generation = t.generation + acts.countP Act.isStart := by
  induction acts using List.reverseRecOn with
  | nil => rfl
  | append_singleton acts act ih =>
      rw [run_snoc, generation_apply, ih, List.countP_append, List.countP_singleton, Nat.add_assoc]

end Run

/-- **Stale fires are rejected.** Whatever happens to the timers, a fire is accepted if and only if
it carries the generation of the last start of its key, and the key was not cancelled since, nor
everything, and no fire of the key was accepted since. So a timer is accepted at most once, and
never after it was cancelled or replaced. No two starts share a generation, whatever their keys: it
is the number of starts so far. Every timer that runs carries the key and generation of a start. -/
theorem stale_fires_rejected (acts : List Act) :
    let log := empty.history acts
    let t := empty.run acts
    (∀ key g, t.accepts key g = true ↔ Stands log key g) ∧
    (∀ key, t.isActive key = true ↔ ∃ g, t.accepts key g = true) ∧
    (log.Pairwise fun x y => ∀ key g, x.Accepts key g → ¬ y.Accepts key g) ∧
    (∀ pre x post key g, log = pre ++ x :: post → x.Ends key → (∃ s ∈ pre, s.Starts key g) →
      ∀ y ∈ post, ¬ y.Accepts key g) ∧
    (log.Pairwise fun x y => ∀ key g key' g', x.Starts key g → y.Starts key' g' → g < g') ∧
    (∀ a ∈ t.alarms, ∀ key g, a.keyed = some (key, g) → ∃ x ∈ log, x.Starts key g) ∧
    t.generation = acts.countP Act.isStart := by
  intro log t
  have order : log.Pairwise fun x y => Later x.after y.before := pairwise_later empty acts
  refine ⟨fun key g => accepts_run_iff, fun key => ?_, ?_, ?_, ?_, ?_, ?_⟩
  · simp only [accepts_iff]
    exact isActive_iff
  · refine order.imp_of_mem fun {x y} mem _ later key g accepted => ?_
    have known := numbered_of_mem mem key g (accepts_iff.mp accepted.2)
    exact accepted.ends.never known later
  · rintro pre x post key g place ends ⟨s, before, starts⟩ y after
    rw [place, List.pairwise_append] at order
    obtain ⟨-, here, apart⟩ := order
    have known := (apart s before x (List.mem_cons_self ..)).generation
    rw [← starts.generation.1] at known
    exact ends.never known ((List.pairwise_cons.mp here).1 y after)
  · refine order.imp fun {x y} later key g key' g' first second => ?_
    have grown := later.generation
    rw [← first.generation.1] at grown
    exact Nat.lt_of_le_of_lt grown second.generation.2
  · intro a runs key g keyed
    exact alarm_of_run runs keyed
  · exact (generation_run empty acts).trans (Nat.zero_add _)

/-- A fire that was queued before its timer was cancelled and started again. -/
example :
    let t := empty.run [.start 0 .cleanup .cleanup 5, .elapse 1000000, .cancel .cleanup,
      .start 1000000 .cleanup .cleanup 5]
    t.accepts .cleanup 1 = false ∧ t.accepts .cleanup 2 = true := by decide

end ClusterSingleton.Timers
