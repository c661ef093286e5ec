import Mathlib.Data.List.Induction
import ClusterSingleton.Proofs.Machine.Answers

/-!
# Histories

A machine is created from a `Profile` and handed one `Input` after another. Its history remembers
each input together with the machine that met it, so that what was sent, started or asked for so far
is read off the history. Properties of runs are stated about every place at which a history can be
split.
-/

namespace ClusterSingleton

/-- What a machine is created with. -/
structure Profile : Type where
  self : Address
  limits : RetryLimits
  retryInterval : Nat
  removalMargin : Nat
  removedTtl : Nat
deriving DecidableEq, Repr

def Profile.machine (p : Profile) : Machine :=
  .create p.self p.limits p.retryInterval p.removalMargin p.removedTtl

/-- What a machine is handed in one step. -/
structure Input : Type where
  now : Nat
  fresh : UnitId
  event : Event
deriving DecidableEq, Repr

/-- One step of a history: an input and the machine that met it. -/
structure Entry : Type extends Input where
  before : Machine
deriving DecidableEq, Repr

namespace Entry

def turn (e : Entry) : Turn := e.before.handle e.now e.fresh e.event

def after (e : Entry) : Machine := e.turn.machine

def effects (e : Entry) : List Effect := e.turn.effects

/-- The messages that the step sends, without their addressees. -/
def messages (e : Entry) : List Message :=
  e.effects.filterMap fun
    | .send _ message => some message
    | _ => none

/-- The step of a terminated machine does nothing. -/
theorem turn_terminated {e : Entry} (done : e.before.terminated = true) :
    e.turn = ⟨e.before, [], .stopped⟩ :=
  Machine.handle_terminated done e.event

/-- What the step of a running machine does is a row of the table. -/
theorem row (e : Entry) (running : e.before.terminated = false) :
    Machine.Row e.before e.now e.fresh e.event e.turn :=
  Machine.handle_row running e.event

theorem proceed_iff {e : Entry} : e.turn.outcome = .proceed ↔ e.after.terminated = false :=
  Machine.handle_proceed_iff e.event

theorem terminated_iff {e : Entry} : e.after.terminated = true ↔ e.turn.outcome ≠ .proceed := by
  rw [ne_eq, proceed_iff, Bool.not_eq_false]

/-- A machine that goes on was not terminated before. -/
theorem running_before {e : Entry} (running : e.after.terminated = false) :
    e.before.terminated = false := by
  refine Bool.eq_false_iff.mpr fun done => ?_
  rw [after, turn_terminated done] at running
  exact Bool.false_ne_true (running.symm.trans done)

/-- Whoever fails is stuck, and asks for nothing more. -/
theorem stuck_of_fatal {e : Entry} {x : Error} (fails : e.turn.outcome = .fatal x) :
    Machine.Stuck e.before e.now e.event x ∧ e.turn = e.before.fail x := by
  have running : e.before.terminated = false := by
    refine Bool.eq_false_iff.mpr fun done => ?_
    rw [turn_terminated done] at fails
    cases fails
  exact (e.row running).stuck_of_fatal running fails

end Entry

/-- Time never goes back. -/
def Chronological (log : List Entry) : Prop := log.Pairwise fun x y => x.now ≤ y.now

instance (log : List Entry) : Decidable (Chronological log) :=
  inferInstanceAs (Decidable (List.Pairwise _ _))

theorem Chronological.le {pre post : List Entry} {e : Entry} (h : Chronological (pre ++ e :: post))
    {s : Entry} (mem : s ∈ pre) : s.now ≤ e.now :=
  (List.pairwise_append.mp h).2.2 s mem e (List.mem_cons_self ..)

theorem Chronological.ge {pre post : List Entry} {e : Entry} (h : Chronological (pre ++ e :: post))
    {s : Entry} (mem : s ∈ e :: post) : e.now ≤ s.now := by
  rcases List.mem_cons.mp mem with rfl | later
  · exact Nat.le_refl _
  · exact List.rel_of_pairwise_cons (List.pairwise_append.mp h).2.1 later

/-- A run that may fail, and its last step. -/
theorem foldlM_snoc {σ α : Type} {step : σ → α → Option σ} {s s' : σ} {xs : List α} {x : α}
    (h : (xs ++ [x]).foldlM step s = some s') :
    ∃ d, xs.foldlM step s = some d ∧ step d x = some s' := by
  rw [List.foldlM_append] at h
  obtain ⟨d, hd, hs⟩ := Option.bind_eq_some_iff.mp h
  exact ⟨d, hd, by simpa using hs⟩

/-- A place in a list that grew by one entry is the new entry, or was there before. -/
theorem split_snoc {α : Type} {log p q : List α} {e s : α} (h : log ++ [e] = p ++ s :: q) :
    (p = log ∧ s = e ∧ q = []) ∨ ∃ q', q = q' ++ [e] ∧ log = p ++ s :: q' := by
  rcases List.eq_nil_or_concat q with rfl | ⟨q', x, rfl⟩
  · obtain ⟨rfl, hs⟩ := List.append_inj' h rfl
    obtain ⟨rfl, -⟩ := List.cons.inj hs
    exact Or.inl ⟨rfl, rfl, rfl⟩
  · have h' : log ++ [e] = (p ++ s :: q') ++ [x] := by simpa using h
    obtain ⟨hlog, hx⟩ := List.append_inj' h' rfl
    obtain ⟨rfl, -⟩ := List.cons.inj hx
    exact Or.inr ⟨q', by simp, hlog⟩

theorem filterMap_snoc {α β : Type} (f : α → Option β) (log : List α) (x : α) :
    (log ++ [x]).filterMap f = log.filterMap f ++ (f x).toList := by
  rw [List.filterMap_append]
  cases given : f x <;> simp [given]

/-- Something has happened, and something else has held ever since. -/
def Since {α : Type} (happened stays : α → Prop) (log : List α) : Prop :=
  ∃ pre e post, log = pre ++ e :: post ∧ happened e ∧ ∀ x ∈ e :: post, stays x

theorem since_snoc {α : Type} {happened stays : α → Prop} {log : List α} {x : α} :
    Since happened stays (log ++ [x]) ↔ stays x ∧ (happened x ∨ Since happened stays log) := by
  constructor
  · rintro ⟨pre, e, post, place, happens, stay⟩
    rcases split_snoc place with ⟨rfl, rfl, rfl⟩ | ⟨post', rfl, rfl⟩
    · exact ⟨stay _ (List.mem_cons_self ..), Or.inl happens⟩
    · rw [← List.cons_append] at stay
      refine ⟨stay x (by simp), Or.inr ⟨pre, e, post', rfl, happens, fun y hy => ?_⟩⟩
      exact stay y (List.mem_append_left _ hy)
  · rintro ⟨last, happens | ⟨pre, e, post, rfl, happens, stay⟩⟩
    · exact ⟨log, x, [], rfl, happens, by simpa using last⟩
    · refine ⟨pre, e, post ++ [x], by simp, happens, fun y hy => ?_⟩
      rw [← List.cons_append, List.mem_append, List.mem_singleton] at hy
      rcases hy with hy | rfl
      · exact stay y hy
      · exact last

/-- What holds at every place of a list, said of the places by their number. -/
theorem forall_place_iff {α : Type} {log : List α} {P : List α → α → Prop} :
    (∀ pre e post, log = pre ++ e :: post → P pre e) ↔
      ∀ i, ∀ h : i < log.length, P (log.take i) log[i] := by
  constructor
  · intro places i h
    exact places _ log[i] (log.drop (i + 1)) (by simp)
  · rintro numbered pre e post rfl
    have place := numbered pre.length (by simp)
    simpa using place

namespace Machine

def run (m : Machine) (xs : List Input) : Machine :=
  xs.foldl (fun m x => (Entry.mk x m).after) m

def history (m : Machine) : List Input → List Entry
  | [] => []
  | x :: xs => ⟨x, m⟩ :: history (Entry.mk x m).after xs

@[simp] theorem run_nil (m : Machine) : m.run [] = m := rfl

@[simp] theorem history_nil (m : Machine) : m.history [] = [] := rfl

theorem run_append (m : Machine) (xs ys : List Input) : m.run (xs ++ ys) = (m.run xs).run ys :=
  List.foldl_append

theorem run_snoc (m : Machine) (xs : List Input) (x : Input) :
    m.run (xs ++ [x]) = (Entry.mk x (m.run xs)).after := by
  rw [run_append]
  rfl

theorem history_snoc (m : Machine) (xs : List Input) (x : Input) :
    m.history (xs ++ [x]) = m.history xs ++ [⟨x, m.run xs⟩] := by
  induction xs generalizing m with
  | nil => rfl
  | cons y ys ih =>
      rw [List.cons_append, history, history, ih]
      rfl

/-- **A place in a history is a place in the inputs**: what stands before it is the history of the
inputs before it, and the machine that met the input there is the one they lead to. -/
theorem history_split {m : Machine} {xs : List Input} {pre post : List Entry} {e : Entry}
    (h : m.history xs = pre ++ e :: post) :
    ∃ ys zs, xs = ys ++ e.toInput :: zs ∧ pre = m.history ys ∧ e.before = m.run ys := by
  induction xs generalizing m pre with
  | nil => simp at h
  | cons x xs ih =>
      cases pre with
      | nil =>
          obtain ⟨rfl, -⟩ := List.cons.inj h
          exact ⟨[], xs, rfl, rfl, rfl⟩
      | cons y pre =>
          obtain ⟨rfl, tail⟩ := List.cons.inj h
          obtain ⟨ys, zs, rfl, rfl, hm⟩ := ih tail
          exact ⟨x :: ys, zs, rfl, rfl, hm⟩

/-- Who meets an input is who the one before it left behind. -/
theorem history_adjacent {m : Machine} {xs : List Input} {pre post : List Entry} {d e : Entry}
    (h : m.history xs = pre ++ d :: e :: post) : e.before = d.after := by
  induction xs generalizing m pre with
  | nil => simp at h
  | cons x xs ih =>
      cases pre with
      | nil =>
          obtain ⟨rfl, tail⟩ := List.cons.inj h
          cases xs with
          | nil => cases tail
          | cons y ys =>
              obtain ⟨rfl, -⟩ := List.cons.inj tail
              rfl
      | cons c pre => exact ih (List.cons.inj h).2

/-- A terminated machine stays as it is. -/
theorem run_terminated {m : Machine} (done : m.terminated = true) (xs : List Input) :
    m.run xs = m := by
  induction xs with
  | nil => rfl
  | cons x xs ih =>
      have same : (Entry.mk x m).after = m := congrArg Turn.machine (Entry.turn_terminated done)
      rw [run, List.foldl_cons, same]
      exact ih

/-- Whoever is not terminated was not terminated before. -/
theorem running_earlier {m : Machine} {xs : List Input} {pre mid post : List Entry} {d e : Entry}
    (h : m.history xs = pre ++ d :: (mid ++ e :: post)) (running : e.before.terminated = false) :
    d.after.terminated = false := by
  rw [← List.cons_append, ← List.append_assoc] at h
  obtain ⟨_, _, -, earlier, later⟩ := history_split h
  obtain ⟨before, between, rfl, -, start⟩ := history_split earlier.symm
  have onward : e.before = d.after.run between := by
    rw [later, run_append, ← start]
    rfl
  refine Bool.eq_false_iff.mpr fun done => ?_
  rw [onward, run_terminated done, done] at running
  cases running

/-! ## What no step changes -/

def profile (m : Machine) : Profile :=
  ⟨m.self, m.limits, m.retryInterval, m.removalMargin, m.removed.ttl⟩

section Profile

variable {m : Machine} {now : Nat} {fresh : UnitId}

@[simp] theorem noticed_profile : m.noticed.profile = m.profile := rfl

@[simp] theorem enter_profile {p : Phase} {effects : List Effect} :
    (m.enter now p effects).machine.profile = m.profile := by
  rw [enter_machine]
  rfl

theorem Departure.profile {t : Turn} (h : Departure m now t) : t.machine.profile = m.profile := by
  cases h with
  | stops => rfl
  | moves => exact enter_profile

theorem fallback_profile {e : Event} : (m.fallback now e).machine.profile = m.profile := by
  cases e <;> simp only [fallback] <;> (try split) <;> rfl

theorem Grounds.profile {e : Event} {m' : Machine} (h : Grounds m now e m') :
    m'.profile = m.profile := by
  cases h <;> rfl

theorem Release.profile {unit : UnitId} {unitEnded : Bool} {e : Event} {m' : Machine}
    {target : Option Address} (h : Release m now unit unitEnded e m' target) :
    m'.profile = m.profile := by
  cases h <;> rfl

theorem Row.profile {e : Event} {t : Turn} (h : Row m now fresh e t) :
    t.machine.profile = m.profile := by
  cases h with
  | hosts grounds => rw [host, enter_profile, grounds.profile]
  | handsOver reason => exact (handOver_departs ..).profile.trans reason.profile
  | yields => rw [yieldTo, enter_profile, noticed_profile]
  | completes => exact (handOverDone_departs _).profile
  | endsQuietly | findsNobody => exact (windDown_departs ..).profile
  | unsafeFromStart | waitsFromStart | asksPrevious => rw [enter_profile, noticed_profile]
  | ignores => exact fallback_profile
  | _ => rfl

/-- **No turn changes what the machine was created with.** -/
theorem handle_profile (e : Event) : (m.handle now fresh e).machine.profile = m.profile := by
  cases done : m.terminated with
  | true => rw [handle_terminated done]
  | false => exact (handle_row done e).profile

end Profile

theorem run_profile (m : Machine) (xs : List Input) : (m.run xs).profile = m.profile := by
  induction xs using List.reverseRecOn with
  | nil => rfl
  | append_singleton xs x ih =>
      rw [run_snoc]
      exact (handle_profile x.event).trans ih

theorem history_profile {p : Profile} {xs : List Input} {pre post : List Entry} {e : Entry}
    (h : p.machine.history xs = pre ++ e :: post) : e.before.profile = p := by
  obtain ⟨ys, zs, -, -, machine⟩ := history_split h
  rw [machine]
  exact run_profile _ _

theorem run_self (m : Machine) (xs : List Input) : (m.run xs).self = m.self :=
  congrArg Profile.self (run_profile m xs)

/-! ## What a machine remembers for good -/

/-- A machine remembers that its node has left, and that the cluster has shut down, and takes neither
from anything else. -/
structure Recalls (m : Machine) (e : Event) (m' : Machine) : Prop where
  left : m'.selfExited = (m.selfExited || decide (e = .memberExited m.self))
  shutDown : m'.clusterTerminated = (m.clusterTerminated || decide (e = .clusterShutdown))

/-- The events that are remembered for good. -/
def lasts : Event → Bool
  | .memberExited _ => true
  | .clusterShutdown => true
  | _ => false

section Recalls

variable {m m' : Machine} {now : Nat} {fresh : UnitId} {e : Event}

theorem Recalls.of_same (left : m'.selfExited = m.selfExited)
    (shutDown : m'.clusterTerminated = m.clusterTerminated) (passing : lasts e = false) :
    Recalls m e m' := by
  have other : e ≠ .memberExited m.self ∧ e ≠ .clusterShutdown := by
    constructor
    · rintro rfl
      cases passing
    · rintro rfl
      cases passing
  constructor
  · rw [left, decide_eq_false other.1, Bool.or_false]
  · rw [shutDown, decide_eq_false other.2, Bool.or_false]

theorem Recalls.of_enter {p : Phase} {effects : List Effect} (left : m'.selfExited = m.selfExited)
    (shutDown : m'.clusterTerminated = m.clusterTerminated) (passing : lasts e = false) :
    Recalls m e (m'.enter now p effects).machine := by
  rw [enter_machine]
  exact .of_same left shutDown passing

theorem Departure.recalls {t : Turn} (h : Departure m' now t) (left : m'.selfExited = m.selfExited)
    (shutDown : m'.clusterTerminated = m.clusterTerminated) (passing : lasts e = false) :
    Recalls m e t.machine := by
  cases h with
  | stops => exact .of_same left shutDown passing
  | moves => exact .of_enter left shutDown passing

theorem Row.recalls {t : Turn} (row : Row m now fresh e t) : Recalls m e t.machine := by
  cases row with
  | hosts grounds => cases grounds <;> exact .of_enter rfl rfl rfl
  | unsafeFromStart | waitsFromStart | asksPrevious | yields => exact .of_enter rfl rfl rfl
  | handsOver reason => cases reason <;> exact (handOver_departs ..).recalls rfl rfl rfl
  | completes => exact (handOverDone_departs _).recalls rfl rfl rfl
  | endsQuietly | findsNobody => exact (windDown_departs ..).recalls rfl rfl rfl
  | ignores =>
      cases e with
      | memberExited a =>
          by_cases own : a = m.self <;> constructor <;> simp [fallback, own]
      | memberRemoved a =>
          simp only [fallback]
          split <;> exact .of_same rfl rfl rfl
      | clusterShutdown => constructor <;> simp [fallback]
      | _ => exact .of_same rfl rfl rfl
  | _ => exact .of_same rfl rfl rfl

end Recalls

section Remembered

variable {p : Profile} {xs : List Input}

/-- What is remembered for good has happened before, and what has happened before is remembered. -/
theorem remembered_run (flag : Machine → Bool) {event : Event} (begins : flag p.machine = false)
    (recalls : ∀ d : Entry, d.before.self = p.self → d.before.terminated = false →
      flag d.after = (flag d.before || decide (d.event = event)))
    (running : (p.machine.run xs).terminated = false) :
    flag (p.machine.run xs) = true ↔ ∃ d ∈ p.machine.history xs, d.event = event := by
  induction xs using List.reverseRecOn with
  | nil => simp [begins]
  | append_singleton xs x ih =>
      rw [run_snoc] at running ⊢
      have earlier := Entry.running_before running
      rw [history_snoc, recalls _ (run_self _ _) earlier, Bool.or_eq_true, decide_eq_true_eq,
        ih earlier]
      simp only [List.mem_append, List.mem_singleton, or_and_right, exists_or, exists_eq_left]

variable {pre post : List Entry} {e : Entry} (place : p.machine.history xs = pre ++ e :: post)
  (running : e.before.terminated = false)

include place running

/-- A machine that goes on knows whether its node has left. -/
theorem selfExited_iff :
    e.before.selfExited = true ↔ ∃ d ∈ pre, d.event = .memberExited p.self := by
  obtain ⟨ys, -, -, rfl, before⟩ := history_split place
  rw [before] at running ⊢
  refine remembered_run Machine.selfExited rfl ?_ running
  intro d own earlier
  rw [← own]
  exact (d.row earlier).recalls.left

/-- A machine that goes on knows whether the cluster has shut down. -/
theorem clusterTerminated_iff :
    e.before.clusterTerminated = true ↔ ∃ d ∈ pre, d.event = .clusterShutdown := by
  obtain ⟨ys, -, -, rfl, before⟩ := history_split place
  rw [before] at running ⊢
  refine remembered_run Machine.clusterTerminated rfl ?_ running
  intro d _ earlier
  exact (d.row earlier).recalls.shutDown

end Remembered

end Machine

end ClusterSingleton
