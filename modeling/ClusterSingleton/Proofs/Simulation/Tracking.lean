import Mathlib.Data.List.Induction
import Mathlib.Data.List.Infix
import Mathlib.Order.Bounds.Basic
import Mathlib.Order.MinMax
import ClusterSingleton.SimulationMetrics

/-!
# The account of the units

Units begin and end all over a cluster, and often one begins before another has ended. The figures
of a tracker are those of its history: how many units began, how many were alive at once, and for
each moment at which none was left, how long it took until one began.

A unit ends only after it began, so that as long as the last unit is gone nothing can happen but a
beginning. For that reason the gap that is still open is always that of the last call.
-/

namespace ClusterSingleton.UnitTracker

/-! ## Histories -/

inductive Call : Type where
  | enter (now : Nat)
  | exit (now : Nat)
deriving DecidableEq, Repr

namespace Call

def now : Call → Nat
  | enter now => now
  | exit now => now

def isEnter : Call → Bool
  | enter _ => true
  | exit _ => false

end Call

def apply (t : UnitTracker) : Call → UnitTracker
  | .enter now => t.enter now
  | .exit now => t.exit now

def run (calls : List Call) : UnitTracker := calls.foldl apply empty

theorem run_snoc (calls : List Call) (c : Call) : run (calls ++ [c]) = (run calls).apply c :=
  List.foldl_concat ..

/-- How many units began. -/
def entered (calls : List Call) : Nat := calls.countP Call.isEnter

/-- How many units ended. -/
def left (calls : List Call) : Nat := calls.countP fun c => !c.isEnter

/-- How many units are alive after some calls. -/
def alive (calls : List Call) : Nat := entered calls - left calls

/-- Each end is that of a unit that began before. -/
def Matched (calls : List Call) : Prop := ∀ before, before <+: calls → left before ≤ entered before

/-- The calls are made one after the other. -/
def InOrder (calls : List Call) : Prop := calls.Pairwise fun c d => c.now ≤ d.now

instance (calls : List Call) : Decidable (Matched calls) :=
  decidable_of_iff (∀ before ∈ calls.inits, left before ≤ entered before) (by simp [Matched])

instance (calls : List Call) : Decidable (InOrder calls) :=
  inferInstanceAs (Decidable (calls.Pairwise _))

/-- When the `i`-th call ended the last unit, if it did. -/
def vacated? (calls : List Call) (i : Nat) : Option Nat :=
  match calls[i]? with
  | some (.exit now) => if alive (calls.take (i + 1)) = 0 then some now else none
  | _ => none

/-- The first beginning after the `i`-th call. -/
def nextEnter? (calls : List Call) (i : Nat) : Option Call :=
  (calls.drop (i + 1)).find? Call.isEnter

/-- The time without a unit that began at the `i`-th call: from the end of the last unit to the next
beginning. -/
def gap? (calls : List Call) (i : Nat) : Option (Nat × Nat) :=
  (vacated? calls i).bind fun since => (nextEnter? calls i).map fun c => (since, c.now)

/-- All times without a unit, in order. -/
def intervals (calls : List Call) : List (Nat × Nat) :=
  (List.range calls.length).flatMap fun i => (gap? calls i).toList

/-- When the gap began that is still open. -/
def open? (calls : List Call) : Option Nat := vacated? calls (calls.length - 1)

section Histories

variable {calls : List Call} {c : Call} {i now : Nat}

theorem Matched.of_snoc (h : Matched (calls ++ [c])) : Matched calls :=
  fun before le => h before (le.trans (List.prefix_append calls [c]))

theorem Matched.left_le (h : Matched calls) : left calls ≤ entered calls := h calls List.prefix_rfl

theorem entered_snoc : entered (calls ++ [c]) = entered calls + if c.isEnter then 1 else 0 := by
  rw [entered, List.countP_append, List.countP_singleton]
  rfl

theorem left_snoc : left (calls ++ [c]) = left calls + if c.isEnter then 0 else 1 := by
  rw [left, List.countP_append, List.countP_singleton]
  cases c <;> rfl

theorem alive_enter (h : Matched calls) : alive (calls ++ [.enter now]) = alive calls + 1 := by
  have le := h.left_le
  simp only [alive, entered_snoc, left_snoc, Call.isEnter, if_true]
  omega

theorem alive_exit : alive (calls ++ [.exit now]) = alive calls - 1 := by
  simp only [alive, entered_snoc, left_snoc, Call.isEnter, Bool.false_eq_true, if_false]
  omega

/-- There is a unit to end. -/
theorem Matched.alive_pos (h : Matched (calls ++ [.exit now])) : 0 < alive calls := by
  have le := h.left_le
  simp only [entered_snoc, left_snoc, Call.isEnter, Bool.false_eq_true, if_false] at le
  simp only [alive]
  omega

theorem vacated?_eq_some_iff {since : Nat} :
    vacated? calls i = some since ↔
      calls[i]? = some (.exit since) ∧ alive (calls.take (i + 1)) = 0 := by
  unfold vacated?
  split
  next now here => rw [here]; simp [and_comm]
  next other => simpa using fun here => absurd here (other since)

/-- What happens later does not matter to whether a unit was left. -/
theorem vacated?_snoc (early : i < calls.length) :
    vacated? (calls ++ [c]) i = vacated? calls i := by
  rw [vacated?, vacated?, List.getElem?_append_left early,
    List.take_append_of_le_length (Nat.succ_le_of_lt early)]

theorem vacated?_enter : vacated? (calls ++ [.enter now]) calls.length = none := by
  simp [vacated?]

theorem vacated?_exit :
    vacated? (calls ++ [.exit now]) calls.length =
      if alive (calls ++ [.exit now]) = 0 then some now else none := by
  simp [vacated?, List.take_of_length_le]

/-- A gap is open only while no unit is alive. -/
theorem alive_of_open? (h : (open? calls).isSome = true) : alive calls = 0 := by
  obtain ⟨since, gone⟩ := Option.isSome_iff_exists.mp h
  obtain ⟨last, nobody⟩ := vacated?_eq_some_iff.mp gone
  obtain ⟨early, -⟩ := List.getElem?_eq_some_iff.mp last
  rwa [List.take_of_length_le (by omega)] at nobody

theorem open?_enter : open? (calls ++ [.enter now]) = none := by
  rw [open?, List.length_append, List.length_singleton, Nat.add_sub_cancel, vacated?_enter]

/-- **The end of a unit opens a gap if it was the last one**, and changes none otherwise: while
another is alive there is none. -/
theorem open?_exit (h : Matched (calls ++ [.exit now])) :
    open? (calls ++ [.exit now]) =
      if alive (calls ++ [.exit now]) = 0 then some now else open? calls := by
  have closed : open? calls = none := by
    by_contra isOpen
    have nobody := alive_of_open? (Option.isSome_iff_ne_none.mpr isOpen)
    exact absurd nobody (Nat.pos_iff_ne_zero.mp h.alive_pos)
  rw [open?, List.length_append, List.length_singleton, Nat.add_sub_cancel, vacated?_exit, closed]

/-! ## Times without a unit -/

/-- While the last unit is gone, the next call is a beginning. -/
theorem nextEnter?_of_vacated? (h : Matched calls) (later : i + 1 < calls.length)
    (gone : (vacated? calls i).isSome = true) : (nextEnter? calls i).isSome = true := by
  obtain ⟨since, gone⟩ := Option.isSome_iff_exists.mp gone
  obtain ⟨-, nobody⟩ := vacated?_eq_some_iff.mp gone
  have enters : calls[i + 1].isEnter = true := by
    cases next : calls[i + 1] with
    | enter now => rfl
    | exit now =>
        have upTo : calls.take (i + 1) ++ [.exit now] = calls.take (i + 2) := by
          rw [← next, List.take_append_getElem]
        have matched : Matched (calls.take (i + 1) ++ [.exit now]) := by
          rw [upTo]
          exact fun before le => h before (le.trans (List.take_prefix _ _))
        exact absurd nobody (Nat.pos_iff_ne_zero.mp matched.alive_pos)
  rw [nextEnter?, List.drop_eq_getElem_cons later, List.find?_cons_of_pos enters]
  rfl

theorem nextEnter?_snoc (early : i < calls.length) :
    nextEnter? (calls ++ [c]) i = (nextEnter? calls i).or (if c.isEnter then some c else none) := by
  rw [nextEnter?, List.drop_append_of_le_length (Nat.succ_le_of_lt early), List.find?_append]
  cases c <;> rfl

/-- No gap is closed that begins with the last call. -/
theorem gap?_last (last : calls.length ≤ i + 1) : gap? calls i = none := by
  rw [gap?, nextEnter?, List.drop_eq_nil_of_le last]
  cases vacated? calls i <;> rfl

/-- Gaps that began before the last call are closed already. -/
theorem gap?_snoc (h : Matched calls) (later : i + 1 < calls.length) :
    gap? (calls ++ [c]) i = gap? calls i := by
  have early : i < calls.length := by omega
  rw [gap?, gap?, vacated?_snoc early, nextEnter?_snoc early]
  cases gone : vacated? calls i with
  | none => rfl
  | some since =>
      have next := nextEnter?_of_vacated? h later (Option.isSome_iff_exists.mpr ⟨since, gone⟩)
      obtain ⟨d, next⟩ := Option.isSome_iff_exists.mp next
      rw [next]
      rfl

/-- The gap of the last call is the open one, which a beginning closes. -/
theorem gap?_closes (pos : 0 < calls.length) :
    gap? (calls ++ [c]) (calls.length - 1) =
      if c.isEnter then (open? calls).map fun since => (since, c.now) else none := by
  have early : calls.length - 1 < calls.length := by omega
  have nothing : nextEnter? calls (calls.length - 1) = none := by
    rw [nextEnter?, List.drop_eq_nil_of_le (by omega)]
    rfl
  rw [gap?, vacated?_snoc early, nextEnter?_snoc early, nothing, open?, Option.none_or]
  cases vacated? calls (calls.length - 1) <;> cases c <;> rfl

/-- **A beginning closes the gap that is open**, and an end closes none. -/
theorem intervals_snoc (h : Matched calls) :
    intervals (calls ++ [c]) =
      intervals calls ++
        (if c.isEnter then (open? calls).map fun since => (since, c.now) else none).toList := by
  rcases Nat.eq_zero_or_pos calls.length with zero | pos
  · obtain rfl := List.length_eq_zero_iff.mp zero
    cases c <;> rfl
  have same : ∀ i ∈ List.range (calls.length - 1), gap? (calls ++ [c]) i = gap? calls i := by
    intro i early
    rw [List.mem_range] at early
    exact gap?_snoc h (by omega)
  have length : calls.length = calls.length - 1 + 1 := by omega
  have upTo : intervals calls =
      (List.range (calls.length - 1)).flatMap fun i => (gap? calls i).toList := by
    rw [intervals, length, List.range_succ, List.flatMap_append, List.flatMap_singleton,
      gap?_last (by omega)]
    exact List.append_nil _
  have now : intervals (calls ++ [c]) =
      (List.range calls.length).flatMap fun i => (gap? (calls ++ [c]) i).toList := by
    rw [intervals, List.length_append, List.length_singleton, List.range_succ, List.flatMap_append,
      List.flatMap_singleton, gap?_last (by simp)]
    exact List.append_nil _
  rw [now, length, List.range_succ, List.flatMap_append, List.flatMap_singleton,
    List.flatMap_congr fun i early => congrArg Option.toList (same i early), ← upTo,
    gap?_closes pos]

theorem le_of_mem_intervals (h : InOrder calls) {p : Nat × Nat} (mem : p ∈ intervals calls) :
    p.1 ≤ p.2 := by
  obtain ⟨i, -, here⟩ := List.mem_flatMap.mp mem
  obtain ⟨since, gone, next⟩ := Option.bind_eq_some_iff.mp (Option.mem_toList.mp here)
  obtain ⟨c, found, rfl⟩ := Option.map_eq_some_iff.mp next
  obtain ⟨last, -⟩ := vacated?_eq_some_iff.mp gone
  obtain ⟨early, last⟩ := List.getElem?_eq_some_iff.mp last
  have later : c ∈ calls.drop (i + 1) := List.mem_of_find?_eq_some found
  have split : InOrder (calls.drop i) := h.drop
  rw [List.drop_eq_getElem_cons early, last] at split
  exact List.rel_of_pairwise_cons split later

end Histories

/-! ## The figures of a tracker -/

/-- A tracker whose figures are those of a history. -/
structure Accounts (calls : List Call) (t : UnitTracker) : Prop where
  active : t.active = alive calls
  started : t.started = entered calls
  most : IsGreatest {n | ∃ before, before <+: calls ∧ alive before = n} t.maxActive
  gapSince : t.gapSince = open? calls
  gaps : t.gaps = (intervals calls).map fun p => p.2 - p.1

section Accounts

variable {calls : List Call} {t : UnitTracker} {now : Nat}

theorem accounts_empty : Accounts [] empty where
  active := rfl
  started := rfl
  most := by
    refine ⟨⟨[], List.prefix_rfl, rfl⟩, ?_⟩
    rintro n ⟨before, le, rfl⟩
    rw [List.prefix_nil.mp le]
    exact Nat.le_refl 0
  gapSince := rfl
  gaps := rfl

/-- The most units that were alive at once, after one more call. -/
theorem isGreatest_snoc {c : Call} {m : Nat}
    (h : IsGreatest {n | ∃ before, before <+: calls ∧ alive before = n} m) :
    IsGreatest {n | ∃ before, before <+: calls ++ [c] ∧ alive before = n}
      (max m (alive (calls ++ [c]))) := by
  obtain ⟨⟨most, le, same⟩, bound⟩ := h
  constructor
  · rcases max_choice m (alive (calls ++ [c])) with old | new
    · exact ⟨most, le.trans (List.prefix_append calls [c]), by rw [old, same]⟩
    · exact ⟨calls ++ [c], List.prefix_rfl, new.symm⟩
  · rintro n ⟨before, le, rfl⟩
    rcases List.prefix_concat_iff.mp le with rfl | le
    · exact le_max_right ..
    · exact le_trans (bound ⟨before, le, rfl⟩) (le_max_left ..)

theorem Accounts.enter (h : Accounts calls t) (matched : Matched calls) :
    Accounts (calls ++ [.enter now]) (t.enter now) where
  active := by
    rw [alive_enter matched, ← h.active]
    rfl
  started := by
    rw [entered_snoc, ← h.started]
    rfl
  most := by
    have most := isGreatest_snoc (c := .enter now) h.most
    rw [alive_enter matched, ← h.active] at most
    exact most
  gapSince := open?_enter.symm
  gaps := by
    rw [intervals_snoc matched, List.map_append, ← h.gaps, ← h.gapSince]
    show t.gaps ++ (t.gapSince.map (now - ·)).toList =
      t.gaps ++ (t.gapSince.map fun since => (since, now)).toList.map fun p => p.2 - p.1
    cases t.gapSince <;> rfl

theorem Accounts.exit (h : Accounts calls t) (matched : Matched (calls ++ [.exit now])) :
    Accounts (calls ++ [.exit now]) (t.exit now) where
  active := by
    rw [alive_exit, ← h.active]
    rfl
  started := by
    rw [entered_snoc, ← h.started]
    rfl
  most := by
    have most := isGreatest_snoc (c := .exit now) h.most
    have fewer : alive (calls ++ [.exit now]) ≤ t.maxActive := by
      rw [alive_exit]
      exact le_trans (Nat.sub_le ..) (h.most.2 ⟨calls, List.prefix_rfl, rfl⟩)
    rw [max_eq_left fewer] at most
    exact most
  gapSince := by
    rw [open?_exit matched, alive_exit, ← h.active, ← h.gapSince]
    rfl
  gaps := by
    rw [intervals_snoc matched.of_snoc, List.map_append, ← h.gaps]
    exact (List.append_nil _).symm

/-- **The figures of a tracker are those of its history.** -/
theorem accounts_run (matched : Matched calls) : Accounts calls (run calls) := by
  induction calls using List.reverseRecOn with
  | nil => exact accounts_empty
  | append_singleton calls c ih =>
      have before := ih matched.of_snoc
      rw [run_snoc]
      cases c with
      | enter now => exact before.enter matched.of_snoc
      | exit now => exact before.exit matched

/-- **What a tracker says is what happened**, when units end only after they began: how many are
alive and how many began, the most that were alive at any time, and each time from the end of the
last unit to the next beginning. While a unit is alive no gap is open, so that units that overlap
neither open nor close one. The figures of a simulation are the same, and tell of a violation
exactly when two units were alive at once. -/
theorem figures_exact {calls : List Call} (matched : Matched calls) (ordered : InOrder calls) :
    let t := run calls
    t.active = entered calls - left calls ∧ t.started = entered calls ∧
      IsGreatest {n | ∃ before, before <+: calls ∧ entered before - left before = n} t.maxActive ∧
      t.gaps = (intervals calls).map (fun p => p.2 - p.1) ∧
      (∀ p ∈ intervals calls, p.1 ≤ p.2) ∧
      (left calls < entered calls → t.gapSince = none) ∧
      ∀ m : SimulationMetrics,
        (m.observeUnits t).unitStarts = entered calls ∧
          (m.observeUnits t).gaps = (intervals calls).map (fun p => p.2 - p.1) ∧
          ((m.observeUnits t).isViolated = true ↔
            ∃ before, before <+: calls ∧ 1 < entered before - left before) := by
  intro t
  have account : Accounts calls t := accounts_run matched
  refine ⟨account.active, account.started, account.most, account.gaps, ?_, ?_, ?_⟩
  · exact fun p mem => le_of_mem_intervals ordered mem
  · intro somebody
    rw [account.gapSince, ← Option.not_isSome_iff_eq_none]
    intro isOpen
    have nobody : entered calls - left calls = 0 := alive_of_open? isOpen
    omega
  · intro m
    refine ⟨account.started, account.gaps, ?_⟩
    have violated : (m.observeUnits t).isViolated = true ↔ 1 < t.maxActive := decide_eq_true_iff
    obtain ⟨⟨most, le, same⟩, bound⟩ := account.most
    rw [violated]
    constructor
    · intro two
      exact ⟨most, le, by rw [← same] at two; exact two⟩
    · rintro ⟨before, le, two⟩
      exact Nat.lt_of_lt_of_le two (bound ⟨before, le, rfl⟩)

/-- Two units overlap, both end, and the next one begins after five units of time; a gap is open
when the last one has ended. -/
theorem figures_exact_overlap :
    let calls : List Call := [.enter 10, .enter 20, .exit 30, .exit 40, .enter 45, .exit 60]
    Matched calls ∧ InOrder calls ∧ intervals calls = [(40, 45)] ∧
      (run calls).gaps = [5] ∧ (run calls).active = 0 ∧ (run calls).started = 3 := by
  intro calls
  have matched : Matched calls := by decide
  have ordered : InOrder calls := by decide
  have one : intervals calls = [(40, 45)] := by decide
  obtain ⟨active, started, -, gaps, -⟩ := figures_exact matched ordered
  rw [one] at gaps
  exact ⟨matched, ordered, one, gaps, active, started⟩

end Accounts

end ClusterSingleton.UnitTracker
