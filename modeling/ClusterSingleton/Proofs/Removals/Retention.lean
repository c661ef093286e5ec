import Mathlib.Data.Set.Card
import ClusterSingleton.Proofs.Removals.Sweeps

/-!
# How long a removal is remembered

Removals are recorded and swept, in any order. What is remembered does not depend on the sweeps: an
address counts as removed from the last time that it was recorded until the retention is over, and
not a moment longer. `retention_window` says so, and that a sweep drops exactly the entries that
count no longer.
-/

namespace ClusterSingleton.RemovedMembers

/-! ## Calls -/

inductive Call : Type where
  | add (a : Address) (now : Nat)
  | cleanup (now : Nat)
deriving DecidableEq, Repr

def Call.now : Call → Nat
  | add _ now => now
  | cleanup now => now

/-- When the call records an address, if it does. -/
def Call.addedAt? (a : Address) : Call → Option Nat
  | add b now => if b = a then some now else none
  | cleanup _ => none

def apply (r : RemovedMembers) : Call → RemovedMembers
  | .add a now => r.add a now
  | .cleanup now => r.cleanup now

def run (r : RemovedMembers) (calls : List Call) : RemovedMembers := calls.foldl apply r

/-- When an address was last recorded. -/
def lastAdded (a : Address) (calls : List Call) : Option Nat :=
  (calls.filterMap (Call.addedAt? a)).getLast?

/-- The addresses that are stored, whether they count or not. -/
def addresses (r : RemovedMembers) : List Address := r.entries.map Prod.fst

theorem run_snoc (r : RemovedMembers) (calls : List Call) (c : Call) :
    r.run (calls ++ [c]) = (r.run calls).apply c := List.foldl_concat ..

theorem lastAdded_snoc (a : Address) (calls : List Call) (c : Call) :
    lastAdded a (calls ++ [c]) = (c.addedAt? a).or (lastAdded a calls) := by
  unfold lastAdded
  rw [filterMap_snoc, List.getLast?_append]
  cases c.addedAt? a <;> rfl

/-! ## What is stored -/

section Stored

variable {r : RemovedMembers} {a b : Address} {now t : Nat} {ttl : Nat} {calls : List Call}

theorem contains_add :
    (r.add b now).contains a t = true ↔
      a = b ∧ t < now + r.ttl ∨ a ≠ b ∧ r.contains a t = true := by
  rw [contains_iff, contains_iff]
  constructor
  · rintro ⟨d, mem, valid⟩
    rcases mem_add.mp mem with same | ⟨old, other⟩
    · obtain ⟨rfl, rfl⟩ := Prod.mk.inj same
      exact Or.inl ⟨rfl, valid⟩
    · exact Or.inr ⟨other, d, old, valid⟩
  · rintro (⟨rfl, valid⟩ | ⟨other, d, old, valid⟩)
    · exact ⟨.after now r.ttl, mem_add.mpr (Or.inl rfl), valid⟩
    · exact ⟨d, mem_add.mpr (Or.inr ⟨old, other⟩), valid⟩

/-- What is stored after some calls: one entry for an address, and each with the deadline that comes
of its last record. -/
structure Dated (ttl : Nat) (calls : List Call) (r : RemovedMembers) : Prop where
  ttl_eq : r.ttl = ttl
  distinct : r.addresses.Nodup
  dated : ∀ x ∈ r.entries, ∃ s, lastAdded x.1 calls = some s ∧ x.2 = .after s ttl

theorem Dated.add (h : Dated ttl calls r) : Dated ttl (calls ++ [.add a now]) (r.add a now) := by
  refine ⟨h.ttl_eq, ?_, ?_⟩
  · have apart : List.Sublist ((r.entries.filter fun x => x.1 ≠ a).map Prod.fst) r.addresses :=
      List.filter_sublist.map _
    refine List.nodup_cons.mpr ⟨?_, h.distinct.sublist apart⟩
    intro again
    obtain ⟨x, mem, rfl⟩ := List.mem_map.mp again
    exact of_decide_eq_true (List.mem_filter.mp mem).2 rfl
  · intro x mem
    rw [lastAdded_snoc]
    rcases mem_add.mp mem with rfl | ⟨old, other⟩
    · exact ⟨now, by simp [Call.addedAt?], by rw [h.ttl_eq]⟩
    · obtain ⟨s, last, due⟩ := h.dated x old
      exact ⟨s, by simpa [Call.addedAt?, Ne.symm other] using last, due⟩

theorem Dated.cleanup (h : Dated ttl calls r) :
    Dated ttl (calls ++ [.cleanup now]) (r.cleanup now) := by
  refine ⟨h.ttl_eq, h.distinct.sublist (List.filter_sublist.map _), ?_⟩
  intro x mem
  rw [lastAdded_snoc]
  exact h.dated x (mem_cleanup.mp mem).1

theorem dated_run (ttl : Nat) (calls : List Call) : Dated ttl calls ((empty ttl).run calls) := by
  induction calls using List.reverseRecOn with
  | nil => exact ⟨rfl, List.nodup_nil, List.forall_mem_nil _⟩
  | append_singleton calls c ih =>
      rw [run_snoc]
      cases c with
      | add a now => exact ih.add
      | cleanup now => exact ih.cleanup

/-- **Who counts as removed was recorded, and the retention is not over.** Sweeps at earlier times do
not matter. -/
theorem contains_run_iff (le : ∀ c ∈ calls, c.now ≤ t) :
    ((empty ttl).run calls).contains a t = true ↔
      ∃ s, lastAdded a calls = some s ∧ t < s + ttl := by
  induction calls using List.reverseRecOn with
  | nil =>
      show false = true ↔ ∃ s, none = some s ∧ _
      simp
  | append_singleton calls c ih =>
      have before := ih fun x mem => le x (List.mem_append_left _ mem)
      rw [run_snoc, lastAdded_snoc]
      cases c with
      | add b now =>
          show (((empty ttl).run calls).add b now).contains a t = true ↔ _
          rw [contains_add, before, (dated_run ttl calls).ttl_eq]
          by_cases same : a = b
          · simp [Call.addedAt?, same]
          · simp [Call.addedAt?, same, Ne.symm same]
      | cleanup now =>
          have last : now ≤ t := le (.cleanup now) (by simp)
          show (((empty ttl).run calls).cleanup now).contains a t = true ↔ _
          -- whatever the sweep drops would not count at `t` either
          rw [contains_cleanup last]
          exact before

end Stored

/-! ## What is counted -/

section Counted

variable {r : RemovedMembers} {t : Nat} {ttl : Nat} {calls : List Call}

theorem encard_of_nodup {l : List Address} (h : l.Nodup) : {a | a ∈ l}.encard = l.length := by
  rw [← List.coe_toFinset, Set.encard_coe_eq_coe_finsetCard, List.toFinset_card_of_nodup h]

/-- A sweep drops what it counts. -/
theorem expiredCount_add_size (r : RemovedMembers) (t : Nat) :
    r.expiredCount t + (r.cleanup t).size = r.size := by
  unfold expiredCount size cleanup
  rw [← List.countP_eq_length_filter, List.length_eq_countP_add_countP fun e => e.2.isOverdue t]
  simp

/-- Of the stored addresses a sweep counts those whose retention is over. -/
theorem Dated.expiredCount (h : Dated ttl calls r) (t : Nat) :
    {a | a ∈ r.addresses ∧ ∃ s, lastAdded a calls = some s ∧ s + ttl ≤ t}.encard =
      r.expiredCount t := by
  have overdue : {a | a ∈ r.addresses ∧ ∃ s, lastAdded a calls = some s ∧ s + ttl ≤ t} =
      {a | a ∈ (r.entries.filter fun e => e.2.isOverdue t).map Prod.fst} := by
    ext a
    constructor
    · rintro ⟨stored, s, last, past⟩
      obtain ⟨x, mem, rfl⟩ := List.mem_map.mp stored
      obtain ⟨s', last', due⟩ := h.dated x mem
      obtain rfl := Option.some.inj (last.symm.trans last')
      refine List.mem_map_of_mem (List.mem_filter.mpr ⟨mem, ?_⟩)
      rw [due]
      exact Deadline.isOverdue_iff.mpr past
    · intro swept
      obtain ⟨x, mem, rfl⟩ := List.mem_map.mp swept
      obtain ⟨mem, past⟩ := List.mem_filter.mp mem
      obtain ⟨s, last, due⟩ := h.dated x mem
      rw [due] at past
      exact ⟨List.mem_map_of_mem mem, s, last, Deadline.isOverdue_iff.mp past⟩
  have apart : ((r.entries.filter fun e => e.2.isOverdue t).map Prod.fst).Nodup :=
    h.distinct.sublist (List.filter_sublist.map _)
  rw [overdue, encard_of_nodup apart, List.length_map, ← List.countP_eq_length_filter]
  rfl

/-- After a sweep everything that is stored counts as removed. -/
theorem Dated.size_cleanup (h : Dated ttl calls r) (t : Nat) :
    {a | (r.cleanup t).contains a t = true}.encard = (r.cleanup t).size := by
  have stored : {a | (r.cleanup t).contains a t = true} = {a | a ∈ (r.cleanup t).addresses} := by
    ext a
    show (r.cleanup t).contains a t = true ↔ a ∈ (r.cleanup t).addresses
    rw [contains_iff]
    constructor
    · rintro ⟨d, mem, -⟩
      exact List.mem_map_of_mem mem
    · intro kept
      obtain ⟨x, mem, rfl⟩ := List.mem_map.mp kept
      exact ⟨x.2, mem, (mem_cleanup.mp mem).2⟩
  have apart : (r.cleanup t).addresses.Nodup := h.cleanup.distinct
  rw [stored, encard_of_nodup apart, addresses, List.length_map]
  rfl

/-- **A removal is remembered for the retention, counted from its last record.** At any instant that no
call is later than, an address counts as removed iff it was recorded and the retention since the last
time is not over, wherever the sweeps were. Each sweep counts the stored addresses whose retention is
over, drops as many entries, and leaves as many as there are addresses that still count. -/
theorem retention_window (ttl : Nat) (calls : List Call) :
    (∀ t, (∀ c ∈ calls, c.now ≤ t) → ∀ a,
      ((empty ttl).run calls).contains a t = true ↔
        ∃ s, lastAdded a calls = some s ∧ t < s + ttl) ∧
    (∀ pre t post, calls = pre ++ .cleanup t :: post →
      let before := (empty ttl).run pre
      {a | a ∈ before.addresses ∧ ∃ s, lastAdded a pre = some s ∧ s + ttl ≤ t}.encard =
          before.expiredCount t ∧
        before.expiredCount t + (before.cleanup t).size = before.size ∧
        {a | (before.cleanup t).contains a t = true}.encard = (before.cleanup t).size) := by
  constructor
  · intro t le a
    exact contains_run_iff le
  · intro pre t post _ before
    have dated : Dated ttl pre before := dated_run ttl pre
    exact ⟨dated.expiredCount t, expiredCount_add_size before t, dated.size_cleanup t⟩

/-- A member that is removed again, with its first removal expired and not swept, is remembered for
another retention. A sweep at the very end of another's retention drops it. -/
theorem retention_window_again :
    let x : Address := ⟨"x"⟩
    let y : Address := ⟨"y"⟩
    let calls : List Call := [.add x 0, .add y 30, .add x 60, .cleanup 90]
    let r := (empty 60).run calls
    (∀ c ∈ calls, c.now ≤ 119) ∧ (∀ c ∈ calls, c.now ≤ 120) ∧
      ((empty 60).run [.add x 0, .add y 30]).contains x 60 = false ∧
      r.contains x 119 = true ∧ r.contains x 120 = false ∧ r.contains y 119 = false ∧
      ((empty 60).run [.add x 0, .add y 30, .add x 60]).expiredCount 90 = 1 ∧ r.size = 1 := by
  intro x y calls r
  have le : ∀ c ∈ calls, c.now ≤ 119 := by decide
  have le' : ∀ c ∈ calls, c.now ≤ 120 := by decide
  have window := (retention_window 60 calls).1
  refine ⟨le, le', by decide, ?_, ?_, ?_, by decide, by decide⟩
  · exact (window 119 le x).mpr ⟨60, by decide, by decide⟩
  · refine Bool.eq_false_iff.mpr fun held => ?_
    obtain ⟨s, last, within⟩ := (window 120 le' x).mp held
    obtain rfl : 60 = s := Option.some.inj last
    omega
  · refine Bool.eq_false_iff.mpr fun held => ?_
    obtain ⟨s, last, within⟩ := (window 119 le y).mp held
    obtain rfl : 30 = s := Option.some.inj last
    omega

end Counted

end ClusterSingleton.RemovedMembers
