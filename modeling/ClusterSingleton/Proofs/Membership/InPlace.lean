import Mathlib.Data.List.Induction
import ClusterSingleton.Proofs.Membership.Calls

/-!
# Calls that are carried out in place

A roster in use is changed where it stands, so that a call that fails in the middle would leave behind
what it has done so far. `perform` carries out a call like that, and `perform_eq` says that no call
fails after its first change: a leave that reaches the first of its two statuses reaches the second.
On that rests what is said of the roster after any requests, at the end of this file.
-/

namespace ClusterSingleton

namespace Member

variable {ms : List Member} {x : Member} {s : MemberStatus}

/-- A change of status leaves the numbers alone. -/
theorem upNumbers_replaced (distinct : Distinct ms) (mem : x ∈ ms) :
    (replaced ms { x with status := s }).map upNumber = ms.map upNumber := by
  unfold replaced
  rw [List.map_map]
  refine List.map_congr_left fun y hy => ?_
  show (if y.address = x.address then { x with status := s } else y).upNumber = y.upNumber
  split
  next same => rw [distinct.eq hy mem same]
  next => rfl

end Member

namespace Roster

open Member (without replaced)

/-! ## In place -/

/-- What is done to a roster step by step. After a failure it is as the steps before left it. -/
abbrev Action : Type → Type := EStateM Error Roster

/-- Gives a member another status, and returns it as it is then. -/
def transition (a : Address) (s : MemberStatus) : Action Member := do
  match (← get).change a s with
  | .ok (changed, x) =>
      set changed
      pure x
  | .error reason => throw reason

def Call.inPlace : Call → Action Unit
  | join a roles => modify fun m => m.join a roles
  | leave a => do
      let _ ← transition a .leaving
      let x ← transition a .exiting
      modify fun m => m.publish (.memberExited x)
  | down a => do
      let _ ← transition a .down
  | remove a => do
      let x ← transition a .removed
      modify fun m => { m with members := without m.members a }
      modify fun m => m.publish (.memberRemoved x)

/-- How a call goes, and the roster that it leaves. -/
def perform (m : Roster) (c : Call) : EStateM.Result Error Roster Unit := c.inPlace.run m

section Perform

variable {m : Roster} {a : Address} {s : MemberStatus}

/-- A member can be given a status that may follow its own. -/
theorem exists_change {x : Member} (mem : x ∈ m.members) (here : x.address = a)
    (may : ∀ y ∈ m.members, y.address = a → y.status.canBecome s = true) :
    ∃ r, m.change a s = .ok r := by
  unfold change
  cases found : m.find? a with
  | none =>
      have missing := List.find?_eq_none.mp found x mem
      simp [here] at missing
  | some y =>
      have same : y.address = a := by simpa using List.find?_some found
      exact ⟨_, if_pos (may y (List.mem_of_find?_eq_some found) same)⟩

theorem exists_change_iff (distinct : Member.Distinct m.members) :
    (∃ r, m.change a s = .ok r) ↔
      ∃ x ∈ m.members, x.address = a ∧ x.status.canBecome s = true := by
  constructor
  · rintro ⟨r, changed⟩
    obtain ⟨x, mem, here, may, -, -⟩ := change_ok changed
    exact ⟨x, mem, here, may⟩
  · rintro ⟨x, mem, here, may⟩
    refine exists_change mem here ?_
    intro y hy same
    obtain rfl := distinct.eq hy mem (same.trans here.symm)
    exact may

/-- Whoever was made to leave can be made to exit. -/
theorem exists_exiting {r : Roster × Member} (first : m.change a .leaving = .ok r) :
    ∃ r', r.1.change a .exiting = .ok r' := by
  obtain ⟨x, mem, rfl, -, changed, -⟩ := change_ok first
  have listed : ({ x with status := .leaving } : Member) ∈ r.1.members := by
    rw [changed]
    exact (Member.mem_replaced mem).mpr (Or.inl rfl)
  refine exists_change listed rfl ?_
  intro y hy here
  rw [changed] at hy
  rcases (Member.mem_replaced mem).mp hy with rfl | ⟨-, other⟩
  · rfl
  · exact absurd here other

theorem transition_run (m : Roster) (a : Address) (s : MemberStatus) :
    (transition a s).run m =
      match m.change a s with
      | .ok (changed, x) => .ok x changed
      | .error reason => .error reason m := by
  unfold transition
  simp only [EStateM.run_bind, EStateM.run_get]
  cases m.change a s <;> rfl

/-- **A call is carried out or refused as a whole.** -/
theorem perform_eq (m : Roster) (c : Call) :
    m.perform c =
      match m.attempt c with
      | .ok m' => .ok () m'
      | .error reason => .error reason m := by
  unfold perform
  cases c with
  | join a roles => rfl
  | leave a =>
      simp only [Call.inPlace, attempt, leave, EStateM.run_bind, transition_run]
      cases first : m.change a .leaving with
      | error reason => rfl
      | ok r =>
          -- the second change starts from what the first one left, and does not fail there
          obtain ⟨r', second⟩ := exists_exiting first
          simp only [bind, Except.bind, second]
          rfl
  | down a =>
      simp only [Call.inPlace, attempt, down, EStateM.run_bind, transition_run]
      cases m.change a .down <;> rfl
  | remove a =>
      simp only [Call.inPlace, attempt, remove, EStateM.run_bind, transition_run]
      cases m.change a .removed <;> rfl

end Perform

/-! ## Requests -/

/-- What a user of the membership asks for. -/
inductive Request : Type where
  | call (c : Call)
  | shutdown
deriving DecidableEq, Repr

def Request.isJoin : Request → Bool
  | call c => c.isJoin
  | shutdown => false

/-- The roster that a request leaves, whether it goes well or not. -/
def after (m : Roster) : Request → Roster
  | .call c =>
      match m.perform c with
      | .ok _ m' => m'
      | .error _ m' => m'
  | .shutdown => m.shutdown

def run (rs : List Request) : Roster := rs.foldl after empty

/-- How many members were admitted. -/
def joins (rs : List Request) : Nat := rs.countP Request.isJoin

theorem run_append (rs rs' : List Request) : run (rs ++ rs') = rs'.foldl after (run rs) :=
  List.foldl_append

theorem after_call (m : Roster) (c : Call) : m.after (.call c) = m.call c := by
  simp only [after, call, perform_eq]
  cases m.attempt c <;> rfl

section Requests

variable {m m' : Roster} {c : Call} {members : List Member} {news : Option ClusterEvent}

/-! ## Members in order -/

/-- A roster between two requests: each address is listed once, later members have higher numbers, all
of them below the next one, and nobody is found in the middle of a change. -/
structure InOrder (m : Roster) : Prop where
  distinct : Member.Distinct m.members
  rising : (m.members.map Member.upNumber).Pairwise (· < ·)
  below : ∀ x ∈ m.members, x.upNumber < m.nextUpNumber
  settled : ∀ x ∈ m.members, Settled x.status

theorem inOrder_empty : empty.InOrder :=
  ⟨List.nodup_nil, .nil, List.forall_mem_nil _, List.forall_mem_nil _⟩

theorem Does.rising (does : m.Does c members news) (h : m.InOrder) :
    (members.map Member.upNumber).Pairwise (· < ·) := by
  cases does with
  | refuses => exact h.rising
  | joins =>
      rw [List.map_append, List.pairwise_append]
      refine ⟨h.rising.sublist (List.filter_sublist.map _), List.pairwise_singleton _ _, ?_⟩
      intro n old n' new
      obtain ⟨y, hy, rfl⟩ := List.mem_map.mp old
      obtain rfl := List.mem_singleton.mp new
      exact h.below y (Member.mem_without.mp hy).1
  | leaves mem | downs mem =>
      rw [Member.upNumbers_replaced h.distinct mem]
      exact h.rising
  | removes => exact h.rising.sublist (List.filter_sublist.map _)

theorem Does.below (does : m.Does c members news) (h : m.InOrder) :
    ∀ x ∈ members, x.upNumber < m.nextUpNumber + c.isJoin.toNat := by
  intro x mem
  cases does with
  | refuses => exact Nat.lt_add_right _ (h.below x mem)
  | joins =>
      rcases List.mem_append.mp mem with old | new
      · exact Nat.lt_add_right _ (h.below x (Member.mem_without.mp old).1)
      · obtain rfl := List.mem_singleton.mp new
        exact Nat.lt_succ_self _
  | leaves there | downs there =>
      have before := h.below _ there
      rcases (Member.mem_replaced there).mp mem with rfl | ⟨old, -⟩
      · exact before
      · exact h.below x old
  | removes => exact h.below x (Member.mem_without.mp mem).1

theorem InOrder.call (h : m.InOrder) (c : Call) : (m.call c).InOrder := by
  unfold Roster.call
  cases result : m.attempt c with
  | error reason => exact h
  | ok m' =>
      obtain ⟨members, news, does, rfl, -, -, number⟩ := attempt_does result
      refine ⟨does.distinct h.distinct, does.rising h, ?_, does.settled h.settled⟩
      rw [number]
      exact does.below h

theorem InOrder.after (h : m.InOrder) (r : Request) : (m.after r).InOrder := by
  cases r with
  | call c =>
      rw [after_call]
      exact h.call c
  | shutdown => exact ⟨h.distinct, h.rising, h.below, h.settled⟩

theorem after_nextUpNumber (m : Roster) (r : Request) :
    (m.after r).nextUpNumber = m.nextUpNumber + r.isJoin.toNat := by
  cases r with
  | shutdown => rfl
  | call c =>
      rw [after_call]
      unfold call
      cases result : m.attempt c with
      | ok m' =>
          obtain ⟨-, -, -, -, -, -, number⟩ := attempt_does result
          exact number
      | error reason =>
          show m.nextUpNumber = _
          cases c with
          | join => cases result
          | leave | down | remove => rfl

theorem inOrder_run (rs : List Request) : (run rs).InOrder := by
  induction rs using List.reverseRecOn with
  | nil => exact inOrder_empty
  | append_singleton rs r ih =>
      rw [run_append]
      exact ih.after r

theorem nextUpNumber_run (rs : List Request) : (run rs).nextUpNumber = joins rs + 1 := by
  induction rs using List.reverseRecOn with
  | nil => rfl
  | append_singleton rs r ih =>
      have count : joins (rs ++ [r]) = joins rs + r.isJoin.toNat := by
        unfold joins
        rw [List.countP_append, List.countP_singleton]
        cases r.isJoin <;> rfl
      rw [run_append, count]
      show ((run rs).after r).nextUpNumber = _
      rw [after_nextUpNumber, ih]
      omega

/-! ## What is accepted -/

/-- Whoever is up can leave, whoever is not down yet can be marked down, and whoever is not up any more
can be removed. -/
def Accepts (m : Roster) : Call → Prop
  | .join _ _ => True
  | .leave a => ∃ x ∈ m.members, x.address = a ∧ x.status = .up
  | .down a => ∃ x ∈ m.members, x.address = a ∧ x.status ≠ .down
  | .remove a => ∃ x ∈ m.members, x.address = a ∧ x.status ≠ .up

theorem Settled.leaving_iff {s : MemberStatus} (h : Settled s) :
    s.canBecome .leaving = true ↔ s = .up := by
  rcases h with rfl | rfl | rfl <;> decide

theorem Settled.down_iff {s : MemberStatus} (h : Settled s) :
    s.canBecome .down = true ↔ s ≠ .down := by
  rcases h with rfl | rfl | rfl <;> decide

theorem Settled.removed_iff {s : MemberStatus} (h : Settled s) :
    s.canBecome .removed = true ↔ s ≠ .up := by
  rcases h with rfl | rfl | rfl <;> decide

/-- A call whose later steps never fail goes well if its first step does. -/
theorem exists_bind_iff {α β : Type} {r : Except Error α} {f : α → Except Error β}
    (rest : ∀ a, r = .ok a → ∃ b, f a = .ok b) :
    (∃ b, r >>= f = .ok b) ↔ ∃ a, r = .ok a := by
  constructor
  · rintro ⟨b, done⟩
    obtain ⟨a, first, -⟩ := bind_ok done
    exact ⟨a, first⟩
  · rintro ⟨a, rfl⟩
    exact rest a rfl

/-- The first change of a call is made if the status of the member allows it. -/
theorem InOrder.exists_step_iff (h : m.InOrder) {β : Type} {a : Address} {s : MemberStatus}
    {allowed : MemberStatus → Prop} {f : Roster × Member → Except Error β}
    (rest : ∀ r, m.change a s = .ok r → ∃ b, f r = .ok b)
    (may : ∀ t, Settled t → (t.canBecome s = true ↔ allowed t)) :
    (∃ b, m.change a s >>= f = .ok b) ↔ ∃ x ∈ m.members, x.address = a ∧ allowed x.status := by
  rw [exists_bind_iff rest, exists_change_iff h.distinct]
  refine exists_congr fun x => and_congr_right fun mem => and_congr_right fun _ => ?_
  exact may x.status (h.settled x mem)

/-- **Between two requests a call is accepted by the status of the member that it is about.** -/
theorem InOrder.exists_attempt_iff (h : m.InOrder) (c : Call) :
    (∃ m', m.attempt c = .ok m') ↔ m.Accepts c := by
  cases c with
  | join a roles => exact iff_of_true ⟨_, rfl⟩ trivial
  | leave a =>
      refine h.exists_step_iff ?_ fun t => Settled.leaving_iff
      intro r first
      exact (exists_bind_iff fun r' _ => ⟨_, rfl⟩).mpr (exists_exiting first)
  | down a => exact h.exists_step_iff (fun r _ => ⟨_, rfl⟩) fun t => Settled.down_iff
  | remove a => exact h.exists_step_iff (fun r _ => ⟨_, rfl⟩) fun t => Settled.removed_iff

/-! ## What is told -/

/-- What the subscribers hear of a call that leads from one roster to another: the member as the call
has made it. -/
inductive Tells (m m' : Roster) : Call → Option ClusterEvent → Prop where
  | up {x : Member} (last : m'.members.getLast? = some x) (number : x.upNumber = m.nextUpNumber)
      (status : x.status = .up) : Tells m m' (.join x.address x.roles) (some (.memberUp x))
  | exited {x : Member} (was : x ∈ m.members) (listed : { x with status := .exiting } ∈ m'.members) :
      Tells m m' (.leave x.address) (some (.memberExited { x with status := .exiting }))
  | quiet {x : Member} (was : x ∈ m.members) (listed : { x with status := .down } ∈ m'.members) :
      Tells m m' (.down x.address) none
  | removed {x : Member} (was : x ∈ m.members) (gone : ∀ y ∈ m'.members, y.address ≠ x.address) :
      Tells m m' (.remove x.address) (some (.memberRemoved { x with status := .removed }))

theorem Does.tells (does : m.Does c m'.members news) (ok : m.attempt c = .ok m') :
    Tells m m' c news := by
  generalize listed : m'.members = members at does
  cases does with
  | refuses refused =>
      rw [refused] at ok
      cases ok
  | @joins a roles =>
      refine .up (x := m.newcomer a roles) ?_ rfl rfl
      rw [listed]
      exact List.getLast?_concat
  | leaves mem =>
      refine .exited mem ?_
      rw [listed]
      exact (Member.mem_replaced mem).mpr (Or.inl rfl)
  | downs mem =>
      refine .quiet mem ?_
      rw [listed]
      exact (Member.mem_replaced mem).mpr (Or.inl rfl)
  | removes mem =>
      refine .removed mem ?_
      rw [listed]
      intro y hy
      exact (Member.mem_without.mp hy).2

end Requests

end Roster

end ClusterSingleton
