import ClusterSingleton.Proofs.Membership.Calls
import ClusterSingleton.Proofs.Tracker.Members

/-!
# What a tracker lists of the membership

The list of a tracker and the list of the members go apart: nobody is told of a member that is down
before it is removed, and a node that leaves stays on its own list. `Follows` says how far apart they
can be, and `Follows.does` that it stays so with every call, once the tracker has heard of it.
-/

namespace ClusterSingleton

open OldestTracker (heed)
open Roster (Call Settled)

/-- Whether a member of this address is down. -/
def Roster.isDown (m : Roster) (a : Address) : Bool :=
  m.members.any fun y => y.address == a && y.status == .down

theorem Roster.isDown_iff {m : Roster} {a : Address} :
    m.isDown a = true ↔ ∃ y ∈ m.members, y.address = a ∧ y.status = .down := by
  simp [isDown]

/-- Why a member is listed for a node and a role: it was up when it was listed and is a member still,
and is not about to leave, unless it is the node itself. -/
def Tracked (node : Option Address) (role : Option String) (members : List Member) (x : Member) :
    Prop :=
  x.hasRole role = true ∧ ∃ y ∈ members, x = { y with status := .up } ∧
    (y.status = .exiting → node = some y.address)

/-- A list that follows the members: it lists only with a reason, and everyone who is up and has the
role. -/
structure Follows (node : Option Address) (role : Option String) (ms members : List Member) :
    Prop where
  ranked : Member.Ranked ms
  tracks : ∀ x ∈ ms, Tracked node role members x
  covers : ∀ y ∈ members, y.status = .up → y.hasRole role = true → y ∈ ms

namespace Follows

variable {node : Option Address} {role : Option String} {ms members : List Member} {m : Roster}
  {x z : Member} {s : MemberStatus}

/-! ## A snapshot -/

/-- What a tracker takes over from the membership as it is. -/
theorem of_snapshot {t : OldestTracker} (regular : m.Regular) :
    Follows t.self t.role (t.seed m.snapshot).members m.members := by
  have eligible : ∀ y ∈ m.members, t.eligible y = true ↔
      y.status = .up ∧ y.hasRole t.role = true := by
    intro y mem
    unfold OldestTracker.eligible
    rcases regular.settled y mem with status | status | status <;> simp [status]
  have listed : ∀ y, y ∈ (t.seed m.snapshot).members ↔
      y ∈ m.members ∧ y.status = .up ∧ y.hasRole t.role = true := by
    intro y
    show y ∈ Member.sortByAge (m.members.filter t.eligible) ↔ _
    rw [Member.mem_sortByAge, List.mem_filter]
    exact and_congr_right (eligible y)
  refine ⟨Member.ranked_sortByAge (regular.distinct.filter _), ?_, ?_⟩
  · intro y mem
    obtain ⟨there, up, has⟩ := (listed y).mp mem
    refine ⟨has, y, there, by rw [← up], ?_⟩
    intro exits
    rw [up] at exits
    cases exits
  · intro y mem up has
    exact (listed y).mpr ⟨mem, up, has⟩

/-! ## One call -/

/-- Whoever is listed under the address of a member is that member, as it was when it was up. -/
theorem listed_eq (h : Follows node role ms members) (distinct : Member.Distinct members)
    (listed : z ∈ ms) (mem : x ∈ members) (same : z.address = x.address) :
    z = { x with status := .up } ∧ x.hasRole role = true ∧
      (x.status = .exiting → node = some x.address) := by
  obtain ⟨has, y, hy, rfl, exits⟩ := h.tracks z listed
  obtain rfl := distinct.eq hy mem same
  exact ⟨rfl, has, exits⟩

/-- What does not concern a listed member leaves the reason to list it. -/
theorem tracked_apart (h : Follows node role ms members) {members' : List Member} {a : Address}
    (keeps : ∀ y ∈ members, y.address ≠ a → y ∈ members') (listed : z ∈ ms)
    (other : z.address ≠ a) : Tracked node role members' z := by
  obtain ⟨has, y, hy, rfl, exits⟩ := h.tracks z listed
  exact ⟨has, y, keeps y hy other, rfl, exits⟩

/-- A change of status leaves the reason to list a member, unless another node is about to leave. -/
theorem tracked_replaced (h : Follows node role ms members) (distinct : Member.Distinct members)
    (mem : x ∈ members) (own : s = .exiting → node = some x.address) (listed : z ∈ ms) :
    Tracked node role (Member.replaced members { x with status := s }) z := by
  by_cases same : z.address = x.address
  · obtain ⟨rfl, has, -⟩ := h.listed_eq distinct listed mem same
    exact ⟨has, _, (Member.mem_replaced mem).mpr (Or.inl rfl), rfl, own⟩
  · exact h.tracked_apart (fun y hy other => (Member.mem_replaced mem).mpr (Or.inr ⟨hy, other⟩))
      listed same

/-- Nobody comes up by another change of status. -/
theorem covers_replaced (h : Follows node role ms members) (mem : x ∈ members) (away : s ≠ .up) :
    ∀ y ∈ Member.replaced members { x with status := s }, y.status = .up →
      y.hasRole role = true → y ∈ ms ∧ y.address ≠ x.address := by
  intro y hy up has
  rcases (Member.mem_replaced mem).mp hy with rfl | ⟨old, other⟩
  · exact absurd up away
  · exact ⟨h.covers y old up has, other⟩

theorem joins (h : Follows node role ms m.members) {a : Address} {roles : RoleSet}
    (same : ∀ y ∈ m.members, y.address = a → y.roles = roles) :
    Follows node role (heed node role ms (.memberUp (m.newcomer a roles)))
      (Member.without m.members a ++ [m.newcomer a roles]) := by
  have ranked : Member.Ranked (heed node role ms (.memberUp (m.newcomer a roles))) :=
    OldestTracker.ranked_heed h.ranked _
  by_cases has : (m.newcomer a roles).hasRole role = true
  · simp only [heed, if_pos has] at ranked ⊢
    refine ⟨ranked, ?_, ?_⟩
    · intro z listed
      rcases List.mem_append.mp (Member.mem_sortByAge.mp listed) with old | new
      · obtain ⟨old, other⟩ := Member.mem_without.mp old
        refine h.tracked_apart (a := a) ?_ old other
        intro y hy away
        exact List.mem_append_left _ (Member.mem_without.mpr ⟨hy, away⟩)
      · obtain rfl := List.mem_singleton.mp new
        refine ⟨has, _, List.mem_append_right _ (List.mem_singleton_self _), rfl, ?_⟩
        rintro ⟨⟩
    · intro y mem up hasRole
      refine Member.mem_sortByAge.mpr ?_
      rcases List.mem_append.mp mem with old | new
      · obtain ⟨old, other⟩ := Member.mem_without.mp old
        exact List.mem_append_left _ (Member.mem_without.mpr ⟨h.covers y old up hasRole, other⟩)
      · exact List.mem_append_right _ new
  · simp only [heed, if_neg has] at ranked ⊢
    refine ⟨ranked, ?_, ?_⟩
    · intro z listed
      -- whoever is listed has the role, and the newcomer would have it too
      have other : z.address ≠ a := by
        intro here
        obtain ⟨had, y, hy, rfl, -⟩ := h.tracks z listed
        exact has (same y hy here ▸ had)
      refine h.tracked_apart ?_ listed other
      intro y hy away
      exact List.mem_append_left _ (Member.mem_without.mpr ⟨hy, away⟩)
    · intro y mem up hasRole
      rcases List.mem_append.mp mem with old | new
      · exact h.covers y (Member.mem_without.mp old).1 up hasRole
      · obtain rfl := List.mem_singleton.mp new
        exact absurd hasRole has

theorem leaves (h : Follows node role ms members) (distinct : Member.Distinct members)
    (mem : x ∈ members) :
    Follows node role (heed node role ms (.memberExited { x with status := .exiting }))
      (Member.replaced members { x with status := .exiting }) := by
  have covers := h.covers_replaced mem (s := .exiting) (by decide)
  have apart : ∀ z ∈ ms, z.address ≠ x.address →
      Tracked node role (Member.replaced members { x with status := .exiting }) z :=
    fun z listed => h.tracked_apart
      (fun y hy other => (Member.mem_replaced mem).mpr (Or.inr ⟨hy, other⟩)) listed
  have ranked : Member.Ranked (heed node role ms (.memberExited { x with status := .exiting })) :=
    OldestTracker.ranked_heed h.ranked _
  by_cases own : node = some x.address
  · simp only [heed, if_pos own] at ranked ⊢
    exact ⟨ranked, fun z => h.tracked_replaced distinct mem fun _ => own,
      fun y hy up has => (covers y hy up has).1⟩
  · by_cases has : Member.hasRole { x with status := .exiting } role = true
    · simp only [heed, if_neg own, if_pos has] at ranked ⊢
      refine ⟨ranked, ?_, ?_⟩
      · intro z listed
        obtain ⟨listed, away⟩ := Member.mem_without.mp listed
        exact apart z listed away
      · intro y hy up has
        exact Member.mem_without.mpr (covers y hy up has)
    · -- whoever is listed has the role, so the one that leaves is not listed
      simp only [heed, if_neg own, if_neg has] at ranked ⊢
      refine ⟨ranked, ?_, fun y hy up has => (covers y hy up has).1⟩
      intro z listed
      refine apart z listed ?_
      intro same
      exact has (h.listed_eq distinct listed mem same).2.1

theorem downs (h : Follows node role ms members) (distinct : Member.Distinct members)
    (mem : x ∈ members) :
    Follows node role ms (Member.replaced members { x with status := .down }) := by
  refine ⟨h.ranked, fun z => h.tracked_replaced distinct mem (by rintro ⟨⟩), ?_⟩
  intro y hy up has
  exact (h.covers_replaced mem (by decide) y hy up has).1

theorem removes (h : Follows node role ms members) (distinct : Member.Distinct members)
    (mem : x ∈ members) :
    Follows node role (heed node role ms (.memberRemoved { x with status := s }))
      (Member.without members x.address) := by
  have apart : ∀ z ∈ ms, z.address ≠ x.address →
      Tracked node role (Member.without members x.address) z :=
    fun z listed => h.tracked_apart
      (fun y hy other => Member.mem_without.mpr ⟨hy, other⟩) listed
  have covers : ∀ y ∈ Member.without members x.address, y.status = .up → y.hasRole role = true →
      y ∈ ms ∧ y.address ≠ x.address := by
    intro y hy up has
    obtain ⟨hy, other⟩ := Member.mem_without.mp hy
    exact ⟨h.covers y hy up has, other⟩
  have ranked : Member.Ranked (heed node role ms (.memberRemoved { x with status := s })) :=
    OldestTracker.ranked_heed h.ranked _
  by_cases has : Member.hasRole { x with status := s } role = true
  · simp only [heed, if_pos has] at ranked ⊢
    refine ⟨ranked, ?_, ?_⟩
    · intro z listed
      obtain ⟨listed, away⟩ := Member.mem_without.mp listed
      exact apart z listed away
    · intro y hy up has
      exact Member.mem_without.mpr (covers y hy up has)
  · simp only [heed, if_neg has] at ranked ⊢
    refine ⟨ranked, ?_, fun y hy up has => (covers y hy up has).1⟩
    intro z listed
    refine apart z listed ?_
    intro same
    exact has (h.listed_eq distinct listed mem same).2.1

/-- **A list that follows the members still does after a call**, once the tracker has heard what there
is to hear of it; a member that joins again has to keep its roles. -/
theorem does {c : Call} {news : Option ClusterEvent} (h : Follows node role ms m.members)
    (regular : m.Regular) (does : m.Does c members news)
    (same : ∀ a roles, c = .join a roles → ∀ y ∈ m.members, y.address = a → y.roles = roles) :
    Follows node role (news.toList.foldl (heed node role) ms) members := by
  cases does with
  | refuses => exact h
  | joins => exact h.joins (same _ _ rfl)
  | leaves mem => exact h.leaves regular.distinct mem
  | downs mem => exact h.downs regular.distinct mem
  | removes mem => exact h.removes regular.distinct mem

/-! ## What is left to agree on -/

/-- Nobody is listed who is not a member. -/
theorem current (h : Follows node role ms members) (listed : z ∈ ms) :
    ∃ y ∈ members, y.address = z.address := by
  obtain ⟨-, y, hy, rfl, -⟩ := h.tracks z listed
  exact ⟨y, hy, rfl⟩

/-- **Of the other nodes, those that are not down are listed exactly if they are up** and have the
role, in the order of age. -/
theorem others_eq (h : Follows node role ms m.members) (regular : m.Regular) :
    (ms.filter fun x => decide (node ≠ some x.address) && !m.isDown x.address) =
      Member.sortByAge (m.members.filter fun y =>
        y.status == .up && (y.hasRole role && decide (node ≠ some y.address))) := by
  refine (h.ranked.filter _).ext (Member.ranked_sortByAge (regular.distinct.filter _)) ?_
  intro x
  rw [Member.mem_sortByAge, List.mem_filter, List.mem_filter]
  simp only [Bool.and_eq_true, Bool.not_eq_true', decide_eq_true_eq, beq_iff_eq]
  constructor
  · rintro ⟨listed, other, present⟩
    obtain ⟨has, y, hy, rfl, exits⟩ := h.tracks x listed
    have up : y.status = .up := by
      -- another node that is about to leave is not listed, and one that is down is left out
      rcases regular.settled y hy with up | leaving | down
      · exact up
      · exact absurd (exits leaving) other
      · rw [Roster.isDown_iff.mpr ⟨y, hy, rfl, down⟩] at present
        cases present
    have same : { y with status := .up } = y := by rw [← up]
    rw [same] at has other ⊢
    exact ⟨hy, up, has, other⟩
  · rintro ⟨hx, up, has, other⟩
    refine ⟨h.covers x hx up has, other, ?_⟩
    refine Bool.eq_false_iff.mpr ?_
    intro isDown
    obtain ⟨y, hy, here, down⟩ := Roster.isDown_iff.mp isDown
    obtain rfl := regular.distinct.eq hy hx here
    rw [up] at down
    cases down

end Follows

end ClusterSingleton
