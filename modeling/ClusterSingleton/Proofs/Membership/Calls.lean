import ClusterSingleton.Roster
import ClusterSingleton.Proofs.Membership.Age

/-!
# The calls on a roster

What the nodes ask of the membership, one case each: `Does` lists what a call makes of the members
and what it tells the subscribers, and `call_does` says that there is no other case. A roster on
which nothing but such calls were made is `Regular`. What a subscriber hears of the calls is at the
end of this file.
-/

namespace ClusterSingleton

namespace Member

variable {ms : List Member} {a : Address} {x y : Member} {s : MemberStatus}

/-! ## Lists of members -/

/-- The list with a member in place of the one that has its address. -/
def replaced (ms : List Member) (x : Member) : List Member :=
  ms.map fun y => if y.address = x.address then x else y

/-- After a change of status the member is listed as it is then, and all others as before. -/
theorem mem_replaced (mem : x ∈ ms) :
    y ∈ replaced ms { x with status := s } ↔
      y = { x with status := s } ∨ y ∈ ms ∧ y.address ≠ x.address := by
  unfold replaced
  rw [List.mem_map]
  constructor
  · rintro ⟨z, hz, rfl⟩
    split
    · exact Or.inl rfl
    next other => exact Or.inr ⟨hz, other⟩
  · rintro (rfl | ⟨hy, other⟩)
    · exact ⟨x, mem, if_pos rfl⟩
    · exact ⟨y, hy, if_neg other⟩

/-- Only the last member that was put in a place counts. -/
theorem replaced_replaced (same : x.address = y.address) :
    replaced (replaced ms x) y = replaced ms y := by
  unfold replaced
  rw [List.map_map]
  refine List.map_congr_left fun z _ => ?_
  by_cases here : z.address = y.address <;> simp [here, same]

/-- The list without an address is the same whoever was put there. -/
theorem without_replaced (same : x.address = a) : without (replaced ms x) a = without ms a := by
  subst same
  unfold without replaced
  induction ms with
  | nil => rfl
  | cons z zs ih =>
      rw [List.map_cons, List.filter_cons, List.filter_cons, ih]
      by_cases here : z.address = x.address <;> simp [here]

theorem addresses_replaced : (replaced ms x).map address = ms.map address := by
  unfold replaced
  rw [List.map_map]
  refine List.map_congr_left fun z _ => ?_
  show (if z.address = x.address then x else z).address = z.address
  split
  next same => exact same.symm
  next => rfl

end Member

namespace Roster

open Member (without replaced)

/-- What is asked of the membership. -/
inductive Call : Type where
  | join (a : Address) (roles : RoleSet)
  | leave (a : Address)
  | down (a : Address)
  | remove (a : Address)
deriving DecidableEq, Repr

/-- The roster that a call leads to, or the reason why it is refused. -/
def attempt (m : Roster) : Call → Except Error Roster
  | .join a roles => .ok (m.join a roles)
  | .leave a => m.leave a
  | .down a => m.down a
  | .remove a => m.remove a

/-- The roster after a call; one that is refused leaves it as it is. -/
def call (m : Roster) (c : Call) : Roster :=
  match m.attempt c with
  | .ok m' => m'
  | .error _ => m

/-- What a call makes of the members, and what the subscribers hear of it. -/
inductive Does (m : Roster) : Call → List Member → Option ClusterEvent → Prop where
  | refuses {c : Call} {reason : Error} (refused : m.attempt c = .error reason) :
      Does m c m.members none
  | joins {a : Address} {roles : RoleSet} :
      Does m (.join a roles) (without m.members a ++ [m.newcomer a roles])
        (some (.memberUp (m.newcomer a roles)))
  | leaves {x : Member} (mem : x ∈ m.members) (up : x.status.canBecome .leaving = true) :
      Does m (.leave x.address) (replaced m.members { x with status := .exiting })
        (some (.memberExited { x with status := .exiting }))
  | downs {x : Member} (mem : x ∈ m.members) (reachable : x.status.canBecome .down = true) :
      Does m (.down x.address) (replaced m.members { x with status := .down }) none
  | removes {x : Member} (mem : x ∈ m.members) (gone : x.status.canBecome .removed = true) :
      Does m (.remove x.address) (without m.members x.address)
        (some (.memberRemoved { x with status := .removed }))

variable {m : Roster} {a : Address}

/-! ## What each call does -/

/-- A call that goes well went well at each of its steps. -/
theorem bind_ok {α β : Type} {r : Except Error α} {f : α → Except Error β} {b : β}
    (h : r >>= f = .ok b) : ∃ a, r = .ok a ∧ f a = .ok b := by
  cases r with
  | error e => cases h
  | ok a => exact ⟨a, rfl, h⟩

theorem change_ok {s : MemberStatus} {r : Roster × Member} (h : m.change a s = .ok r) :
    ∃ x ∈ m.members, x.address = a ∧ x.status.canBecome s = true ∧
      r.1 = { m with members := replaced m.members { x with status := s } } ∧
      r.2 = { x with status := s } := by
  unfold change at h
  split at h
  next => cases h
  next x found =>
    split at h
    next ok =>
      have here : x.address = a := by simpa using List.find?_some found
      obtain rfl := here
      cases h
      exact ⟨x, List.mem_of_find?_eq_some found, rfl, ok, rfl, rfl⟩
    next => cases h

/-- A leave goes through two statuses, and the second never fails. -/
theorem leave_ok {left : Roster} (h : m.leave a = .ok left) :
    ∃ x ∈ m.members, x.address = a ∧ x.status.canBecome .leaving = true ∧
      left = ({ m with members := replaced m.members { x with status := .exiting } } : Roster).publish
        (.memberExited { x with status := .exiting }) := by
  obtain ⟨r, first, rest⟩ := bind_ok h
  obtain ⟨r', second, result⟩ := bind_ok rest
  obtain ⟨x, mem, rfl, up, leaving, -⟩ := change_ok first
  obtain ⟨y, found, here, -, exiting, exited⟩ := change_ok second
  -- the member that is found again is the one that was put in its place
  have again : y = { x with status := .leaving } := by
    rw [leaving] at found
    exact ((Member.mem_replaced mem).mp found).resolve_right fun other => other.2 here
  have twice : replaced (replaced m.members { x with status := .leaving })
      { x with status := .exiting } = replaced m.members { x with status := .exiting } :=
    Member.replaced_replaced rfl
  simp only [leaving, again, twice] at exiting
  rw [again] at exited
  refine ⟨x, mem, rfl, up, ?_⟩
  cases result
  rw [exiting, exited]

theorem down_ok {downed : Roster} (h : m.down a = .ok downed) :
    ∃ x ∈ m.members, x.address = a ∧ x.status.canBecome .down = true ∧
      downed = { m with members := replaced m.members { x with status := .down } } := by
  obtain ⟨r, first, result⟩ := bind_ok h
  obtain ⟨x, mem, rfl, reachable, changed, -⟩ := change_ok first
  cases result
  exact ⟨x, mem, rfl, reachable, changed⟩

theorem remove_ok {left : Roster} (h : m.remove a = .ok left) :
    ∃ x ∈ m.members, x.address = a ∧ x.status.canBecome .removed = true ∧
      left = ({ m with members := without m.members a } : Roster).publish
        (.memberRemoved { x with status := .removed }) := by
  obtain ⟨r, first, result⟩ := bind_ok h
  obtain ⟨x, mem, here, gone, changed, removed⟩ := change_ok first
  refine ⟨x, mem, here, gone, ?_⟩
  have list : without r.1.members a = without m.members a := by
    rw [changed]
    exact Member.without_replaced here
  cases result
  rw [← list, removed, changed]
  rfl

/-- An event reaches the subscribers while the stream is open, and nothing else changes. -/
theorem publish_frame (m : Roster) (e : ClusterEvent) :
    (m.publish e).members = m.members ∧
      (m.publish e).published = m.published ++ (if m.closed then [] else [e]) ∧
      (m.publish e).closed = m.closed ∧ (m.publish e).nextUpNumber = m.nextUpNumber := by
  unfold publish
  split
  next ended => exact ⟨rfl, (List.append_nil _).symm, rfl, rfl⟩
  next => exact ⟨rfl, rfl, rfl, rfl⟩

/-- Whether the call admits a member. -/
def Call.isJoin : Call → Bool
  | join _ _ => true
  | leave _ | down _ | remove _ => false

/-- **A call that goes well does one of four things**, and the subscribers hear of three of them as long
as the stream is open. -/
theorem attempt_does {c : Call} {m' : Roster} (ok : m.attempt c = .ok m') :
    ∃ members news, m.Does c members news ∧ m'.members = members ∧
      m'.published = m.published ++ (if m.closed then [] else news.toList) ∧
      m'.closed = m.closed ∧ m'.nextUpNumber = m.nextUpNumber + c.isJoin.toNat := by
  cases c with
  | join a roles =>
      cases ok
      exact ⟨_, some _, .joins, publish_frame _ _⟩
  | leave a =>
      obtain ⟨x, mem, rfl, up, rfl⟩ := leave_ok ok
      exact ⟨_, some _, .leaves mem up, publish_frame _ _⟩
  | down a =>
      obtain ⟨x, mem, rfl, reachable, rfl⟩ := down_ok ok
      refine ⟨_, none, .downs mem reachable, rfl, ?_, rfl, rfl⟩
      rw [Option.toList_none, ite_self]
      exact (List.append_nil _).symm
  | remove a =>
      obtain ⟨x, mem, rfl, gone, rfl⟩ := remove_ok ok
      exact ⟨_, some _, .removes mem gone, publish_frame _ _⟩

/-- **A call does one of five things**, and the subscribers hear of three of them. -/
theorem call_does (opened : m.closed = false) (c : Call) :
    ∃ members news, m.Does c members news ∧ (m.call c).members = members ∧
      (m.call c).published = m.published ++ news.toList ∧ (m.call c).closed = false := by
  unfold call
  cases result : m.attempt c with
  | error reason =>
      exact ⟨_, none, .refuses result, rfl, (List.append_nil _).symm, opened⟩
  | ok m' =>
      obtain ⟨members, news, does, listed, published, closed, -⟩ := attempt_does result
      rw [opened] at published closed
      exact ⟨members, news, does, listed, published, closed⟩

/-! ## What every call preserves -/

/-- The statuses that a member has between two calls. -/
def Settled (s : MemberStatus) : Prop := s = .up ∨ s = .exiting ∨ s = .down

/-- A roster that is open and is not found in the middle of a change: each address is listed once,
and every member is up, is about to leave, or is down. -/
structure Regular (m : Roster) : Prop where
  distinct : Member.Distinct m.members
  settled : ∀ x ∈ m.members, Settled x.status
  opened : m.closed = false

theorem regular_empty : empty.Regular := ⟨List.nodup_nil, List.forall_mem_nil _, rfl⟩

section Does

variable {c : Call} {members : List Member} {news : Option ClusterEvent}

theorem Does.distinct (does : m.Does c members news) (h : Member.Distinct m.members) :
    Member.Distinct members := by
  cases does with
  | refuses => exact h
  | @joins a roles => exact h.replace (m.newcomer a roles)
  | leaves | downs =>
      unfold Member.Distinct
      rw [Member.addresses_replaced]
      exact h
  | removes => exact h.filter _

theorem Does.settled (does : m.Does c members news) (h : ∀ x ∈ m.members, Settled x.status) :
    ∀ x ∈ members, Settled x.status := by
  intro x mem
  cases does with
  | refuses => exact h x mem
  | joins =>
      rcases List.mem_append.mp mem with old | new
      · exact h x (Member.mem_without.mp old).1
      · obtain rfl := List.mem_singleton.mp new
        exact Or.inl rfl
  | leaves there =>
      rcases (Member.mem_replaced there).mp mem with rfl | ⟨old, -⟩
      · exact Or.inr (Or.inl rfl)
      · exact h x old
  | downs there =>
      rcases (Member.mem_replaced there).mp mem with rfl | ⟨old, -⟩
      · exact Or.inr (Or.inr rfl)
      · exact h x old
  | removes => exact h x (Member.mem_without.mp mem).1

end Does

theorem Regular.call (h : m.Regular) (c : Call) : (m.call c).Regular := by
  obtain ⟨members, news, does, rfl, -, opened⟩ := call_does h.opened c
  exact ⟨does.distinct h.distinct, does.settled h.settled, opened⟩

/-! ## What a subscriber hears -/

/-- What is published comes after all that the subscriber has to hear already. -/
theorem pending_append {m' : Roster} {r : Reader} {news : List ClusterEvent}
    (within : r.position ≤ m.published.length) (published : m'.published = m.published ++ news) :
    m'.pending r = m.pending r ++ news := by
  unfold pending
  rw [published, List.drop_append_of_le_length within]

/-- A subscriber that has lost nothing hears the first event that is left for it, and passes it; there
is nothing to pass if none is left. -/
theorem hear_cases {r : Reader} (complete : m.lost r = 0) :
    (m.pending r = [] ∧ (m.hear r = .closed ∨ m.hear r = .nothing) ∧ m.pass r = r) ∨
      ∃ e, m.hear r = .event e ∧ m.pass r = ⟨r.position + 1⟩ ∧ r.position < m.published.length ∧
        m.pending r = e :: m.pending ⟨r.position + 1⟩ := by
  unfold hear pass pending
  rw [complete]
  cases left : m.published.drop r.position with
  | nil =>
      have last : m.published.length ≤ r.position := List.drop_eq_nil_iff.mp left
      rw [List.getElem?_eq_none last, if_neg (Nat.not_lt.mpr last)]
      refine Or.inl ⟨rfl, ?_, rfl⟩
      cases m.closed
      · exact Or.inr rfl
      · exact Or.inl rfl
  | cons e rest =>
      have comes : m.published[r.position]? = some e := by
        rw [← List.head?_drop]
        exact congrArg List.head? left
      have more : r.position < m.published.length := (List.getElem?_eq_some_iff.mp comes).1
      have remains : m.published.drop (r.position + 1) = rest := by
        rw [← List.tail_drop]
        exact congrArg List.tail left
      rw [comes, if_pos more]
      exact Or.inr ⟨e, rfl, rfl, more, congrArg (e :: ·) remains.symm⟩

end Roster

end ClusterSingleton
