import ClusterSingleton.Proofs.Tracker.Members

/-!
# The list of a tracker, from what it was told

A tracker starts from a snapshot and goes on from event to event, sorting anew each time. What it
lists in the end can be told without any of this: of each address only the last thing counts that the
tracker was told of it. `age_list_canonical` says so, and that the order in which it hears of
different addresses makes no difference.
-/

namespace ClusterSingleton.OldestTracker

open Member (Distinct Ranked)

/-! ## What a tracker is told -/

/-- Something that a tracker is told of its list. -/
inductive Amendment : Type where
  | insertion (m : Member)
  | deletion (a : Address)
deriving DecidableEq, Repr

def Amendment.address : Amendment → Address
  | insertion m => m.address
  | deletion a => a

/-- What an event says of the list for a node and a role. A node that leaves stays on its own list,
and whoever has not the role is of no account. -/
def amendment? (node : Option Address) (role : Option String) : ClusterEvent → Option Amendment
  | .memberUp m => if m.hasRole role then some (.insertion m) else none
  | .memberExited m =>
      if m.hasRole role = true ∧ node ≠ some m.address then some (.deletion m.address) else none
  | .memberRemoved m => if m.hasRole role then some (.deletion m.address) else none
  | .currentState _ => none

/-- Whether a member of a snapshot is put on the list for a role. -/
def TakesPart (role : Option String) (m : Member) : Prop :=
  (m.status = .up ∨ m.status = .leaving) ∧ m.hasRole role = true

instance (role : Option String) (m : Member) : Decidable (TakesPart role m) :=
  inferInstanceAs (Decidable (_ ∧ _))

/-- All that a tracker is told of its list, by a snapshot and by the events after it. -/
def amendments (node : Option Address) (role : Option String) (c : ClusterState)
    (events : List ClusterEvent) : List Amendment :=
  (c.members.filter fun m => TakesPart role m).map .insertion ++
    events.filterMap (amendment? node role)

/-- The last thing that a tracker was told of an address. -/
def lastAbout (a : Address) (told : List Amendment) : Option Amendment :=
  (told.filter fun x => x.address = a).getLast?

theorem lastAbout_snoc (a : Address) (told : List Amendment) (x : Amendment) :
    lastAbout a (told ++ [x]) = if x.address = a then some x else lastAbout a told := by
  unfold lastAbout
  rw [List.filter_append]
  by_cases here : x.address = a
  · simp [here]
  · simp [here]

/-- Of members that have each an address of their own, each is the last that was told of. -/
theorem lastAbout_insertions {ms : List Member} (distinct : Distinct ms) (m : Member) :
    lastAbout m.address (ms.map .insertion) = some (.insertion m) ↔ m ∈ ms := by
  constructor
  · intro last
    have mem := (List.mem_filter.mp (List.mem_of_getLast? last)).1
    obtain ⟨x, hx, same⟩ := List.mem_map.mp mem
    exact Amendment.insertion.inj same ▸ hx
  · intro mem
    have told : Amendment.insertion m ∈
        (ms.map Amendment.insertion).filter fun x => x.address = m.address := by
      refine List.mem_filter.mpr ⟨List.mem_map_of_mem mem, ?_⟩
      exact decide_eq_true rfl
    cases last : lastAbout m.address (ms.map .insertion) with
    | none =>
        rw [List.getLast?_eq_none_iff.mp last] at told
        cases told
    | some y =>
        -- nobody else on the list has the address
        obtain ⟨hy, here⟩ := List.mem_filter.mp (List.mem_of_getLast? last)
        obtain ⟨x, hx, rfl⟩ := List.mem_map.mp hy
        obtain rfl := distinct.eq hx mem (of_decide_eq_true here)
        rfl

/-! ## What becomes of the list -/

section Heed

variable {node : Option Address} {role : Option String} {ms : List Member} {m : Member}
  {e : ClusterEvent} {x : Amendment}

theorem heed_unconcerned (h : amendment? node role e = none) : heed node role ms e = ms := by
  cases e with
  | memberUp m => simp_all [amendment?, heed]
  | memberExited m =>
      simp only [amendment?, heed] at h ⊢
      split
      · rfl
      next other =>
        split
        next has => simp [has, other] at h
        next => rfl
  | memberRemoved m => simp_all [amendment?, heed]
  | currentState c => rfl

/-- **An event puts a member on the list, or takes one off**, and leaves all other addresses. -/
theorem mem_heed_iff (h : amendment? node role e = some x) :
    m ∈ heed node role ms e ↔ x = .insertion m ∨ m ∈ ms ∧ x.address ≠ m.address := by
  cases e with
  | memberUp y =>
      obtain ⟨has, rfl⟩ : y.hasRole role = true ∧ x = .insertion y := by simp_all [amendment?]
      simp only [heed, if_pos has]
      rw [Member.mem_sortByAge, List.mem_append, Member.mem_without, List.mem_singleton, or_comm,
        Amendment.insertion.injEq, eq_comm]
      exact or_congr_right (and_congr_right fun _ => ne_comm)
  | memberExited y =>
      obtain ⟨⟨has, other⟩, rfl⟩ :
          (y.hasRole role = true ∧ node ≠ some y.address) ∧ x = .deletion y.address := by
        simp_all [amendment?]
      simp only [heed, if_neg other, if_pos has]
      rw [Member.mem_without]
      simp [Amendment.address, ne_comm]
  | memberRemoved y =>
      obtain ⟨has, rfl⟩ : y.hasRole role = true ∧ x = .deletion y.address := by
        simp_all [amendment?]
      simp only [heed, if_pos has]
      rw [Member.mem_without]
      simp [Amendment.address, ne_comm]
  | currentState c => cases h

end Heed

/-! ## A tracker that follows the events -/

/-- A tracker that starts from a snapshot and hears the events after it. -/
def follow (node : Option Address) (role : Option String) (c : ClusterState)
    (events : List ClusterEvent) : OldestTracker :=
  events.foldl observe ((create node role).seed c)

section Follow

variable {node : Option Address} {role : Option String} {c : ClusterState}

theorem follow_snoc (events : List ClusterEvent) (e : ClusterEvent) :
    follow node role c (events ++ [e]) = (follow node role c events).observe e :=
  List.foldl_concat ..

theorem follow_frame (node : Option Address) (role : Option String) (c : ClusterState)
    (events : List ClusterEvent) :
    (follow node role c events).initialized = true ∧ (follow node role c events).self = node ∧
      (follow node role c events).role = role := by
  induction events using List.reverseRecOn with
  | nil => exact ⟨rfl, rfl, rfl⟩
  | append_singleton events e ih =>
      obtain ⟨seeded, self, same⟩ := ih
      rw [follow_snoc]
      obtain ⟨seeded', self', same'⟩ := observe_frame seeded e
      exact ⟨seeded', self'.trans self, same'.trans same⟩

theorem follow_members_snoc (events : List ClusterEvent) (e : ClusterEvent) :
    (follow node role c (events ++ [e])).members =
      heed node role (follow node role c events).members e := by
  obtain ⟨seeded, self, same⟩ := follow_frame node role c events
  rw [follow_snoc, observe_members seeded, self, same]

theorem follow_members_nil :
    (follow node role c []).members =
      Member.sortByAge (c.members.filter fun m => TakesPart role m) := by
  show Member.sortByAge (c.members.filter (create node role).eligible) = _
  congr 1
  refine List.filter_congr fun m _ => ?_
  rw [Bool.eq_iff_iff, decide_eq_true_eq]
  simp [eligible, create, TakesPart]

theorem ranked_follow (distinct : Distinct c.members) (events : List ClusterEvent) :
    Ranked (follow node role c events).members := by
  induction events using List.reverseRecOn with
  | nil =>
      rw [follow_members_nil]
      exact Member.ranked_sortByAge (distinct.filter _)
  | append_singleton events e ih =>
      rw [follow_members_snoc]
      exact ranked_heed ih e

/-- **Who is listed is told by the last word on each address.** -/
theorem mem_follow_iff (distinct : Distinct c.members) (events : List ClusterEvent) (m : Member) :
    m ∈ (follow node role c events).members ↔
      lastAbout m.address (amendments node role c events) = some (.insertion m) := by
  induction events using List.reverseRecOn with
  | nil =>
      rw [follow_members_nil, Member.mem_sortByAge]
      show _ ↔ lastAbout m.address (_ ++ []) = _
      rw [List.append_nil]
      exact (lastAbout_insertions (distinct.filter _) m).symm
  | append_singleton events e ih =>
      have told : amendments node role c (events ++ [e]) =
          amendments node role c events ++ (amendment? node role e).toList := by
        unfold amendments
        rw [filterMap_snoc, List.append_assoc]
      rw [follow_members_snoc, told]
      cases given : amendment? node role e with
      | none =>
          rw [heed_unconcerned given, ih, Option.toList_none, List.append_nil]
      | some x =>
          rw [mem_heed_iff given, ih, Option.toList_some, lastAbout_snoc]
          by_cases here : x.address = m.address
          · simp [here]
          · rw [if_neg here, and_iff_left here, or_iff_right_iff_imp]
            rintro rfl
            exact absurd rfl here

end Follow

/-! ## What does not matter -/

/-- An event that says something of the list says it of the address that it is about. -/
theorem amendment?_address {node : Option Address} {role : Option String} {e : ClusterEvent}
    {x : Amendment} (h : amendment? node role e = some x) : e.address? = some x.address := by
  cases e with
  | currentState c => cases h
  | _ =>
      simp only [amendment?] at h
      split at h
      · obtain rfl := Option.some.inj h
        rfl
      · cases h

/-- What is said of an address is said by the events about it. -/
theorem filter_amendments (node : Option Address) (role : Option String) (a : Address)
    (events : List ClusterEvent) :
    (events.filterMap (amendment? node role)).filter (fun x => x.address = a) =
      (events.filter fun e => e.address? = some a).filterMap (amendment? node role) := by
  rw [List.filter_filterMap, List.filterMap_filter]
  refine List.filterMap_congr fun e _ => ?_
  cases given : amendment? node role e with
  | none => simp
  | some x =>
      rw [amendment?_address given]
      by_cases here : x.address = a <;> simp [here]

/-- The oldest member is the head of the list, which is older than the rest. -/
theorem oldest_eq_some_iff {t : OldestTracker} (older : t.members.Pairwise (·.isOlderThan · = true))
    (a : Address) :
    t.oldest = some a ↔ ∃ m rest, t.members = m :: rest ∧ m.address = a ∧
      ∀ x ∈ rest, m.isOlderThan x = true := by
  rw [oldest]
  cases listed : t.members with
  | nil => simp
  | cons m rest =>
      rw [listed, List.pairwise_cons] at older
      constructor
      · intro head
        exact ⟨m, rest, rfl, Option.some.inj head, older.1⟩
      · rintro ⟨m', rest', same, rfl, -⟩
        cases same
        rfl

/-- **The list of a tracker is canonical.** A tracker that starts from a snapshot with each address
once, whatever it hears then, lists each address once and the older before the younger; its oldest
member is the head of the list. It lists a member exactly if the last thing that it was told of its
address is that this member is there. So two trackers with the same last word on each address have
the same list and the same oldest member, whatever else they were told; and it does not matter how the
events about different addresses are mixed. -/
theorem age_list_canonical (node : Option Address) (role : Option String) {c : ClusterState}
    (distinct : Distinct c.members) (events : List ClusterEvent) :
    let t := follow node role c events
    let told := amendments node role c events
    Distinct t.members ∧
    t.members.Pairwise (fun a b => a.isOlderThan b = true) ∧
    (∀ a, t.oldest = some a ↔ ∃ m rest, t.members = m :: rest ∧ m.address = a ∧
      ∀ x ∈ rest, m.isOlderThan x = true) ∧
    (∀ m, m ∈ t.members ↔ lastAbout m.address told = some (.insertion m)) ∧
    (∀ node' role' c' events', Distinct c'.members →
      (∀ a, lastAbout a (amendments node' role' c' events') = lastAbout a told) →
      (follow node' role' c' events').members = t.members ∧
        (follow node' role' c' events').oldest = t.oldest) ∧
    (∀ events', (∀ a, events'.filter (fun e => e.address? = some a) =
        events.filter (fun e => e.address? = some a)) →
      (follow node role c events').members = t.members ∧
        (follow node role c events').oldest = t.oldest) := by
  intro t told
  have ranked : Ranked t.members := ranked_follow distinct events
  have canonical : ∀ node' role' c' events', Distinct c'.members →
      (∀ a, lastAbout a (amendments node' role' c' events') = lastAbout a told) →
      (follow node' role' c' events').members = t.members ∧
        (follow node' role' c' events').oldest = t.oldest := by
    intro node' role' c' events' distinct' same
    have members : (follow node' role' c' events').members = t.members := by
      refine (ranked_follow distinct' events').ext ranked fun m => ?_
      rw [mem_follow_iff distinct', mem_follow_iff distinct, same]
    exact ⟨members, by rw [oldest, oldest, members]⟩
  refine ⟨ranked.distinct, ranked.older, oldest_eq_some_iff ranked.older,
    mem_follow_iff distinct events, canonical, ?_⟩
  intro events' same
  refine canonical node role c events' distinct fun a => ?_
  show lastAbout a (_ ++ _) = lastAbout a (_ ++ _)
  unfold lastAbout
  rw [List.filter_append, List.filter_append, filter_amendments, filter_amendments, same]

/-- `a`, the follower `b`, and `c`, which is about to leave. -/
def threeMembers : ClusterState :=
  ⟨[⟨⟨"a"⟩, 1, .up, .empty⟩, ⟨⟨"b"⟩, 2, .up, .empty⟩, ⟨⟨"c"⟩, 3, .leaving, .empty⟩]⟩

/-- `a` as it comes back. -/
def returned : Member := ⟨⟨"a"⟩, 4, .up, .empty⟩

/-- `a` leaves and comes back, `b` leaves, `c` is removed. -/
def comings : List ClusterEvent :=
  [.memberExited ⟨⟨"a"⟩, 1, .exiting, .empty⟩, .memberUp returned,
    .memberExited ⟨⟨"b"⟩, 2, .exiting, .empty⟩, .memberRemoved ⟨⟨"c"⟩, 3, .removed, .empty⟩]

/-- The same, heard in another order. -/
def comingsMixed : List ClusterEvent :=
  [.memberRemoved ⟨⟨"c"⟩, 3, .removed, .empty⟩, .memberExited ⟨⟨"a"⟩, 1, .exiting, .empty⟩,
    .memberExited ⟨⟨"b"⟩, 2, .exiting, .empty⟩, .memberUp returned]

/-- In either order `b` lists `a` as it came back and itself, but not `c`. -/
theorem age_list_canonical_comings :
    let t := follow (some ⟨"b"⟩) none threeMembers comings
    Distinct threeMembers.members ∧
      (∀ x, comingsMixed.filter (fun e => e.address? = some x) =
        comings.filter (fun e => e.address? = some x)) ∧
      returned ∈ t.members ∧ ⟨⟨"b"⟩, 2, .up, .empty⟩ ∈ t.members ∧
      ⟨⟨"c"⟩, 3, .leaving, .empty⟩ ∉ t.members ∧
      (follow (some ⟨"b"⟩) none threeMembers comingsMixed).oldest = t.oldest := by
  intro t
  have distinct : Distinct threeMembers.members := by unfold Distinct; decide
  have same : ∀ x, comingsMixed.filter (fun e => e.address? = some x) =
      comings.filter (fun e => e.address? = some x) := by
    intro x
    by_cases a : x = ⟨"a"⟩
    · subst a
      decide
    by_cases b : x = ⟨"b"⟩
    · subst b
      decide
    by_cases c : x = ⟨"c"⟩
    · subst c
      decide
    simp [comings, comingsMixed, returned, ClusterEvent.address?, Ne.symm a, Ne.symm b, Ne.symm c]
  obtain ⟨-, -, -, listed, -, order⟩ :=
    age_list_canonical (some ⟨"b"⟩) none distinct comings
  refine ⟨distinct, same, (listed _).mpr (by decide), (listed _).mpr (by decide), ?_,
    (order comingsMixed same).2⟩
  intro there
  exact absurd ((listed _).mp there) (by decide)

end ClusterSingleton.OldestTracker
