import ClusterSingleton.Proofs.Membership.Views

/-!
# Followers of the membership

Followers subscribe at any time, and hear of each change some time after it was made. What a follower
lists is not what the membership lists: nobody is told of a member that is down before it is removed,
and a node does not take itself off the list when it leaves. `followers_agree` says that there is no
other difference, so that all followers agree on the others.
-/

namespace ClusterSingleton

open Roster (Call)
open OldestTracker (heed)

/-! ## Followers -/

/-- A tracker of the oldest member, with the place up to which it has heard. -/
structure Follower : Type where
  tracker : OldestTracker
  reader : Roster.Reader
deriving DecidableEq, Repr

namespace Follower

/-- A follower that starts from the present membership. -/
def subscribe (self : Address) (role : Option String) (m : Roster) : Follower :=
  ⟨(OldestTracker.create (some self) role).seed m.snapshot, m.reader⟩

/-- The follower hears what comes next. -/
def hear (f : Follower) (m : Roster) : Follower :=
  match m.hear f.reader with
  | .event e => ⟨f.tracker.observe e, m.pass f.reader⟩
  | _ => ⟨f.tracker, m.pass f.reader⟩

/-- The follower is asked for a word. -/
def request (f : Follower) : Follower := { f with tracker := f.tracker.request }

/-- The follower hands out a word, if there is one that was asked for. -/
def poll (f : Follower) : Follower := { f with tracker := f.tracker.poll.2 }

/-- Whether a member is another node with the role that the follower was asked about. -/
def regards (f : Follower) (x : Member) : Bool :=
  x.hasRole f.tracker.role && decide (f.tracker.self ≠ some x.address)

/-- The members on the list that are other nodes and are not down. -/
def others (f : Follower) (m : Roster) : List Member :=
  f.tracker.members.filter fun x =>
    decide (f.tracker.self ≠ some x.address) && !m.isDown x.address

end Follower

/-! ## The membership and its followers -/

structure Audience : Type where
  roster : Roster
  followers : List Follower
deriving DecidableEq, Repr

namespace Audience

inductive Act : Type where
  | call (c : Call)
  | subscribe (self : Address) (role : Option String)
  | hear (i : Nat)
  | request (i : Nat)
  | poll (i : Nat)
deriving DecidableEq, Repr

def start : Audience := ⟨.empty, []⟩

def step (c : Audience) : Act → Audience
  | .call x => { c with roster := c.roster.call x }
  | .subscribe self role => { c with followers := c.followers ++ [.subscribe self role c.roster] }
  | .hear i => { c with followers := c.followers.modify i fun f => f.hear c.roster }
  | .request i => { c with followers := c.followers.modify i Follower.request }
  | .poll i => { c with followers := c.followers.modify i Follower.poll }

def run (acts : List Act) : Audience := acts.foldl step start

theorem run_snoc (acts : List Act) (x : Act) : run (acts ++ [x]) = (run acts).step x :=
  List.foldl_concat ..

/-- A member that joins again, before it was removed, has the roles that it had. -/
def KeepsRoles (c : Audience) : Act → Prop
  | .call (.join a roles) => ∀ y ∈ c.roster.members, y.address = a → y.roles = roles
  | _ => True

/-- A follower has no more to hear than is kept for it. -/
def Prompt (c : Audience) (i : Nat) : Prop :=
  ∀ f ∈ c.followers[i]?, (c.roster.pending f.reader).length ≤ Roster.backlog

instance (c : Audience) : (x : Act) → Decidable (c.KeepsRoles x)
  | .call (.join a roles) =>
      inferInstanceAs (Decidable (∀ y ∈ c.roster.members, y.address = a → y.roles = roles))
  | .call (.leave _) | .call (.down _) | .call (.remove _) => isTrue trivial
  | .subscribe _ _ | .hear _ | .request _ | .poll _ => isTrue trivial

instance (c : Audience) (i : Nat) : Decidable (c.Prompt i) :=
  inferInstanceAs (Decidable (∀ f ∈ c.followers[i]?, _))

/-- No member changes its roles. -/
def RolesKept (acts : List Act) : Prop :=
  ∀ pre x post, acts = pre ++ x :: post → (run pre).KeepsRoles x

/-- The follower never loses an event. -/
def KeepsUp (acts : List Act) (i : Nat) : Prop :=
  ∀ pre x post, acts = pre ++ x :: post → ((run pre).step x).Prompt i

instance (acts : List Act) : Decidable (RolesKept acts) :=
  decidable_of_iff _ (forall_place_iff (P := fun pre x => (run pre).KeepsRoles x)).symm

instance (acts : List Act) (i : Nat) : Decidable (KeepsUp acts i) :=
  decidable_of_iff _ (forall_place_iff (P := fun pre x => ((run pre).step x).Prompt i)).symm

end Audience

/-! ## The invariant -/

namespace Follower

variable {f : Follower} {m : Roster}

/-- The list that the follower will have when it has heard everything. -/
def ahead (f : Follower) (m : Roster) : List Member :=
  (m.pending f.reader).foldl (heed f.tracker.self f.tracker.role) f.tracker.members

/-- The follower has seen a snapshot, and its list is right once it has heard what is left. -/
structure Informed (f : Follower) (m : Roster) : Prop where
  seeded : f.tracker.initialized = true
  within : f.reader.position ≤ m.published.length
  follows : Follows f.tracker.self f.tracker.role (f.ahead m) m.members

theorem informed_subscribe (regular : m.Regular) (self : Address) (role : Option String) :
    (subscribe self role m).Informed m := by
  refine ⟨rfl, Nat.le_refl _, ?_⟩
  have caughtUp : (subscribe self role m).ahead m = (subscribe self role m).tracker.members := by
    show (m.published.drop m.published.length).foldl _ _ = _
    rw [List.drop_length]
    rfl
  rw [caughtUp]
  exact Follows.of_snapshot (t := .create (some self) role) regular

/-- A word that is asked for or handed out does not change what the follower lists. -/
theorem Informed.of_tracker (h : f.Informed m) {t : OldestTracker}
    (same : t.initialized = f.tracker.initialized ∧ t.self = f.tracker.self ∧
      t.role = f.tracker.role ∧ t.members = f.tracker.members) :
    ({ f with tracker := t } : Follower).Informed m := by
  obtain ⟨initialized, self, role, members⟩ := same
  refine ⟨initialized.trans h.seeded, h.within, ?_⟩
  show Follows t.self t.role ((m.pending f.reader).foldl (heed t.self t.role) t.members) m.members
  rw [self, role, members]
  exact h.follows

theorem Informed.request (h : f.Informed m) : f.request.Informed m :=
  h.of_tracker ⟨rfl, rfl, rfl, rfl⟩

theorem Informed.poll (h : f.Informed m) : f.poll.Informed m := by
  refine h.of_tracker ?_
  rcases f.tracker.poll_cases with stays | ⟨credits, e, rest, -, -, gives⟩
  · rw [stays]
    exact ⟨rfl, rfl, rfl, rfl⟩
  · rw [gives]
    exact ⟨rfl, rfl, rfl, rfl⟩

/-- Who has no more to hear than is kept for it has lost nothing. -/
theorem lost_eq_zero (prompt : (m.pending f.reader).length ≤ Roster.backlog) :
    m.lost f.reader = 0 := by
  unfold Roster.pending at prompt
  rw [List.length_drop] at prompt
  unfold Roster.lost
  omega

/-- **Hearing does not change where the follower is heading.** -/
theorem Informed.hear (h : f.Informed m)
    (prompt : (m.pending f.reader).length ≤ Roster.backlog) : (f.hear m).Informed m := by
  rcases Roster.hear_cases (lost_eq_zero prompt) with
    ⟨-, silent, stays⟩ | ⟨e, comes, passes, more, left⟩
  · have same : f.hear m = f := by
      unfold Follower.hear
      rcases silent with silent | silent <;> rw [silent, stays]
    rw [same]
    exact h
  · have next : f.hear m = ⟨f.tracker.observe e, ⟨f.reader.position + 1⟩⟩ := by
      unfold Follower.hear
      rw [comes, passes]
    obtain ⟨seeded, self, role⟩ := OldestTracker.observe_frame h.seeded e
    have heading := h.follows
    rw [ahead, left, List.foldl_cons] at heading
    rw [next]
    refine ⟨seeded, more, ?_⟩
    rw [ahead, self, role, OldestTracker.observe_members h.seeded]
    exact heading

/-- **A call changes what the follower has to hear as it changes the members.** -/
theorem Informed.call (h : f.Informed m) (regular : m.Regular) (c : Call)
    (same : ∀ a roles, c = .join a roles → ∀ y ∈ m.members, y.address = a → y.roles = roles) :
    f.Informed (m.call c) := by
  obtain ⟨members, news, does, listed, published, -⟩ := Roster.call_does regular.opened c
  have later : (m.call c).pending f.reader = m.pending f.reader ++ news.toList :=
    Roster.pending_append h.within published
  refine ⟨h.seeded, ?_, ?_⟩
  · rw [published, List.length_append]
    exact Nat.le_add_right_of_le h.within
  · rw [ahead, later, List.foldl_append, listed]
    exact h.follows.does regular does same

end Follower

namespace Audience

variable {c : Audience} {i : Nat}

/-- What holds of the membership and one of its followers. -/
structure Sound (c : Audience) (i : Nat) : Prop where
  regular : c.roster.Regular
  prompt : c.Prompt i
  informed : ∀ f ∈ c.followers[i]?, f.Informed c.roster

theorem sound_start : start.Sound i :=
  ⟨Roster.regular_empty, by rintro f ⟨⟩, by rintro f ⟨⟩⟩

/-- A follower is informed as before when one of them does something that keeps it so. -/
theorem Sound.modify (h : c.Sound i) {j : Nat} {g : Follower → Follower}
    (keeps : ∀ f ∈ c.followers[i]?, (g f).Informed c.roster) :
    ∀ f ∈ (c.followers.modify j g)[i]?, f.Informed c.roster := by
  intro f mem
  rw [List.getElem?_modify, Option.mem_def, Option.map_eq_map, Option.map_eq_some_iff] at mem
  obtain ⟨f', mem, rfl⟩ := mem
  split
  · exact keeps f' mem
  · exact h.informed f' mem

/-- **An act leaves a follower informed**, whoever acts. -/
theorem Sound.step (h : c.Sound i) {x : Act} (roles : c.KeepsRoles x)
    (prompt : (c.step x).Prompt i) : (c.step x).Sound i := by
  cases x with
  | call x =>
      refine ⟨h.regular.call x, prompt, ?_⟩
      intro f mem
      refine (h.informed f mem).call h.regular x ?_
      rintro a newRoles rfl
      exact roles
  | subscribe self role =>
      refine ⟨h.regular, prompt, ?_⟩
      intro f mem
      rw [Option.mem_def, Audience.step, List.getElem?_append] at mem
      split at mem
      next => exact h.informed f mem
      next =>
        obtain rfl := List.mem_singleton.mp (List.mem_of_getElem? mem)
        exact Follower.informed_subscribe h.regular self role
  | hear j =>
      refine ⟨h.regular, prompt, h.modify ?_⟩
      intro f mem
      exact (h.informed f mem).hear (h.prompt f mem)
  | request j =>
      refine ⟨h.regular, prompt, h.modify ?_⟩
      intro f mem
      exact (h.informed f mem).request
  | poll j =>
      refine ⟨h.regular, prompt, h.modify ?_⟩
      intro f mem
      exact (h.informed f mem).poll

theorem sound_of_keepsUp {acts : List Act} (roles : RolesKept acts) (keepsUp : KeepsUp acts i) :
    (run acts).Sound i := by
  induction acts using List.reverseRecOn with
  | nil => exact sound_start
  | append_singleton acts x ih =>
      rw [run_snoc]
      refine Sound.step (ih ?_ ?_) (roles acts x [] rfl) (keepsUp acts x [] rfl)
      · intro pre y post place
        exact roles pre y (post ++ [x]) (by rw [place]; simp)
      · intro pre y post place
        exact keepsUp pre y (post ++ [x]) (by rw [place]; simp)

/-! ## Agreement -/

section Agreement

variable {f : Follower}

theorem Sound.follows (h : c.Sound i) (here : f ∈ c.followers[i]?)
    (heard : c.roster.pending f.reader = []) :
    Follows f.tracker.self f.tracker.role f.tracker.members c.roster.members := by
  have heading := (h.informed f here).follows
  rwa [Follower.ahead, heard] at heading

/-- Who has heard everything lists of the other nodes exactly those that are up and have the role. -/
theorem Sound.others_eq (h : c.Sound i) (here : f ∈ c.followers[i]?)
    (heard : c.roster.pending f.reader = []) :
    f.others c.roster =
      Member.sortByAge (c.roster.members.filter fun y => y.status == .up && f.regards y) :=
  (h.follows here heard).others_eq h.regular

theorem Sound.mem_others (h : c.Sound i) (here : f ∈ c.followers[i]?)
    (heard : c.roster.pending f.reader = []) {x : Member} :
    x ∈ f.others c.roster ↔ x ∈ c.roster.members ∧ x.status = .up ∧ f.regards x = true := by
  rw [h.others_eq here heard, Member.mem_sortByAge, List.mem_filter]
  simp

theorem Sound.ranked_others (h : c.Sound i) (here : f ∈ c.followers[i]?)
    (heard : c.roster.pending f.reader = []) : Member.Ranked (f.others c.roster) :=
  (h.follows here heard).ranked.filter _

/-- **Every follower follows the membership.** A follower that has lost nothing and heard everything
lists only members, oldest first; and the other nodes on its list that are not down are the members
that are up and have the role, sorted by age. So any two of them agree, whenever they subscribed. -/
theorem followers_agree {acts : List Act} (roles : RolesKept acts) (keepsUp : KeepsUp acts i)
    (here : f ∈ (run acts).followers[i]?) (heard : (run acts).roster.pending f.reader = []) :
    let m := (run acts).roster
    (∀ x ∈ f.tracker.members, x.address ∈ m.addresses) ∧
      f.tracker.members.Pairwise (fun a b => a.isOlderThan b = true) ∧
      f.others m = Member.sortByAge (m.members.filter fun y => y.status == .up && f.regards y) ∧
      ∀ j, KeepsUp acts j → ∀ g ∈ (run acts).followers[j]?, m.pending g.reader = [] →
        (f.others m).filter g.regards = (g.others m).filter f.regards := by
  intro m
  have sound : (run acts).Sound i := sound_of_keepsUp roles keepsUp
  have follows := sound.follows here heard
  refine ⟨?_, follows.ranked.older, sound.others_eq here heard, ?_⟩
  · intro x listed
    obtain ⟨y, hy, same⟩ := follows.current listed
    refine (List.mergeSort_perm ..).mem_iff.mpr ?_
    exact same ▸ List.mem_map_of_mem hy
  · intro j alsoUp g there done
    have sound' : (run acts).Sound j := sound_of_keepsUp roles alsoUp
    refine ((sound.ranked_others here heard).filter _).ext
      ((sound'.ranked_others there done).filter _) ?_
    intro x
    rw [List.mem_filter, List.mem_filter, sound.mem_others here heard,
      sound'.mem_others there done]
    tauto

end Agreement

/-- Nodes join, one of them leaves and another is down, while two of them follow. -/
def twoFollowers : List Act :=
  [.call (.join ⟨"a"⟩ .empty), .subscribe ⟨"a"⟩ none, .call (.join ⟨"b"⟩ .empty),
    .call (.join ⟨"c"⟩ .empty), .call (.join ⟨"d"⟩ .empty), .hear 0, .call (.leave ⟨"a"⟩),
    .subscribe ⟨"c"⟩ none, .call (.down ⟨"b"⟩), .hear 0, .hear 0, .hear 0]

/-- The node that left and the one that came later agree. -/
theorem followers_agree_twoFollowers :
    let c := run twoFollowers
    RolesKept twoFollowers ∧ KeepsUp twoFollowers 0 ∧ KeepsUp twoFollowers 1 ∧
      ∃ f ∈ c.followers[0]?, ∃ g ∈ c.followers[1]?,
        c.roster.pending f.reader = [] ∧ c.roster.pending g.reader = [] ∧
        (f.others c.roster).filter g.regards = (g.others c.roster).filter f.regards := by
  intro c
  have roles : RolesKept twoFollowers := by decide
  have first : KeepsUp twoFollowers 0 := by decide
  have second : KeepsUp twoFollowers 1 := by decide
  obtain ⟨f, here⟩ : ∃ f, f ∈ c.followers[0]? := Option.isSome_iff_exists.mp (by decide)
  obtain ⟨g, there⟩ : ∃ g, g ∈ c.followers[1]? := Option.isSome_iff_exists.mp (by decide)
  have heard : ∀ f ∈ c.followers[0]?, c.roster.pending f.reader = [] := by decide
  have done : ∀ g ∈ c.followers[1]?, c.roster.pending g.reader = [] := by decide
  exact ⟨roles, first, second, f, here, g, there, heard f here, done g there,
    (followers_agree roles first here (heard f here)).2.2.2 1 second g there (done g there)⟩

end Audience

end ClusterSingleton
