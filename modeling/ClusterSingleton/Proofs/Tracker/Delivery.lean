import Mathlib.Data.List.Permutation
import ClusterSingleton.Proofs.Tracker.AgeList

/-!
# What a tracker hands out

A tracker hears events, is asked for words and hands them out, all in any order. Whatever it was
asked for, its words are the same: the first tells of the snapshot and each later one of an event
that changed the oldest member. `notifications_exact` says so, and that a word is handed out exactly
when there is one and it was asked for.
-/

namespace ClusterSingleton.OldestTracker

/-! ## Histories -/

/-- What can happen to a tracker. -/
inductive Act : Type where
  | seed (c : ClusterState)
  | observe (e : ClusterEvent)
  | request
  | poll
deriving DecidableEq, Repr

/-- The snapshot that the tracker is given. -/
def Act.snapshot? : Act → Option ClusterState
  | seed c => some c
  | observe (.currentState c) => some c
  | _ => none

def apply (t : OldestTracker) : Act → OldestTracker
  | .seed c => t.seed c
  | .observe e => t.observe e
  | .request => t.request
  | .poll => t.poll.2

def run (t : OldestTracker) (acts : List Act) : OldestTracker := acts.foldl apply t

/-- One act of a history and the tracker that it happened to. -/
structure Moment : Type where
  act : Act
  before : OldestTracker
deriving DecidableEq, Repr

def history (t : OldestTracker) : List Act → List Moment
  | [] => []
  | act :: acts => ⟨act, t⟩ :: (t.apply act).history acts

namespace Moment

def after (x : Moment) : OldestTracker := x.before.apply x.act

/-- The word that is handed out. -/
def handed? (x : Moment) : Option Event :=
  match x.act with
  | .poll => x.before.poll.1
  | _ => none

/-- The word that tells of a change, if an event changed the oldest member. -/
def news? (x : Moment) : Option Event :=
  match x.act with
  | .observe _ =>
      if x.after.oldest = x.before.oldest then none else some (.oldestChanged x.after.oldest)
  | _ => none

end Moment

/-- The words that were handed out, in order. -/
def handed (log : List Moment) : List Event := log.filterMap Moment.handed?

/-- How many words the tracker was asked for. -/
def granted (log : List Moment) : Nat := log.countP fun x => x.act = .request

theorem run_snoc (t : OldestTracker) (acts : List Act) (act : Act) :
    t.run (acts ++ [act]) = (t.run acts).apply act := List.foldl_concat ..

theorem run_append (t : OldestTracker) (acts later : List Act) :
    t.run (acts ++ later) = (t.run acts).run later := List.foldl_append

theorem history_append (t : OldestTracker) (acts later : List Act) :
    t.history (acts ++ later) = t.history acts ++ (t.run acts).history later := by
  induction acts generalizing t with
  | nil => rfl
  | cons act acts ih => exact congrArg (⟨act, t⟩ :: ·) (ih (t.apply act))

theorem history_snoc (t : OldestTracker) (acts : List Act) (act : Act) :
    t.history (acts ++ [act]) = t.history acts ++ [⟨act, t.run acts⟩] := history_append t acts [act]

/-- A place in a history is an act and the tracker that the acts before it made. -/
theorem history_split {t : OldestTracker} {acts : List Act} {pre post : List Moment} {x : Moment}
    (place : t.history acts = pre ++ x :: post) :
    ∃ ys zs, acts = ys ++ x.act :: zs ∧ pre = t.history ys ∧ x.before = t.run ys := by
  induction acts generalizing t pre with
  | nil => simp [history] at place
  | cons act acts ih =>
      cases pre with
      | nil =>
          obtain ⟨rfl, -⟩ := List.cons.inj place
          exact ⟨[], acts, rfl, rfl, rfl⟩
      | cons y pre =>
          obtain ⟨rfl, tail⟩ := List.cons.inj place
          obtain ⟨ys, zs, rfl, rfl, before⟩ := ih tail
          exact ⟨act :: ys, zs, rfl, rfl, before⟩

theorem handed_snoc (log : List Moment) (x : Moment) :
    handed (log ++ [x]) = handed log ++ x.handed?.toList := filterMap_snoc ..

theorem granted_snoc (log : List Moment) (x : Moment) :
    granted (log ++ [x]) = granted log + if x.act = .request then 1 else 0 := by
  unfold granted
  rw [List.countP_append, List.countP_singleton]
  simp

/-! ## One act -/

section Step

variable {t : OldestTracker} {x : Moment} {act : Act} {w : Event}

theorem seed_of_snapshot {c : ClusterState} (snapshot : act.snapshot? = some c)
    (unseeded : t.initialized = false) : t.apply act = t.seed c := by
  cases act with
  | seed c' =>
      obtain rfl := Option.some.inj snapshot
      rfl
  | observe e =>
      cases e with
      | currentState c' =>
          obtain rfl := Option.some.inj snapshot
          show t.observe (.currentState c') = t.seed c'
          unfold observe
          rw [unseeded]
      | _ => cases snapshot
  | request => cases snapshot
  | poll => cases snapshot

/-- A poll without an answer changes nothing. -/
theorem after_of_silent (polls : x.act = .poll) (silent : x.handed? = none) :
    x.after = x.before := by
  obtain ⟨act, t⟩ := x
  obtain rfl : act = .poll := polls
  show t.poll.2 = t
  rcases t.poll_cases with idle | ⟨credits, e, rest, -, -, given⟩
  · rw [idle]
  · rw [Moment.handed?, given] at silent
    cases silent

/-- A poll is answered when there are a word and a credit. -/
theorem handed?_of_poll (polls : x.act = .poll) :
    x.handed? ≠ none ↔ x.before.pending ≠ [] ∧ 0 < x.before.credits := by
  obtain ⟨act, t⟩ := x
  obtain rfl : act = .poll := polls
  show t.poll.1 ≠ none ↔ t.pending ≠ [] ∧ 0 < t.credits
  unfold OldestTracker.poll
  cases t.credits with
  | zero => simp
  | succ credits => cases t.pending <;> simp

theorem news?_some (h : x.news? = some w) :
    w = .oldestChanged x.after.oldest ∧ x.after.oldest ≠ x.before.oldest := by
  unfold Moment.news? at h
  split at h
  · split at h
    · cases h
    next moved => exact ⟨(Option.some.inj h).symm, moved⟩
  · cases h

theorem oldest_of_no_news (other : ∀ c, x.act ≠ .seed c) (h : x.news? = none) :
    x.after.oldest = x.before.oldest := by
  obtain ⟨act, t⟩ := x
  cases act with
  | seed c => exact absurd rfl (other c)
  | observe e =>
      unfold Moment.news? at h
      simpa using h
  | request => rfl
  | poll =>
      show t.poll.2.oldest = t.oldest
      rcases t.poll_cases with idle | ⟨credits, e, rest, -, -, given⟩
      · rw [idle]
      · rw [given]
        rfl

theorem seeded_apply (seeded : t.initialized = true) (act : Act) :
    (t.apply act).initialized = true := by
  cases act with
  | seed c => rfl
  | observe e => exact (observe_frame seeded e).1
  | request => exact seeded
  | poll =>
      show t.poll.2.initialized = true
      rcases t.poll_cases with idle | ⟨credits, e, rest, -, -, given⟩
      · rw [idle]
        exact seeded
      · rw [given]
        exact seeded

/-- **An act hands out the first word, or adds the news it makes as the last.** -/
theorem handed_step (seeded : x.before.initialized = true) (other : ∀ c, x.act ≠ .seed c) :
    x.handed?.toList ++ x.after.pending = x.before.pending ++ x.news?.toList := by
  obtain ⟨act, t⟩ := x
  cases act with
  | seed c => exact absurd rfl (other c)
  | observe e =>
      show (t.observe e).pending = t.pending ++ Option.toList
        (if (t.observe e).oldest = t.oldest then none
          else some (.oldestChanged (t.observe e).oldest))
      rcases observe_seeded seeded e with same | ⟨members, taken⟩
      · rw [same, if_pos rfl, Option.toList_none, List.append_nil]
      · rw [taken]
        obtain ⟨-, -, ⟨pending, same⟩ | ⟨pending, moved⟩⟩ := t.track_cases members
        · rw [if_pos same, pending, Option.toList_none, List.append_nil]
        · rw [if_neg moved, pending, Option.toList_some]
  | request => exact (List.append_nil _).symm
  | poll =>
      show t.poll.1.toList ++ t.poll.2.pending = t.pending ++ []
      rw [List.append_nil]
      rcases t.poll_cases with idle | ⟨credits, e, rest, -, pending, given⟩
      · rw [idle]
        rfl
      · rw [given, pending]
        rfl

theorem credits_observe (t : OldestTracker) (e : ClusterEvent) :
    (t.observe e).credits = t.credits := by
  cases known : t.initialized with
  | false =>
      unfold observe
      rw [known]
      cases e <;> rfl
  | true =>
      rcases observe_seeded known e with same | ⟨members, taken⟩
      · rw [same]
      · rw [taken]
        exact (t.track_cases members).1

/-- A credit is there for each word that was asked for and not handed out, unless there are more than
can be counted. -/
theorem credits_step (room : x.act = .request → x.before.credits < maxCredits) :
    x.before.credits + (if x.act = .request then 1 else 0) =
      x.handed?.toList.length + x.after.credits := by
  obtain ⟨act, t⟩ := x
  cases act with
  | seed c => exact (Nat.zero_add _).symm
  | observe e =>
      show t.credits = 0 + (t.observe e).credits
      rw [credits_observe, Nat.zero_add]
  | request =>
      have room : t.credits < maxCredits := room rfl
      show t.credits + 1 = 0 + min (t.credits + 1) maxCredits
      omega
  | poll =>
      show t.credits = t.poll.1.toList.length + t.poll.2.credits
      rcases t.poll_cases with idle | ⟨credits, e, rest, credit, -, given⟩
      · rw [idle]
        exact (Nat.zero_add _).symm
      · rw [given, credit]
        exact Nat.add_comm credits 1

end Step

/-! ## Every run -/

section Run

variable {t : OldestTracker} {acts : List Act} {node : Option Address} {role : Option String}

/-- Before its snapshot a tracker hears nothing and has nothing to say. -/
theorem run_unseeded (node : Option Address) (role : Option String)
    (early : ∀ x ∈ acts, x.snapshot? = none) :
    (∃ credits, (create node role).run acts = { create node role with credits := credits }) ∧
      handed ((create node role).history acts) = [] := by
  induction acts using List.reverseRecOn with
  | nil => exact ⟨⟨0, rfl⟩, rfl⟩
  | append_singleton acts act ih =>
      obtain ⟨⟨credits, before⟩, silent⟩ := ih fun x mem => early x (List.mem_append_left _ mem)
      have none := early act (by simp)
      rw [run_snoc, history_snoc, handed_snoc, silent, before]
      cases act with
      | seed c => cases none
      | observe e =>
          cases e with
          | currentState c => cases none
          | _ => exact ⟨⟨credits, rfl⟩, rfl⟩
      | request => exact ⟨⟨_, rfl⟩, rfl⟩
      | poll => cases credits <;> exact ⟨⟨_, rfl⟩, rfl⟩

theorem seeded_run (seeded : t.initialized = true) (acts : List Act) :
    (t.run acts).initialized = true := by
  induction acts using List.reverseRecOn with
  | nil => exact seeded
  | append_singleton acts act ih =>
      rw [run_snoc]
      exact seeded_apply ih act

/-- **The words are those that there were, and one for each change**, wherever they are now. -/
theorem handed_run (seeded : t.initialized = true) (once : ∀ c, .seed c ∉ acts) :
    handed (t.history acts) ++ (t.run acts).pending =
      t.pending ++ (t.history acts).filterMap Moment.news? := by
  induction acts using List.reverseRecOn with
  | nil => exact (List.append_nil _).symm
  | append_singleton acts act ih =>
      have before := ih fun c mem => once c (List.mem_append_left _ mem)
      have other : ∀ c, act ≠ .seed c := fun c same => once c (by simp [same])
      let x : Moment := ⟨act, t.run acts⟩
      have step : x.handed?.toList ++ x.after.pending = x.before.pending ++ x.news?.toList :=
        handed_step (seeded_run seeded acts) other
      rw [history_snoc, handed_snoc, filterMap_snoc, run_snoc]
      calc handed (t.history acts) ++ x.handed?.toList ++ x.after.pending
        _ = handed (t.history acts) ++ x.before.pending ++ x.news?.toList := by
            rw [List.append_assoc, step, List.append_assoc]
        _ = t.pending ++ ((t.history acts).filterMap Moment.news? ++ x.news?.toList) := by
            rw [show x.before = t.run acts from rfl, before, List.append_assoc]

/-- The words tell of the oldest members in order, and last of the present one. -/
theorem announced_run {words : List Event} (once : ∀ c, .seed c ∉ acts)
    (h : Announced words t.oldest) :
    Announced (words ++ (t.history acts).filterMap Moment.news?) (t.run acts).oldest := by
  induction acts using List.reverseRecOn with
  | nil =>
      show Announced (words ++ []) t.oldest
      rwa [List.append_nil]
  | append_singleton acts act ih =>
      have before := ih fun c mem => once c (List.mem_append_left _ mem)
      have other : ∀ c, act ≠ .seed c := fun c same => once c (by simp [same])
      rw [history_snoc, filterMap_snoc, run_snoc, ← List.append_assoc]
      cases news : Moment.news? ⟨act, t.run acts⟩ with
      | none =>
          have same := oldest_of_no_news (x := ⟨act, t.run acts⟩) other news
          rw [Option.toList_none, List.append_nil]
          exact same ▸ before
      | some w =>
          obtain ⟨rfl, moved⟩ := news?_some news
          exact .next before moved

/-- The tracker was never owed more words than it can count. -/
def InCredit (log : List Moment) : Prop :=
  ∀ pre post, log = pre ++ post → granted pre ≤ (handed pre).length + maxCredits

theorem InCredit.of_append {log pre post : List Moment} (h : InCredit log)
    (place : log = pre ++ post) : InCredit pre := by
  intro l l' split
  exact h l (l' ++ post) (by rw [place, split, List.append_assoc])

/-- **The credits are what was asked for and not handed out.** -/
theorem credits_run (within : InCredit ((create node role).history acts)) :
    granted ((create node role).history acts) =
      (handed ((create node role).history acts)).length + ((create node role).run acts).credits := by
  induction acts using List.reverseRecOn with
  | nil => rfl
  | append_singleton acts act ih =>
      have all := within _ [] (List.append_nil _).symm
      rw [history_snoc] at within all ⊢
      have before := ih (within.of_append rfl)
      let x : Moment := ⟨act, (create node role).run acts⟩
      have room : x.act = .request → x.before.credits < maxCredits := by
        intro asks
        have silent : x.handed? = none := by rw [Moment.handed?, asks]
        rw [granted_snoc, handed_snoc, silent, if_pos asks, Option.toList_none, List.append_nil,
          before] at all
        show ((create node role).run acts).credits < maxCredits
        omega
      have step : ((create node role).run acts).credits + (if x.act = .request then 1 else 0) =
          x.handed?.toList.length + x.after.credits := credits_step room
      rw [granted_snoc, handed_snoc, List.length_append, run_snoc, before]
      show _ + (if x.act = .request then 1 else 0) = _ + x.handed?.toList.length + x.after.credits
      omega

end Run

/-! ## The words of a tracker -/

/-- The word on a snapshot: who is the oldest of those that take part, and whether no member, of any
role, is about to be removed. -/
def Opens (role : Option String) (c : ClusterState) : Event → Prop
  | .initialOldest oldest safe =>
      (∀ a, oldest = some a ↔ ∃ m ∈ c.members, m.address = a ∧ TakesPart role m ∧
        ∀ x ∈ c.members, TakesPart role x → (m.ageOrder x).isLE = true) ∧
      (safe = true ↔ ∀ m ∈ c.members, m.status ≠ .down ∧ m.status ≠ .exiting)
  | _ => False

theorem opens_seed (node : Option Address) (role : Option String) (c : ClusterState) :
    Opens role c (.initialOldest ((create node role).seed c).oldest (isSafe c)) := by
  have listed : ∀ m, m ∈ ((create node role).seed c).members ↔
      m ∈ c.members ∧ TakesPart role m := by
    intro m
    show m ∈ (follow node role c []).members ↔ _
    rw [follow_members_nil, Member.mem_sortByAge, List.mem_filter, decide_eq_true_eq]
  have sorted : ((create node role).seed c).members.Pairwise
      fun x y => (x.ageOrder y).isLE = true := Member.sortByAge_sorted _
  constructor
  · intro a
    unfold oldest
    cases list : ((create node role).seed c).members with
    | nil =>
        refine iff_of_false (by rintro ⟨⟩) ?_
        rintro ⟨m, mem, -, part, -⟩
        have there := (listed m).mpr ⟨mem, part⟩
        rw [list] at there
        cases there
    | cons y ys =>
        rw [list] at listed sorted
        have first : ∀ x ∈ c.members, TakesPart role x → (y.ageOrder x).isLE = true := by
          intro x mem part
          rcases List.mem_cons.mp ((listed x).mpr ⟨mem, part⟩) with rfl | later
          · exact Std.ReflCmp.isLE_rfl
          · exact List.rel_of_pairwise_cons sorted later
        obtain ⟨mem, part⟩ := (listed y).mp (List.mem_cons_self ..)
        rw [List.head?_cons, Option.map_some, Option.some.injEq]
        constructor
        · intro named
          exact ⟨y, mem, named, part, first⟩
        · rintro ⟨m, there, rfl, part', least⟩
          -- the two are of one age, so they have one address
          have age := Std.OrientedCmp.isLE_antisymm (first m there part') (least y mem part)
          exact (Member.ageOrder_eq_iff.mp age).2
  · unfold isSafe
    simp only [Bool.not_eq_true', List.any_eq_false, Bool.or_eq_true, beq_iff_eq, not_or]

/-- A tracker that is not asked for more words than it can count is never owed more. -/
theorem inCredit_of_few {t : OldestTracker} {acts : List Act}
    (few : acts.countP (fun x => x = .request) ≤ maxCredits) : InCredit (t.history acts) := by
  intro pre post place
  have all : granted (t.history acts) = acts.countP (fun x => x = .request) := by
    clear few place
    induction acts using List.reverseRecOn with
    | nil => rfl
    | append_singleton acts act ih =>
        rw [history_snoc, granted_snoc, ih, List.countP_append, List.countP_singleton]
        simp
  have part : granted pre ≤ granted (t.history acts) := by
    unfold granted
    rw [place, List.countP_append]
    exact Nat.le_add_right _ _
  omega

/-- The words on a snapshot: one that tells of it, and one for each change after it. -/
theorem words_of_snapshot (node : Option Address) (role : Option String) {pre post : List Act}
    {opening : Act} {c : ClusterState} (early : ∀ x ∈ pre, x.snapshot? = none)
    (snapshot : opening.snapshot? = some c) (once : ∀ s, .seed s ∉ post) :
    let t := (create node role).run (pre ++ opening :: post)
    let words := .initialOldest ((create node role).seed c).oldest (isSafe c) ::
      (((create node role).run (pre ++ [opening])).history post).filterMap Moment.news?
    handed ((create node role).history (pre ++ opening :: post)) ++ t.pending = words ∧
      Announced words t.oldest := by
  intro t words
  obtain ⟨⟨credits, before⟩, silent⟩ := run_unseeded node role early
  have seeded : (create node role).run (pre ++ [opening]) =
      { (create node role).seed c with credits := credits } := by
    rw [run_snoc, before]
    exact seed_of_snapshot snapshot rfl
  have mute : Moment.handed? ⟨opening, (create node role).run pre⟩ = none := by
    cases opening with
    | poll => cases snapshot
    | _ => rfl
  have whole : t = ((create node role).run (pre ++ [opening])).run post := by
    rw [← run_append, ← List.append_cons]
  have log : handed ((create node role).history (pre ++ opening :: post)) =
      handed (((create node role).run (pre ++ [opening])).history post) := by
    rw [List.append_cons, history_append, history_snoc]
    unfold handed at silent ⊢
    rw [List.filterMap_append, filterMap_snoc, silent, mute]
    rfl
  have known : ((create node role).run (pre ++ [opening])).initialized = true := by
    rw [seeded]
    rfl
  have waiting : ((create node role).run (pre ++ [opening])).pending =
      [.initialOldest ((create node role).seed c).oldest (isSafe c)] := by
    rw [seeded]
    rfl
  constructor
  · rw [log, whole, handed_run known once, waiting]
    rfl
  · have opens : Announced [.initialOldest ((create node role).seed c).oldest (isSafe c)]
        ((create node role).run (pre ++ [opening])).oldest := by
      rw [seeded]
      exact .first _ _
    rw [whole]
    exact announced_run once opens

/-- **The words of a tracker are exact.** Before its snapshot a tracker has nothing to say. From then
on the words that were handed out and those that wait are, in order, one that tells of the snapshot
and one for each later event that changed the oldest member. So two words in a row name different
members, and the last one names the present oldest. A poll is answered exactly when there is a word
and more were asked for than were handed out, and a poll that is not answered changes nothing. -/
theorem notifications_exact (node : Option Address) (role : Option String) {pre post : List Act}
    {opening : Act} {c : ClusterState} (early : ∀ x ∈ pre, x.snapshot? = none)
    (snapshot : opening.snapshot? = some c) (once : ∀ s, .seed s ∉ post) :
    let t := (create node role).run (pre ++ opening :: post)
    let log := (create node role).history (pre ++ opening :: post)
    let later := ((create node role).run (pre ++ [opening])).history post
    let words := handed log ++ t.pending
    (∃ w, Opens role c w ∧ words = w :: later.filterMap Moment.news?) ∧
    (∀ l x y l', words = l ++ x :: y :: l' → x.named? ≠ y.named?) ∧
    words.getLast?.bind Event.named? = some t.oldest ∧
    (InCredit log → ∀ l x l', log = l ++ x :: l' → x.act = .poll →
      (x.handed? ≠ none ↔ x.before.pending ≠ [] ∧ (handed l).length < granted l)) ∧
    (∀ x ∈ log, x.act = .poll → x.handed? = none → x.after = x.before) := by
  intro t log later words
  obtain ⟨stream, heralded⟩ := words_of_snapshot node role early snapshot once
  have announced : Announced words t.oldest := by
    show Announced (handed log ++ t.pending) t.oldest
    rw [stream]
    exact heralded
  refine ⟨?_, ?_, announced.last_named, ?_, ?_⟩
  · exact ⟨_, opens_seed node role c, stream⟩
  · intro l x y l' place
    exact announced.apart place
  · intro within l x l' place polls
    obtain ⟨ys, zs, -, rfl, before⟩ := history_split place
    have paid := credits_run (within.of_append place)
    rw [handed?_of_poll polls, before]
    exact and_congr_right fun _ => by omega
  · intro x _ polls unanswered
    exact after_of_silent polls unanswered

/-- `a` and the younger `b`, and `z`, which is about to be removed. -/
def leavingMembers : ClusterState :=
  ⟨[⟨⟨"b"⟩, 2, .up, .empty⟩, ⟨⟨"a"⟩, 1, .up, .empty⟩, ⟨⟨"z"⟩, 0, .exiting, .empty⟩]⟩

/-- What happens before the snapshot: an event that is not heard, and a poll in vain. -/
def beforeSnapshot : List Act :=
  [.request, .observe (.memberUp ⟨⟨"y"⟩, 0, .up, .empty⟩), .poll]

/-- A younger member comes up, `a` is removed, and `b` asks again after a poll in vain. -/
def afterSnapshot : List Act :=
  [.observe (.memberUp ⟨⟨"c"⟩, 3, .up, .empty⟩), .poll,
    .observe (.memberRemoved ⟨⟨"a"⟩, 1, .removed, .empty⟩), .poll, .request, .poll]

/-- Two words come of it: `a` was the oldest, while it was not safe to start, and then `b` is. -/
theorem notifications_exact_leaving :
    let opening := Act.observe (.currentState leavingMembers)
    let acts := beforeSnapshot ++ opening :: afterSnapshot
    let t := (create (some ⟨"b"⟩) none).run acts
    let log := (create (some ⟨"b"⟩) none).history acts
    let later := ((create (some ⟨"b"⟩) none).run (beforeSnapshot ++ [opening])).history afterSnapshot
    (∀ x ∈ beforeSnapshot, x.snapshot? = none) ∧ opening.snapshot? = some leavingMembers ∧
      (∀ s, .seed s ∉ afterSnapshot) ∧ InCredit log ∧
      handed log = [.initialOldest (some ⟨"a"⟩) false, .oldestChanged (some ⟨"b"⟩)] ∧
      (∃ w, Opens none leavingMembers w ∧
        handed log ++ t.pending = w :: later.filterMap Moment.news?) ∧
      (∀ l x l', log = l ++ x :: l' → x.act = .poll →
        (x.handed? ≠ none ↔ x.before.pending ≠ [] ∧ (handed l).length < granted l)) := by
  intro opening acts t log later
  have early : ∀ x ∈ beforeSnapshot, x.snapshot? = none := by decide
  have once : ∀ s, .seed s ∉ afterSnapshot := by
    intro s
    simp [afterSnapshot]
  have given : opening.snapshot? = some leavingMembers := rfl
  have within : InCredit log := inCredit_of_few (by decide)
  have words : handed log = [.initialOldest (some ⟨"a"⟩) false, .oldestChanged (some ⟨"b"⟩)] := by
    cbv
  obtain ⟨opens, -, -, answered, -⟩ := notifications_exact (some ⟨"b"⟩) none early given once
  exact ⟨early, given, once, within, words, opens, answered within⟩

end ClusterSingleton.OldestTracker
