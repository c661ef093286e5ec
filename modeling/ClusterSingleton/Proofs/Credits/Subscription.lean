import ClusterSingleton.Proofs.Credits.Appointed
import ClusterSingleton.Proofs.Machine.Ensemble
import ClusterSingleton.Proofs.Tracker.Stream

/-!
# A machine and its tracker

A machine that is told of the oldest member by a tracker. The requests of the machine reach the
tracker some time later, and what the tracker hands out reaches the machine some time later; in
between the membership and the machine go their own ways. `subscription_paced` says that the two
keep pace: no more than one word is outstanding, none comes where the machine would not answer it,
and the oldest is never told that it is the oldest.
-/

namespace ClusterSingleton

structure Subscription : Type where
  site : Site
  /-- The number of requests on their way to the tracker. -/
  requests : Nat
  tracker : OldestTracker
  /-- The words on their way to the machine. -/
  words : List Event
deriving DecidableEq, Repr

namespace Subscription

/-- A machine that was just created, and a tracker that saw one snapshot. -/
def start (p : Profile) (self : Option Address) (role : Option String) (c : ClusterState) :
    Subscription := ⟨⟨p, []⟩, 0, (OldestTracker.create self role).seed c, []⟩

inductive Act : Type where
  /-- The tracker follows the membership. -/
  | observe (e : ClusterEvent)
  /-- A request reaches the tracker. -/
  | grant
  /-- The tracker hands out a word, if there is one that was asked for. -/
  | poll
  /-- The machine is handed an input. -/
  | hand (x : Input)
deriving DecidableEq, Repr

/-- The machine answers an input; what it asks for is on its way. -/
def answer (c : Subscription) (x : Input) : Subscription :=
  { c with site := c.site.hand x, requests := c.requests + (c.site.entry x).turn.requests }

/-- One act. A word of the notifier is handed over only if it is on its way, and uses up that one;
all other inputs come as they like. -/
def step? (c : Subscription) : Act → Option Subscription
  | .observe e => some { c with tracker := c.tracker.observe e }
  | .grant =>
      match c.requests with
      | 0 => none
      | k + 1 => some { c with requests := k, tracker := c.tracker.request }
  | .poll =>
      some { c with tracker := c.tracker.poll.2, words := c.words ++ c.tracker.poll.1.toList }
  | .hand x =>
      if x.event.isNotice then
        if x.event ∈ c.words then some ({ c with words := c.words.erase x.event }.answer x)
        else none
      else some (c.answer x)

def run? (c : Subscription) (acts : List Act) : Option Subscription := acts.foldlM step? c

theorem run?_snoc {c c' : Subscription} {acts : List Act} {a : Act}
    (h : c.run? (acts ++ [a]) = some c') :
    ∃ d, c.run? acts = some d ∧ d.step? a = some c' := foldlM_snoc h

def log (c : Subscription) : List Entry := c.site.log

def machine (c : Subscription) : Machine := c.site.machine

/-! ## The invariant -/

/-- Every word that was asked for is accounted for, and the words tell of the oldest members in
order, whether they were delivered, are on their way or wait to be asked for. -/
structure Accounted (c : Subscription) : Prop where
  gated : Gated c.log
  paid : requested c.log =
    delivered c.log + (c.requests + c.tracker.credits + c.words.length)
  seeded : c.tracker.initialized = true
  stream : Announced (heardWords c.log ++ c.words ++ c.tracker.pending) c.tracker.oldest

namespace Accounted

variable {c c' : Subscription}

theorem balance (h : c.Accounted) : Balance c.log c.machine := balance_of_gated h.gated

/-- At most one request or word is under way. -/
theorem one (h : c.Accounted) : c.requests + c.tracker.credits + c.words.length ≤ 1 := by
  have balance := h.balance
  have paid := h.paid
  unfold Balance at balance
  omega

theorem start (p : Profile) (self : Option Address) (role : Option String) (s : ClusterState) :
    (Subscription.start p self role s).Accounted where
  gated := by
    intro pre e post split
    exact absurd split (by simp [log, Site.log, Subscription.start])
  paid := rfl
  seeded := rfl
  stream := .first _ _

theorem observe (h : c.Accounted) (e : ClusterEvent) :
    { c with tracker := c.tracker.observe e }.Accounted := by
  rcases OldestTracker.observe_seeded h.seeded e with same | ⟨members, moved⟩
  · rw [same]
    exact h
  · rw [moved]
    obtain ⟨credits, seeded, news⟩ := c.tracker.track_cases members
    refine ⟨h.gated, ?_, seeded.trans h.seeded, ?_⟩
    · show requested c.log = _
      rw [credits]
      exact h.paid
    · show Announced (heardWords c.log ++ c.words ++ (c.tracker.track members).pending) _
      rcases news with ⟨pending, oldest⟩ | ⟨pending, other⟩
      · rw [pending, oldest]
        exact h.stream
      · rw [pending, ← List.append_assoc]
        exact .next h.stream other

theorem grant (h : c.Accounted) {k : Nat} (way : c.requests = k + 1) :
    { c with requests := k, tracker := c.tracker.request }.Accounted := by
  have one := h.one
  have paid := h.paid
  refine ⟨h.gated, ?_, h.seeded, h.stream⟩
  -- a credit is never cut off, since there is none yet
  have credits : c.tracker.request.credits = 1 := by
    have none : c.tracker.credits = 0 := by omega
    unfold OldestTracker.request
    rw [none]
    rfl
  show requested c.log = delivered c.log + (k + c.tracker.request.credits + c.words.length)
  omega

theorem poll (h : c.Accounted) :
    { c with
      tracker := c.tracker.poll.2
      words := c.words ++ c.tracker.poll.1.toList }.Accounted := by
  rcases c.tracker.poll_cases with idle | ⟨credits, e, rest, hc, hp, handed⟩
  · rw [idle]
    simpa using h
  · rw [handed]
    have paid := h.paid
    have stream := h.stream
    refine ⟨h.gated, ?_, h.seeded, ?_⟩
    · show requested c.log = delivered c.log + (c.requests + credits + (c.words ++ [e]).length)
      rw [List.length_append, List.length_singleton]
      omega
    · show Announced (heardWords c.log ++ (c.words ++ [e]) ++ rest) c.tracker.oldest
      rw [hp] at stream
      simpa using stream

/-- The machine answers an input; if it is a word, it was the first of those on their way. -/
theorem answer (h : c.Accounted) {x : Input} {left : List Event}
    (taken : heardWords [c.site.entry x] ++ left = c.words) :
    ({ c with words := left }.answer x).Accounted := by
  have paid := h.paid
  have length : (c.site.entry x).event.isNotice.toNat + left.length = c.words.length := by
    rw [← taken, List.length_append]
    cases notice : (c.site.entry x).event.isNotice with
    | true => rw [heardWords_notice notice, Bool.toNat_true, List.length_singleton]
    | false => rw [heardWords_silent notice, Bool.toNat_false, List.length_nil]
  have log : ({ c with words := left }.answer x).log = c.log ++ [c.site.entry x] :=
    c.site.log_hand x
  constructor
  · rw [log]
    refine gated_snoc.mpr ⟨h.gated, ?_⟩
    intro notice
    rw [notice, Bool.toNat_true] at length
    omega
  · rw [log, requested_snoc, delivered_snoc]
    show _ = _ + (c.requests + (c.site.entry x).turn.requests + c.tracker.credits + left.length)
    omega
  · exact h.seeded
  · rw [log, heardWords_append]
    show Announced (_ ++ left ++ c.tracker.pending) c.tracker.oldest
    rw [List.append_assoc (heardWords c.log), taken]
    exact h.stream

/-- There is only one word to be handed over. -/
theorem words_eq (h : c.Accounted) {w : Event} (way : w ∈ c.words) : c.words = [w] := by
  have one := h.one
  have some := List.length_pos_of_mem way
  obtain ⟨v, hv⟩ := List.length_eq_one_iff.mp (show c.words.length = 1 by omega)
  rw [hv, List.mem_singleton] at way
  rw [hv, way]

theorem step (h : c.Accounted) {a : Act} (hs : c.step? a = some c') : c'.Accounted := by
  cases a with
  | observe e =>
      obtain rfl := Option.some.inj hs
      exact h.observe e
  | grant =>
      simp only [step?] at hs
      split at hs
      next => cases hs
      next k way =>
        obtain rfl := Option.some.inj hs
        exact h.grant way
  | poll =>
      obtain rfl := Option.some.inj hs
      exact h.poll
  | hand x =>
      simp only [step?] at hs
      split at hs
      next notice =>
        split at hs
        next way =>
          obtain rfl := Option.some.inj hs
          refine h.answer ?_
          rw [heardWords_notice notice, h.words_eq way]
          simp [Site.entry]
        next => cases hs
      next silent =>
        obtain rfl := Option.some.inj hs
        show (({ c with words := c.words } : Subscription).answer x).Accounted
        refine h.answer ?_
        rw [heardWords_silent (Bool.eq_false_iff.mpr silent), List.nil_append]

theorem run {p : Profile} {self : Option Address} {role : Option String} {s : ClusterState}
    {acts : List Act} (hr : (Subscription.start p self role s).run? acts = some c) :
    c.Accounted := by
  induction acts using List.reverseRecOn generalizing c with
  | nil =>
      obtain rfl := Option.some.inj hr
      exact start p self role s
  | append_singleton acts a ih =>
      obtain ⟨d, hd, hs⟩ := run?_snoc hr
      exact (ih hd).step hs

/-! ## Where no word comes -/

/-- A word that was delivered found one outstanding. -/
theorem paid_before (h : c.Accounted) {pre post : List Entry} {e : Entry}
    (place : c.log = pre ++ e :: post) (notice : e.event.isNotice = true) :
    ∃ ys, pre = c.site.profile.machine.history ys ∧ e.before = c.site.profile.machine.run ys ∧
      Gated pre ∧ delivered pre < requested pre := by
  obtain ⟨ys, zs, -, rfl, before⟩ := Machine.history_split place
  exact ⟨ys, rfl, before, (place ▸ h.gated).of_append, h.gated _ e post place notice⟩

/-- No word comes to a machine that has yet to answer the last one. -/
theorem silent (h : c.Accounted) {e : Entry} (mem : e ∈ c.log)
    (waits : e.before.state = .becomingOldest ∨ e.before.state = .wasOldest) :
    e.event.isNotice = false := by
  refine Bool.eq_false_iff.mpr fun notice => ?_
  obtain ⟨pre, post, place⟩ := List.append_of_mem mem
  obtain ⟨ys, rfl, before, gated, paid⟩ := h.paid_before place notice
  rw [before] at waits
  rw [none_outstanding gated waits] at paid
  exact Nat.lt_irrefl _ paid

/-- The oldest is never told that it is the oldest: the last word told it so. -/
theorem no_echo (h : c.Accounted) {e : Entry} (mem : e ∈ c.log)
    (oldest : e.before.state = .oldest) : e.event ≠ .oldestChanged (some e.before.self) := by
  intro echo
  have notice : e.event.isNotice = true := by
    rw [echo]
    rfl
  obtain ⟨pre, post, place⟩ := List.append_of_mem mem
  obtain ⟨ys, hpre, before, gated, paid⟩ := h.paid_before place notice
  rw [hpre] at gated paid
  rw [before] at oldest
  -- a word is outstanding, so the machine was named last, and the next word names another member
  rcases (appointed_of_gated gated).oldest oldest with named | none
  · obtain ⟨words, w, last, name⟩ := namedLast_eq named
    have stream := h.stream
    rw [place, List.append_cons, heardWords_append, heardWords_append, heardWords_notice notice,
      hpre, last] at stream
    have order : words ++ [w] ++ [e.event] ++ heardWords post ++ c.words ++ c.tracker.pending =
        words ++ w :: e.event :: (heardWords post ++ c.words ++ c.tracker.pending) := by simp
    rw [before] at echo
    exact stream.not_repeated order name echo
  · rw [none] at paid
    exact Nat.lt_irrefl _ paid

end Accounted

/-- The machine and its tracker keep pace. -/
structure Paced (c : Subscription) : Prop where
  /-- No word comes that was not asked for. -/
  delivered_le : delivered c.log ≤ requested c.log
  /-- No more than one word is outstanding. -/
  requested_le : requested c.log ≤ delivered c.log + 1
  /-- None is outstanding while the last one is not answered. -/
  none : c.machine.state = .becomingOldest ∨ c.machine.state = .wasOldest →
    requested c.log = delivered c.log
  silent : ∀ e ∈ c.log, e.before.state = .becomingOldest ∨ e.before.state = .wasOldest →
    e.event.isNotice = false
  no_echo : ∀ e ∈ c.log, e.before.state = .oldest →
    e.event ≠ .oldestChanged (some e.before.self)

/-- **A machine and its tracker keep pace**, however late requests and words arrive and whatever
else happens to the machine and in the cluster meanwhile. -/
theorem subscription_paced (p : Profile) (self : Option Address) (role : Option String)
    (s : ClusterState) (acts : List Act) (c : Subscription)
    (run : (start p self role s).run? acts = some c) : c.Paced := by
  have accounted := Accounted.run run
  refine ⟨accounted.gated.delivered_le, ?_, ?_, ?_, ?_⟩
  · have balance := accounted.balance
    unfold Balance at balance
    omega
  · exact none_outstanding accounted.gated
  · intro e mem waits
    exact accounted.silent mem waits
  · intro e mem oldest
    exact accounted.no_echo mem oldest

/-- A cluster of `a` and the younger `b`. -/
def twoMembers : ClusterState := ⟨[⟨⟨"a"⟩, 1, .up, .empty⟩, ⟨⟨"b"⟩, 2, .up, .empty⟩]⟩

/-- `b` waits for `a`, and starts to take over when `a` is removed. -/
def takeOverRun : List Act :=
  [.hand ⟨0, .nth 0, .startNotifier⟩, .grant, .poll,
    .hand ⟨1, .nth 0, .initialOldest (some ⟨"a"⟩) true⟩,
    .observe (.memberRemoved ⟨⟨"a"⟩, 1, .removed, .empty⟩), .grant, .poll,
    .hand ⟨2, .nth 0, .oldestChanged (some ⟨"b"⟩)⟩]

/-- What `b` and its tracker start from in such a cluster. -/
def waitingForA : Subscription :=
  ⟨⟨⟨⟨"b"⟩, ⟨5, 2⟩, 1000, 20000, 900000⟩, []⟩, 0,
    ⟨some ⟨"b"⟩, none, twoMembers.members, true, [.initialOldest (some ⟨"a"⟩) true], 0⟩, []⟩

theorem start_twoMembers :
    start ⟨⟨"b"⟩, ⟨5, 2⟩, 1000, 20000, 900000⟩ (some ⟨"b"⟩) none twoMembers = waitingForA := by
  have sorted : Member.sortByAge twoMembers.members = twoMembers.members :=
    List.mergeSort_of_pairwise (by decide)
  have all : twoMembers.members.filter (OldestTracker.create (some ⟨"b"⟩) none).eligible =
      twoMembers.members := by decide
  unfold start OldestTracker.seed
  rw [all, sorted]
  rfl

/-- In the end `b` has asked for two words and heard both. -/
theorem subscription_paced_takeOver :
    ∃ c, (start ⟨⟨"b"⟩, ⟨5, 2⟩, 1000, 20000, 900000⟩ (some ⟨"b"⟩) none twoMembers).run?
        takeOverRun = some c ∧
      c.machine.state = .becomingOldest ∧ requested c.log = 2 ∧ delivered c.log = 2 ∧ c.Paced := by
  have ends : ∃ c, waitingForA.run? takeOverRun = some c ∧ c.machine.state = .becomingOldest ∧
      requested c.log = 2 ∧ delivered c.log = 2 := by
    have run := (Option.some_get
      (show (waitingForA.run? takeOverRun).isSome = true by decide)).symm
    exact ⟨_, run, by decide, by decide, by decide⟩
  obtain ⟨c, run, place, asked, heard⟩ := ends
  rw [← start_twoMembers] at run
  exact ⟨c, run, place, asked, heard, subscription_paced _ _ _ _ _ _ run⟩

end Subscription

end ClusterSingleton
