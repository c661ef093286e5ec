import Mathlib.Data.List.Forall2
import ClusterSingleton.Proofs.Machine.History
import ClusterSingleton.Proofs.Membership.InPlace

/-!
# Following the members by replay

Whoever subscribes gets a snapshot of the members, and then the events, some time after each was
published. Replayed over the snapshot they give the list of members again. Nobody is told of a member
that is down, so the status of those is the one thing that a subscriber cannot know. `roster_faithful`
puts this together with what holds of the roster itself.
-/

namespace ClusterSingleton

namespace Member

/-- What an event makes of a list of members. -/
def replay (ms : List Member) : ClusterEvent → List Member
  | .memberUp x => without ms x.address ++ [x]
  | .memberExited x => replaced ms x
  | .memberRemoved x => without ms x.address
  | .currentState c => c.members

/-- A member is reproduced as it is, or with another status if it is one of those whose status is not
known. -/
def Reproduced (unknown : Member → Prop) (y z : Member) : Prop :=
  z = y ∨ y.status = .down ∧ unknown y ∧ z = { y with status := z.status }

section Reproduced

variable {P Q : Member → Prop} {y z : Member} {ms ns : List Member}

theorem Reproduced.address_eq (h : Reproduced P y z) : y.address = z.address := by
  rcases h with rfl | ⟨-, -, same⟩
  · rfl
  · rw [same]

theorem Reproduced.mono (le : ∀ x, P x → Q x) (h : Reproduced P y z) : Reproduced Q y z := by
  rcases h with same | ⟨down, unknown, same⟩
  · exact Or.inl same
  · exact Or.inr ⟨down, le y unknown, same⟩

theorem reproduced_without (h : List.Forall₂ (Reproduced P) ms ns) (a : Address) :
    List.Forall₂ (Reproduced P) (without ms a) (without ns a) := by
  refine List.rel_filter ?_ h
  intro y z same
  simp only [same.address_eq]

theorem reproduced_replaced (h : List.Forall₂ (Reproduced P) ms ns) (x : Member) :
    List.Forall₂ (Reproduced P) (replaced ms x) (replaced ns x) := by
  refine List.rel_map ?_ h
  intro y z same
  show Reproduced P (if y.address = x.address then x else y) (if z.address = x.address then x else z)
  rw [← same.address_eq]
  split
  · exact Or.inl rfl
  · exact same

end Reproduced

end Member

namespace Roster

open Member (replaced Reproduced)

/-! ## Subscribers -/

def Heard.event? : Heard → Option ClusterEvent
  | event e => some e
  | lagged _ | closed | nothing => none

def Heard.isLagged : Heard → Bool
  | lagged _ => true
  | event _ | closed | nothing => false

/-- A subscriber, what it heard so far, and the roster that it subscribed to. -/
structure Session : Type where
  roster : Roster
  reader : Reader
  heard : List Heard
deriving DecidableEq, Repr

namespace Session

inductive Act : Type where
  | request (r : Request)
  | hear
deriving DecidableEq, Repr

def Act.request? : Act → Option Request
  | request r => some r
  | hear => none

def subscribe (m : Roster) : Session := ⟨m, m.reader, []⟩

def step (s : Session) : Act → Session
  | .request r => { s with roster := s.roster.after r }
  | .hear =>
      { s with
        reader := s.roster.pass s.reader
        heard := s.heard ++ [s.roster.hear s.reader] }

theorem step_hear (s : Session) :
    s.step .hear =
      ⟨s.roster, s.roster.pass s.reader, s.heard ++ [s.roster.hear s.reader]⟩ := rfl

def follow (m : Roster) (acts : List Act) : Session := acts.foldl step (subscribe m)

/-- The events that the subscriber received. -/
def received (s : Session) : List ClusterEvent := s.heard.filterMap Heard.event?

/-- What was asked of the membership since the subscriber is there. -/
def requests (acts : List Act) : List Request := acts.filterMap Act.request?

end Session

section Stream

variable {m : Roster} {rs : List Request}

/-! ## What is received -/

/-- Events are never taken back. -/
theorem after_published (m : Roster) (r : Request) :
    ∃ news, (m.after r).published = m.published ++ news := by
  cases r with
  | shutdown => exact ⟨[], (List.append_nil _).symm⟩
  | call c =>
      rw [after_call, call]
      cases result : m.attempt c with
      | error reason => exact ⟨[], (List.append_nil _).symm⟩
      | ok m' =>
          obtain ⟨-, news, -, -, published, -, -⟩ := attempt_does result
          exact ⟨_, published⟩

namespace Session

theorem follow_snoc (m : Roster) (acts : List Act) (x : Act) :
    follow m (acts ++ [x]) = (follow m acts).step x := List.foldl_concat ..

theorem roster_follow (m : Roster) (acts : List Act) :
    (follow m acts).roster = (requests acts).foldl Roster.after m := by
  induction acts using List.reverseRecOn with
  | nil => rfl
  | append_singleton acts x ih =>
      rw [follow_snoc, requests, filterMap_snoc, List.foldl_append, ← requests, ← ih]
      cases x with
      | request r => rfl
      | hear =>
          rw [step_hear]
          rfl

/-- The subscriber has received what it passed since it is there, and the rest is still to come. -/
structure Receives (m : Roster) (s : Session) : Prop where
  since : m.published.length ≤ s.reader.position
  within : s.reader.position ≤ s.roster.published.length
  stream : s.received ++ s.roster.pending s.reader = s.roster.published.drop m.published.length

variable {s : Session}

theorem receives_subscribe (m : Roster) : Receives m (subscribe m) :=
  ⟨Nat.le_refl _, Nat.le_refl _, rfl⟩

theorem Receives.request (h : Receives m s) (r : Request) : Receives m (s.step (.request r)) := by
  obtain ⟨news, published⟩ := after_published s.roster r
  have later : (s.roster.after r).pending s.reader = s.roster.pending s.reader ++ news :=
    pending_append h.within published
  refine ⟨h.since, ?_, ?_⟩
  · show s.reader.position ≤ (s.roster.after r).published.length
    rw [published, List.length_append]
    exact Nat.le_add_right_of_le h.within
  · show s.received ++ (s.roster.after r).pending s.reader = (s.roster.after r).published.drop _
    rw [later, published, List.drop_append_of_le_length (Nat.le_trans h.since h.within),
      ← h.stream, List.append_assoc]

theorem received_hear (s : Session) :
    (s.step .hear).received = s.received ++ (s.roster.hear s.reader).event?.toList :=
  filterMap_snoc ..

theorem Receives.hear (h : Receives m s) (complete : (s.roster.hear s.reader).isLagged = false) :
    Receives m (s.step .hear) := by
  have lost : s.roster.lost s.reader = 0 := by
    refine Nat.eq_zero_of_not_pos fun lag => ?_
    rw [Roster.hear, if_pos lag] at complete
    cases complete
  have next := received_hear s
  rw [step_hear] at next ⊢
  rcases hear_cases lost with ⟨-, silent, stays⟩ | ⟨e, comes, passes, more, left⟩
  · have unheard : (s.roster.hear s.reader).event? = none := by
      rcases silent with silent | silent <;> rw [silent] <;> rfl
    rw [unheard, Option.toList_none, List.append_nil] at next
    rw [stays] at next ⊢
    refine ⟨h.since, h.within, ?_⟩
    rw [next]
    exact h.stream
  · have stream := h.stream
    rw [left] at stream
    rw [comes, passes] at next ⊢
    refine ⟨Nat.le_succ_of_le h.since, more, ?_⟩
    rw [next, ← stream]
    exact List.append_assoc ..

theorem receives_follow {acts : List Act}
    (complete : ∀ x ∈ (follow m acts).heard, x.isLagged = false) : Receives m (follow m acts) := by
  induction acts using List.reverseRecOn with
  | nil => exact receives_subscribe m
  | append_singleton acts x ih =>
      rw [follow_snoc] at complete ⊢
      cases x with
      | request r => exact (ih complete).request r
      | hear =>
          refine (ih fun y mem => complete y (List.mem_append_left _ mem)).hear ?_
          exact complete _ (List.mem_append_right _ (List.mem_singleton_self _))

end Session

/-! ## What the events tell -/

/-- The member was marked down by one of the later requests, and has not come up anew since. -/
def DownedSince (rs later : List Request) (y : Member) : Prop :=
  ∃ pre post m', later = pre ++ .call (.down y.address) :: post ∧
    (run (rs ++ pre)).attempt (.down y.address) = .ok m' ∧ y ∈ m'.members

theorem DownedSince.snoc {later : List Request} {y : Member} (h : DownedSince rs later y)
    (r : Request) : DownedSince rs (later ++ [r]) y := by
  obtain ⟨pre, post, m', place, went, mem⟩ := h
  refine ⟨pre, post ++ [r], m', ?_, went, mem⟩
  rw [place, List.append_assoc, List.cons_append]

/-- **A list from which the members can be reproduced still is one after a call**, once it is replayed
what is told of the call. -/
theorem Does.reproduced {P Q : Member → Prop} {c : Call} {members ms : List Member}
    {news : Option ClusterEvent} (does : m.Does c members news)
    (distinct : Member.Distinct m.members) (h : List.Forall₂ (Reproduced P) m.members ms)
    (le : ∀ y, P y → Q y) (marked : ∀ y ∈ members, c = .down y.address → Q y) :
    List.Forall₂ (Reproduced Q) members (news.toList.foldl Member.replay ms) := by
  have kept : List.Forall₂ (Reproduced Q) m.members ms := h.imp fun y z same => same.mono le
  cases does with
  | refuses => exact kept
  | @joins a roles =>
      refine List.rel_append (Member.reproduced_without kept a) ?_
      exact .cons (Or.inl rfl) .nil
  | leaves => exact Member.reproduced_replaced kept _
  | @downs x mem reachable =>
      have listed : { x with status := .down } ∈ replaced m.members { x with status := .down } :=
        (Member.mem_replaced mem).mpr (Or.inl rfl)
      have both := (List.forall₂_and_left _ _).mpr ⟨fun y hy => hy, h⟩
      refine List.forall₂_map_left_iff.mpr (both.imp ?_)
      rintro y z ⟨hy, same⟩
      split
      next here =>
        obtain rfl := distinct.eq hy mem here
        refine Or.inr ⟨rfl, marked _ listed rfl, ?_⟩
        -- whoever can be marked down was not down before, so it was reproduced as it was
        rcases same with rfl | ⟨down, -, -⟩
        · rfl
        · rw [down] at reachable
          cases reachable
      next => exact same.mono le
  | removes => exact Member.reproduced_without kept _

theorem published_le (rs later : List Request) :
    (run rs).published.length ≤ (run (rs ++ later)).published.length := by
  induction later using List.reverseRecOn with
  | nil => exact Nat.le_of_eq (by rw [List.append_nil])
  | append_singleton later r ih =>
      obtain ⟨news, published⟩ := after_published (run (rs ++ later)) r
      rw [← List.append_assoc, run_append]
      show _ ≤ ((run (rs ++ later)).after r).published.length
      rw [published, List.length_append]
      exact Nat.le_add_right_of_le ih

/-- A call that goes well leaves the members reproducible from the events since any point. -/
theorem reproduced_attempt {later : List Request} {c : Call} {m' : Roster}
    (ok : (run (rs ++ later)).attempt c = .ok m') (opened : (run (rs ++ later)).closed = false)
    (h : List.Forall₂ (Reproduced (DownedSince rs later)) (run (rs ++ later)).members
      (((run (rs ++ later)).published.drop (run rs).published.length).foldl Member.replay
        (run rs).members)) :
    List.Forall₂ (Reproduced (DownedSince rs (later ++ [.call c]))) m'.members
      ((m'.published.drop (run rs).published.length).foldl Member.replay (run rs).members) := by
  obtain ⟨members, news, does, rfl, published, -, -⟩ := attempt_does ok
  rw [published, opened, if_neg Bool.false_ne_true,
    List.drop_append_of_le_length (published_le rs later), List.foldl_append]
  refine does.reproduced (inOrder_run _).distinct h (fun y marked => marked.snoc _) ?_
  rintro y mem rfl
  exact ⟨later, [], m', rfl, ok, mem⟩

/-- **The events since any point reproduce the members**, as long as the stream is open. -/
theorem reproduced_run {later : List Request} (opened : (run (rs ++ later)).closed = false) :
    List.Forall₂ (Reproduced (DownedSince rs later)) (run (rs ++ later)).members
      (((run (rs ++ later)).published.drop (run rs).published.length).foldl Member.replay
        (run rs).members) := by
  induction later using List.reverseRecOn with
  | nil =>
      rw [List.append_nil, List.drop_length]
      exact List.forall₂_same.mpr fun y hy => Or.inl rfl
  | append_singleton later r ih =>
      rw [← List.append_assoc, run_append] at opened ⊢
      cases r with
      | shutdown => cases opened
      | call c =>
          simp only [List.foldl_cons, List.foldl_nil, after_call] at opened ⊢
          unfold call at opened ⊢
          cases result : (run (rs ++ later)).attempt c with
          | error reason =>
              rw [result] at opened
              exact (ih opened).imp fun y z same => same.mono fun y marked => marked.snoc _
          | ok m' =>
              rw [result] at opened
              obtain ⟨-, -, -, -, -, closed, -⟩ := attempt_does result
              have before : (run (rs ++ later)).closed = false := closed.symm.trans opened
              exact reproduced_attempt result before (ih before)

end Stream

/-- **The roster is what its events say it is.** After any requests each address is listed once, the
numbers rise along the list and stay below the next one, and every member is up, is about to leave, or
is down. The next number counts the members that were admitted, so that it takes 2 ^ 32 - 1 of them to
leave the 32 bits. Whether a call is refused depends on the status of its member alone, and one that
is refused leaves the roster as it was. One that goes well is told once, as long as the stream is open,
except that a member is down, which is not told. Whoever has lost no event and heard all of them, on a
stream that is still open, gets the members from the snapshot by replay, but for the status of those
that were marked down since. -/
theorem roster_faithful (rs : List Request) :
    let m := run rs
    m.InOrder ∧ m.nextUpNumber = joins rs + 1 ∧
      (∀ c, (∃ m', m.attempt c = .ok m') ↔ m.Accepts c) ∧
      (∀ c reason, m.attempt c = .error reason → m.perform c = .error reason m) ∧
      (∀ c m', m.attempt c = .ok m' → m.perform c = .ok () m' ∧
        (m.closed = false → ∃ news, Tells m m' c news ∧ m'.published = m.published ++ news.toList) ∧
        (m.closed = true → m'.published = m.published)) ∧
      ∀ acts, let s := Session.follow m acts
        s.roster.closed = false → (∀ x ∈ s.heard, x.isLagged = false) →
          s.roster.pending s.reader = [] →
            List.Forall₂ (Reproduced (DownedSince rs (Session.requests acts))) s.roster.members
              (s.received.foldl Member.replay m.snapshot.members) := by
  intro m
  refine ⟨inOrder_run rs, nextUpNumber_run rs, (inOrder_run rs).exists_attempt_iff, ?_, ?_, ?_⟩
  · intro c reason refused
    rw [perform_eq, refused]
  · intro c m' ok
    obtain ⟨members, news, does, rfl, published, -, -⟩ := attempt_does ok
    refine ⟨by rw [perform_eq, ok], ?_, ?_⟩
    · intro opened
      rw [opened] at published
      exact ⟨news, does.tells ok, published⟩
    · intro ended
      rw [ended] at published
      exact published.trans (List.append_nil _)
  · intro acts s opened complete heard
    have stream := (Session.receives_follow complete).stream
    have roster : s.roster = run (rs ++ Session.requests acts) := by
      rw [run_append]
      exact Session.roster_follow m acts
    rw [heard, List.append_nil] at stream
    rw [stream]
    rw [roster] at opened ⊢
    exact reproduced_run opened

/-- A member leaves and is removed, another one is marked down, for which a leave is refused, and a
third one joins. The subscriber has heard of all but the second one, which it lists as up. -/
theorem roster_faithful_leftAndDown :
    let a : Address := ⟨"a"⟩
    let b : Address := ⟨"b"⟩
    let c : Address := ⟨"c"⟩
    let rs : List Request := [.call (.join a .empty), .call (.join b .empty)]
    let acts : List Session.Act :=
      [.request (.call (.leave a)), .hear, .request (.call (.down b)), .request (.call (.leave b)),
        .request (.call (.join c .empty)), .request (.call (.remove a)), .hear, .hear]
    let s := Session.follow (run rs) acts
    (s.roster.closed = false ∧ (∀ x ∈ s.heard, x.isLagged = false) ∧
        s.roster.pending s.reader = []) ∧
      List.Forall₂ (Reproduced (DownedSince rs (Session.requests acts))) s.roster.members
        (s.received.foldl Member.replay (run rs).snapshot.members) ∧
      s.roster.members = [⟨b, 2, .down, .empty⟩, ⟨c, 3, .up, .empty⟩] ∧
      s.received.foldl Member.replay (run rs).snapshot.members =
        [⟨b, 2, .up, .empty⟩, ⟨c, 3, .up, .empty⟩] := by
  intro a b c rs acts s
  have opened : s.roster.closed = false := by decide
  have complete : ∀ x ∈ s.heard, x.isLagged = false := by decide
  have heard : s.roster.pending s.reader = [] := by decide
  obtain ⟨-, -, -, -, -, replayed⟩ := roster_faithful rs
  exact ⟨⟨opened, complete, heard⟩, replayed acts opened complete heard, by decide, by decide⟩

end Roster

end ClusterSingleton
