import ClusterSingleton.Proofs.Machine.Ensemble
import ClusterSingleton.Proofs.Machine.Messages

/-!
# A node deals with others only

The addresses that a machine keeps in mind, and those that it writes to, come from the notifier,
from the senders of messages and from one another. `Deals` lists the ways in which a machine comes to
deal with an address; its own is among them only if it gets a message from itself. So a machine that
gets none neither keeps itself in mind nor writes to itself, and where messages come from the
machines alone, no machine ever does: `never_itself`.
-/

namespace ClusterSingleton

/-- The node that a phase keeps in mind: the oldest, the one that is to hand over, or the one that
is to take over. -/
def Phase.counterpart? : Phase → Option Address
  | younger known => known
  | becomingOldest previous => previous
  | wasOldest _ _ newOldest => newOldest
  | handingOver _ target => target
  | _ => none

namespace Machine

/-- The ways in which a machine comes to deal with an address on an event. -/
inductive Deals (m : Machine) (e : Event) (a : Address) : Prop where
  | known (h : m.phase.counterpart? = some a)
  | writes {message : Message} (h : e = .peer a message)
  | other (h : a ≠ m.self)

variable {m m' : Machine} {now : Nat} {fresh : UnitId} {e : Event} {a : Address}

/-- A machine deals with itself only if it did before, or is written to by itself. -/
theorem Deals.ne_self (deals : Deals m e a) (apart : m.phase.counterpart? ≠ some m.self)
    (unwritten : ∀ message, e ≠ .peer m.self message) : a ≠ m.self := by
  rintro rfl
  cases deals with
  | known h => exact apart h
  | writes h => exact unwritten _ h
  | other h => exact h rfl

/-! ## Whom a machine keeps in mind -/

section Moves

variable {target : Option Address} {unit : UnitId} {unitEnded : Bool}

theorem handOverDone_counterpart
    (there : (m.handOverDone now target).machine.phase.counterpart? = some a) :
    target = some a ∨ m.phase.counterpart? = some a := by
  simp only [handOverDone] at there
  split at there
  · exact Or.inr there
  · split at there
    · rw [enter_machine] at there
      cases there
    · rw [enter_machine] at there
      exact Or.inl there

theorem handOver_counterpart
    (there : (m.handOver now unit unitEnded target).machine.phase.counterpart? = some a) :
    target = some a ∨ m.phase.counterpart? = some a := by
  unfold handOver at there
  split at there
  · exact handOverDone_counterpart there
  · rw [enter_machine] at there
    exact Or.inl there

theorem windDown_counterpart
    (there : (m.windDown now unit unitEnded).machine.phase.counterpart? = some a) :
    m.phase.counterpart? = some a := by
  unfold windDown at there
  split at there
  · exact there
  · rw [enter_machine] at there
    cases there

end Moves

theorem Row.deals {t : Turn} (row : Row m now fresh e t)
    (there : t.machine.phase.counterpart? = some a) : Deals m e a := by
  have named {new : Option Address} (other : new ≠ some m.self) (there : new = some a) :
      Deals m e a := by
    refine .other ?_
    rintro rfl
    exact other there
  cases row with
  | hosts | unsafeFromStart =>
      simp only [host, enter_machine] at there
      cases there
  | waitsFromStart h other =>
      rw [enter_machine] at there
      exact named other there
  | asksPrevious h =>
      rw [enter_machine] at there
      exact .known (h ▸ there)
  | follows h other => exact named other there
  | yields h other =>
      rw [yieldTo, enter_machine] at there
      exact named other there
  | adopts =>
      obtain rfl := Option.some.inj there
      exact .writes rfl
  | handsOver reason =>
      rcases handOver_counterpart there with asked | before
      · cases reason with
        | askedAsOldest | askedAsWasOldest =>
            obtain rfl := Option.some.inj asked
            exact .writes rfl
        | claimOfRemoved | newOldestRemoved => cases asked
      · exact .known (reason.phase ▸ before)
  | completes h =>
      rcases handOverDone_counterpart there with asked | before
      · exact .known (h ▸ asked)
      · exact .known before
  | endsQuietly | findsNobody => exact .known (windDown_counterpart there)
  | unitEndsAsWasOldest h => exact .known (h ▸ there)
  | forgets | unitEndsAsOldest => cases there
  | ignores => exact .known (fallback_frame.1 ▸ there)
  | _ => exact .known there

/-! ## Whom a machine writes to -/

theorem Writes.deals {message : Message} (writes : Writes m now e a message) : Deals m e a := by
  cases writes with
  | asksPrevious h | asksAgain h | declaresDone h | announcesAgain h =>
      exact .known (by rw [h]; rfl)
  | answersTakeOver | promises | promisesAgain | declaresAtOnce => exact .writes rfl
  | announces _ other => exact .other other

end Machine

/-- Whoever is written to in a step is somebody that the machine deals with. -/
theorem Entry.deals_of_sends {e : Entry} {a : Address} {message : Message}
    (sends : .send a message ∈ e.effects) : e.before.Deals e.event a := by
  have running : e.before.terminated = false := by
    refine Bool.eq_false_iff.mpr fun done => ?_
    rw [effects, turn_terminated done] at sends
    cases sends
  exact ((e.row running).writes sends).deals

/-! ## A run without messages of its own -/

section Run

variable {p : Profile} {xs : List Input}
  (unwritten : ∀ x ∈ xs, ∀ message, x.event ≠ .peer p.self message)

include unwritten

theorem Profile.apart_run : (p.machine.run xs).phase.counterpart? ≠ some p.self := by
  induction xs using List.reverseRecOn with
  | nil =>
      intro there
      cases there
  | append_singleton xs x ih =>
      have before := ih fun y mem => unwritten y (List.mem_append_left _ mem)
      have own : (p.machine.run xs).self = p.self := Machine.run_self _ _
      rw [Machine.run_snoc]
      intro there
      cases done : (p.machine.run xs).terminated with
      | true =>
          rw [Entry.after, Entry.turn_terminated done] at there
          exact before there
      | false =>
          have row := (Entry.mk x (p.machine.run xs)).row done
          refine (row.deals there).ne_self ?_ ?_ own.symm
          · rwa [own]
          · rw [own]
            exact unwritten x (by simp)

theorem Profile.silent_run {e : Entry} (mem : e ∈ p.machine.history xs) (message : Message) :
    .send p.self message ∉ e.effects := by
  intro sends
  obtain ⟨pre, post, place⟩ := List.append_of_mem mem
  obtain ⟨ys, zs, rfl, -, before⟩ := Machine.history_split place
  have own : e.before.self = p.self := by rw [before, Machine.run_self]; rfl
  refine (Entry.deals_of_sends sends).ne_self ?_ ?_ own.symm
  · rw [own, before]
    exact p.apart_run fun y there => unwritten y (List.mem_append_left _ there)
  · rw [own]
    exact unwritten e.toInput (by simp)

end Run

/-! ## Messages come from the machines -/

/-- The site has sent a message to an address. -/
def Site.Wrote (n : Site) (target : Address) (message : Message) : Prop :=
  ∃ e ∈ n.log, .send target message ∈ e.effects

/-- One of the sites has posted the parcel. -/
def Posted (sites : List Site) (parcel : Parcel) : Prop :=
  ∃ n ∈ sites, n.self = parcel.sender ∧ n.Wrote parcel.target parcel.message

/-- What sites come to that are handed no message but what was posted to them: a message may be
lost, be late, and arrive any number of times. -/
inductive Relayed (ps : List Profile) : List Site → Prop where
  | start : Relayed ps (ps.map fun p => ⟨p, []⟩)
  | step {left right : List Site} {n : Site} {x : Input} (h : Relayed ps (left ++ n :: right))
      (honest : ∀ sender message, x.event = .peer sender message →
        Posted (left ++ n :: right) ⟨sender, n.self, message⟩) :
      Relayed ps (left ++ n.hand x :: right)

/-- **Nobody gets a message from itself.** -/
theorem Relayed.unwritten {ps : List Profile} {sites : List Site} (h : Relayed ps sites) :
    ∀ n ∈ sites, ∀ x ∈ n.inputs, ∀ message, x.event ≠ .peer n.self message := by
  induction h with
  | start =>
      intro n mem x given
      obtain ⟨p, -, rfl⟩ := List.mem_map.mp mem
      cases given
  | @step left right n x _ honest ih =>
      intro s mem y given message event
      rw [List.mem_append, List.mem_cons] at mem
      rcases mem with mem | rfl | mem
      · exact ih s (by simp [mem]) y given message event
      · rcases List.mem_append.mp given with given | given
        · exact ih n (by simp) y given message event
        · -- a site of that address would have sent the message to itself before
          obtain rfl := List.mem_singleton.mp given
          obtain ⟨s, there, own, e, log, sends⟩ := honest _ _ event
          have own : s.self = n.self := own
          rw [← own] at sends
          exact s.profile.silent_run (ih s there) log message sends
      · exact ih s (by simp [mem]) y given message event

section Posted

variable {left right : List Site} {n : Site} {x : Input} {parcel : Parcel}

/-- What was posted stays posted. -/
theorem Posted.hand (h : Posted (left ++ n :: right) parcel) :
    Posted (left ++ n.hand x :: right) parcel := by
  obtain ⟨s, mem, own, e, log, sends⟩ := h
  rw [List.mem_append, List.mem_cons] at mem
  rcases mem with mem | rfl | mem
  · exact ⟨s, by simp [mem], own, e, log, sends⟩
  · refine ⟨s.hand x, by simp, own, e, ?_, sends⟩
    rw [Site.log_hand]
    exact List.mem_append_left _ log
  · exact ⟨s, by simp [mem], own, e, log, sends⟩

theorem posted_of_posts (mem : parcel ∈ n.posts x) : Posted (left ++ n.hand x :: right) parcel := by
  obtain ⟨⟨target, message⟩, sent, rfl⟩ := List.mem_map.mp mem
  obtain ⟨effect, sends, same⟩ := List.mem_filterMap.mp sent
  obtain rfl : effect = .send target message := by
    cases effect with
    | send a other =>
        obtain ⟨rfl, rfl⟩ := Prod.mk.inj (Option.some.inj same)
        rfl
    | _ => cases same
  refine ⟨n.hand x, by simp, rfl, n.entry x, ?_, sends⟩
  rw [Site.log_hand]
  simp

end Posted

/-- An ensemble, whose messages arrive once only, hands on nothing but what was posted. -/
theorem Ensemble.relayed_of_run {ps : List Profile} {steps : List (Nat × Input)} {c : Ensemble}
    (h : (Ensemble.start ps).run? steps = some c) :
    Relayed ps c.sites ∧ ∀ parcel ∈ c.mail, Posted c.sites parcel := by
  induction steps using List.reverseRecOn generalizing c with
  | nil =>
      obtain rfl := Option.some.inj h
      refine ⟨.start, ?_⟩
      intro parcel mem
      cases mem
  | append_singleton steps s ih =>
      obtain ⟨d, hd, hs⟩ := run?_snoc h
      obtain ⟨left, n, right, rest, before, after, mail, taken⟩ := step?_cases hs
      obtain ⟨relayed, posted⟩ := ih hd
      rw [before] at relayed posted
      rw [after, mail]
      have kept : ∀ parcel ∈ rest, parcel ∈ d.mail := by
        rcases taken with ⟨rfl, -⟩ | ⟨sender, message, first, last, -, waiting, rfl⟩
        · exact fun parcel mem => mem
        · intro parcel mem
          rw [waiting]
          rcases List.mem_append.mp mem with mem | mem <;> simp [mem]
      constructor
      · refine .step relayed ?_
        intro sender message event
        rcases taken with ⟨-, silent⟩ | ⟨sender', message', first, last, event', waiting, -⟩
        · exact absurd event (silent sender message)
        · obtain ⟨rfl, rfl⟩ := Event.peer.inj (event.symm.trans event')
          exact posted _ (by simp [waiting])
      · intro parcel mem
        rcases List.mem_append.mp mem with mem | mem
        · exact (posted parcel (kept parcel mem)).hand
        · exact posted_of_posts mem

/-! ## Never itself -/

/-- **A node never deals with itself.** As long as a machine gets no message from itself, it does
not take itself for the oldest, for the node that is to hand over, or for the one that is to take over,
and sends nothing to itself, whatever else happens. And where the messages come from the machines
alone, none ever gets one from itself, not even if two of them share an address. -/
theorem never_itself :
    (∀ (p : Profile) (xs : List Input), (∀ x ∈ xs, ∀ message, x.event ≠ .peer p.self message) →
      (p.machine.run xs).phase.counterpart? ≠ some p.self ∧
        ∀ e ∈ p.machine.history xs, ∀ message, .send p.self message ∉ e.effects) ∧
      ∀ (ps : List Profile) (sites : List Site), Relayed ps sites → ∀ n ∈ sites,
        n.machine.phase.counterpart? ≠ some n.self ∧
          ∀ e ∈ n.log, ∀ message, .send n.self message ∉ e.effects := by
  constructor
  · intro p xs unwritten
    exact ⟨p.apart_run unwritten, fun e mem => p.silent_run unwritten mem⟩
  · intro ps sites relayed n mem
    have unwritten := relayed.unwritten n mem
    exact ⟨n.profile.apart_run unwritten, fun e log => n.profile.silent_run unwritten log⟩

/-- Two nodes hand the unit over, and back when the notifier takes its word back. A third, which does
not know the previous oldest, learns of it by a message. -/
theorem never_itself_handOverAndBack :
    let profile (a : Address) : Profile := ⟨a, ⟨5, 2⟩, 1000, 2000, 900000⟩
    let steps : List (Nat × Input) :=
      [(0, ⟨0, .nth 0, .initialOldest (some ⟨"a"⟩) true⟩),
        (1, ⟨0, .nth 9, .initialOldest (some ⟨"a"⟩) true⟩),
        (1, ⟨10, .nth 9, .oldestChanged (some ⟨"b"⟩)⟩),
        (0, ⟨11, .nth 9, .peer ⟨"b"⟩ .handOverToMe⟩),
        (0, ⟨12, .nth 9, .unitTerminated (.nth 0)⟩),
        (1, ⟨13, .nth 1, .peer ⟨"a"⟩ .handOverDone⟩),
        (0, ⟨20, .nth 9, .oldestChanged (some ⟨"a"⟩)⟩)]
    let third : List Input := [⟨0, .nth 9, .initialOldest (some ⟨"c"⟩) false⟩,
      ⟨1, .nth 9, .peer ⟨"a"⟩ .takeOverFromMe⟩]
    (∃ c, (Ensemble.start [profile ⟨"a"⟩, profile ⟨"b"⟩]).run? steps = some c ∧
      c.sites.map (fun n => n.machine.phase.counterpart?) = [some ⟨"b"⟩, none] ∧
      ∀ n ∈ c.sites, ∀ e ∈ n.log, ∀ message, .send n.self message ∉ e.effects) ∧
    ((profile ⟨"c"⟩).machine.run third).phase.counterpart? = some ⟨"a"⟩ ∧
      ∀ e ∈ (profile ⟨"c"⟩).machine.history third, ∀ message, .send ⟨"c"⟩ message ∉ e.effects := by
  intro profile steps third
  constructor
  · obtain ⟨c, run⟩ : ∃ c, (Ensemble.start [profile ⟨"a"⟩, profile ⟨"b"⟩]).run? steps = some c :=
      Option.isSome_iff_exists.mp (by decide)
    refine ⟨c, run, ?_, ?_⟩
    · have known : ((Ensemble.start [profile ⟨"a"⟩, profile ⟨"b"⟩]).run? steps).map
          (fun c => c.sites.map fun n => n.machine.phase.counterpart?) =
            some [some ⟨"b"⟩, none] := by decide
      rw [run] at known
      exact Option.some.inj known
    · intro n mem
      exact (never_itself.2 _ c.sites (Ensemble.relayed_of_run run).1 n mem).2
  · have unwritten : ∀ x ∈ third, ∀ message, x.event ≠ .peer ⟨"c"⟩ message := by
      simp [third]
    exact ⟨by decide, (never_itself.1 (profile ⟨"c"⟩) third unwritten).2⟩

end ClusterSingleton
