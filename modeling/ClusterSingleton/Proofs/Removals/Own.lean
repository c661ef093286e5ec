import ClusterSingleton.Proofs.Machine.Graph
import ClusterSingleton.Proofs.Removals.Memory
import ClusterSingleton.Proofs.Units.Account

/-!
# The removal of the node itself

A node that hears of its own removal stops, unless it has left before: then it remembers the removal
for a while and goes on until its unit is handed over. `own_removal_final` says what is left open to
such a node. It never starts a unit again, unless it was removed before it heard who is the oldest,
and it can wait for others again only when the removal is forgotten; `own_removal_not_final` shows
that none of this can be left out.
-/

namespace ClusterSingleton

namespace RemovedMembers

variable {r : RemovedMembers} {a b : Address} {now first due : Nat}

/-- The member counts as removed from one point in time until another. -/
def Counts (r : RemovedMembers) (a : Address) (first due : Nat) : Prop :=
  ∀ t, first ≤ t → t < due → r.contains a t = true

theorem Counts.mono {later : Nat} (h : r.Counts a first due) (le : first ≤ later) :
    r.Counts a later due :=
  fun t after before => h t (Nat.le_trans le after) before

theorem counts_add : (r.add a now).Counts a now (now + r.ttl) := by
  intro t _ before
  exact contains_iff.mpr ⟨.after now r.ttl, mem_add.mpr (Or.inl rfl), before⟩

/-- A removal recorded later is remembered longer. -/
theorem Counts.add (h : r.Counts a first due) (le : first ≤ now) (within : due ≤ now + r.ttl) :
    (r.add b now).Counts a now due := by
  intro t after before
  by_cases same : a = b
  · subst same
    exact counts_add t after (Nat.lt_of_lt_of_le before within)
  · obtain ⟨d, mem, valid⟩ := contains_iff.mp (h t (Nat.le_trans le after) before)
    exact contains_iff.mpr ⟨d, mem_add.mpr (Or.inr ⟨mem, same⟩), valid⟩

/-- A cleanup drops only what counts no longer. -/
theorem Counts.cleanup (h : r.Counts a first due) (le : first ≤ now) :
    (r.cleanup now).Counts a now due := by
  intro t after before
  obtain ⟨d, mem, valid⟩ := contains_iff.mp (h t (Nat.le_trans le after) before)
  exact contains_iff.mpr ⟨d, mem_cleanup.mpr ⟨mem, Nat.lt_of_le_of_lt after valid⟩, valid⟩

end RemovedMembers

namespace State

/-- A node in such a state is responsible for its unit, or for nothing. -/
def IsAway (s : State) : Prop := s.hostsUnit = true ∨ s = .ended

instance (s : State) : Decidable s.IsAway := inferInstanceAs (Decidable (_ ∨ _))

variable {s next : State}

theorem IsAway.ne_start (h : s.IsAway) : s ≠ .start := by
  rintro rfl
  rcases h with h | h <;> cases h

theorem IsAway.ne_younger (h : s.IsAway) : s ≠ .younger := by
  rintro rfl
  rcases h with h | h <;> cases h

/-- What follows such a state is such a state again, or the node waits for others. -/
theorem IsAway.successor (h : s.IsAway) (edge : next ∈ s.successors) :
    next = .younger ∨ next.IsAway := by
  cases next with
  | younger => exact Or.inl rfl
  | start | becomingOldest =>
      -- no edge leads from such a state to one of these two
      cases s <;> revert edge h <;> decide
  | ended => exact Or.inr (Or.inr rfl)
  | _ => exact Or.inr (Or.inl rfl)

end State

namespace Machine

variable {m : Machine} {now : Nat} {fresh : UnitId} {e : Event}

/-! ## One turn -/

theorem RemovalTurn.counts {r : RemovedMembers} {a : Address} {first due : Nat}
    (turn : RemovalTurn m now e r) (h : m.removed.Counts a first due) (le : first ≤ now)
    (within : due ≤ now + m.removed.ttl) : r.Counts a now due := by
  cases turn with
  | keeps same => exact same ▸ h.mono le
  | records _ added => exact added ▸ h.add le within
  | sweeps swept => exact swept ▸ h.cleanup le

/-- A node that has left does not come back. -/
theorem Row.selfExited {t : Turn} (row : Row m now fresh e t) (exited : m.selfExited = true) :
    t.machine.selfExited = true := by
  rw [row.recalls.left, exited, Bool.true_or]

/-- A node that has left does not stand back behind the node that took its unit over. -/
theorem handOverDone_younger {target : Option Address} (exited : m.selfExited = true)
    (lands : (m.handOverDone now target).machine.state = .younger) : m.state = .younger := by
  simp only [handOverDone, exited, if_true] at lands
  split at lands
  · exact lands
  · rw [enter_machine] at lands
    cases lands

theorem handOver_younger {unit : UnitId} {unitEnded : Bool} {target : Option Address}
    (exited : m.selfExited = true)
    (lands : (m.handOver now unit unitEnded target).machine.state = .younger) :
    m.state = .younger := by
  unfold handOver at lands
  split at lands
  · exact handOverDone_younger exited lands
  · rw [enter_machine] at lands
    cases lands

theorem windDown_younger {unit : UnitId} {unitEnded : Bool}
    (lands : (m.windDown now unit unitEnded).machine.state = .younger) : m.state = .younger := by
  unfold windDown at lands
  split at lands
  · exact lands
  · rw [enter_machine] at lands
    cases lands

/-- A node that has left waits for others only at its start, or where it waited before. -/
theorem Row.younger {t : Turn} (row : Row m now fresh e t) (exited : m.selfExited = true)
    (lands : t.machine.state = .younger) : m.state = .start ∨ m.state = .younger := by
  cases row with
  | hosts =>
      rw [host, enter_machine] at lands
      cases lands
  | unsafeFromStart | asksPrevious =>
      rw [enter_machine] at lands
      cases lands
  | waitsFromStart h => exact Or.inl (congrArg Phase.state h)
  | follows h | forgets h => exact Or.inr (congrArg Phase.state h)
  | @handsOver _ _ _ m' _ reason =>
      have same : m'.state = m.state := congrArg Phase.state reason.phase
      have left : m'.selfExited = true := by cases reason <;> exact exited
      exact Or.inr (same ▸ handOver_younger left lands)
  | completes => exact Or.inr (handOverDone_younger exited lands)
  | yields =>
      rw [yieldTo, enter_machine] at lands
      cases lands
  | endsQuietly | findsNobody => exact Or.inr (windDown_younger lands)
  | adopts | unitEndsAsOldest | unitEndsAsWasOldest => cases lands
  | ignores => exact Or.inr ((congrArg Phase.state fallback_frame.1).symm.trans lands)
  | _ => exact Or.inr lands

/-- A node that has left and hosts the unit, or is done, never waits to host it again. -/
theorem Row.away {t : Turn} (row : Row m now fresh e t) (exited : m.selfExited = true)
    (away : m.state.IsAway) : t.machine.state.IsAway := by
  rcases row.leads with same | next
  · rwa [same]
  · refine (away.successor next).resolve_left ?_
    intro lands
    rcases row.younger exited lands with start | younger
    · exact away.ne_start start
    · exact away.ne_younger younger

/-! ## Where a node that was removed can stay -/

/-- Whoever remembers its own removal stops on the way into a state in which it would wait. -/
theorem enter_admits {p : Phase} {effects : List Effect}
    (running : (m.enter now p effects).machine.terminated = false)
    (lands : p.state = .younger ∨ p.state = .ended) : m.isRemoved m.self now = false := by
  have stops : endsRemoved p = true := by cases p <;> simp_all [endsRemoved, Phase.state]
  rw [enter_machine] at running
  simpa [stops] using (Bool.or_eq_false_iff.mp running).2

theorem Departure.admits {t : Turn} (h : Departure m now t) (running : t.machine.terminated = false)
    (lands : t.machine.state = .younger ∨ t.machine.state = .ended) :
    t.machine.isRemoved t.machine.self now = false := by
  have own : t.machine.self = m.self := congrArg Profile.self h.profile
  rw [isRemoved, h.removed, own]
  cases h with
  | stops => cases running
  | moves =>
      refine enter_admits running ?_
      rwa [enter_machine] at lands

/-- A node that goes on in such a state was there before, or remembers no removal of itself. -/
theorem Row.admits {t : Turn} (row : Row m now fresh e t) (running : t.machine.terminated = false)
    (lands : t.machine.state = .younger ∨ t.machine.state = .ended) :
    m.state = t.machine.state ∨ t.machine.isRemoved t.machine.self now = false := by
  cases row with
  | hosts | unsafeFromStart | asksPrevious =>
      simp only [host, enter_machine, state] at lands
      rcases lands with h | h <;> cases h
  | yields =>
      simp only [yieldTo, enter_machine, state] at lands
      rcases lands with h | h <;> cases h
  | waitsFromStart =>
      refine Or.inr ?_
      have known := enter_admits running (Or.inl rfl)
      rwa [enter_machine]
  | handsOver => exact Or.inr ((handOver_departs ..).admits running lands)
  | completes => exact Or.inr ((handOverDone_departs _).admits running lands)
  | endsQuietly | findsNobody => exact Or.inr ((windDown_departs ..).admits running lands)
  | follows h | forgets h | adopts h | unitEndsAsOldest h | unitEndsAsWasOldest h =>
      left
      rw [state, state, h]
      rfl
  | ignores => exact Or.inl (congrArg Phase.state fallback_frame.1).symm
  | _ => exact Or.inl rfl

/-- A node that hears of its own removal stops, unless it has left and is still at its start or
responsible for its unit: then it remembers. -/
theorem Row.ownRemoval {t : Turn} (row : Row m now fresh (.memberRemoved m.self) t) :
    t.machine.terminated = true ∨
      (m.selfExited = true ∧ (m.state = .start ∨ m.state.hostsUnit = true) ∧
        t.machine = { m with removed := m.removed.add m.self now }) := by
  cases row with
  | hosts grounds => cases grounds
  | handsOver reason =>
      cases reason with
      | newOldestRemoved h other => exact absurd rfl other
  | awaitsMargin h other => exact absurd rfl other
  | selfRemovedWaiting | selfRemovedAsWasOldest | selfRemovedAtEnd => exact Or.inl rfl
  | ignores unheard =>
      cases exited : m.selfExited with
      | false => exact Or.inl (by simp [fallback, exited])
      | true =>
          refine Or.inr ⟨rfl, ?_, by simp [fallback, exited]⟩
          cases h : m.phase with
          | younger | becomingOldest =>
              rw [inPhase_removal (by rw [h]; rfl)] at unheard
              cases unheard
          | ended => simp [inPhase, h, inEnded] at unheard
          | start => exact Or.inl (congrArg Phase.state h)
          | _ => exact Or.inr (congrArg (State.hostsUnit ∘ Phase.state) h)

/-- Whoever handles the end of the unit that it told to end, or lets go of an ended unit, is rid of
it or has stopped. -/
theorem UnitTurn.rid {t : Turn} {u : UnitId} (turn : UnitTurn m fresh e t)
    (leaves : m.phase.hold = .told u ∧ e = .unitTerminated u ∨
      m.phase.hold = .hosted u true ∧ t.machine.phase.hold ≠ .hosted u true) :
    t.machine.phase.hold = .nothing ∨ t.machine.terminated = true := by
  cases turn with
  | releases _ _ rid => exact rid
  | keeps _ same silent =>
      rcases leaves with ⟨told, ends⟩ | ⟨hosted, other⟩
      · exact absurd ends (silent u false (Or.inr told))
      · exact absurd (same.trans hosted) other
  | starts free => rcases leaves with ⟨held, -⟩ | ⟨held, -⟩ <;> simp [free] at held
  | reports held event work hosts =>
      rcases leaves with ⟨told, -⟩ | ⟨hosted, other⟩
      · simp [told] at held
      · rw [hosted] at held
        cases held
        exact absurd hosts other
  | tells held => rcases leaves with ⟨other, -⟩ | ⟨other, -⟩ <;> simp [other] at held
  | promises held event =>
      rcases leaves with ⟨told, ends⟩ | ⟨hosted, -⟩
      · rw [told] at held
        cases held
        exact absurd ends event
      · simp [hosted] at held

theorem hostsUnit_of_hold (h : m.phase.hold = .nothing) : m.state.hostsUnit = false := by
  rw [state]
  cases p : m.phase <;> simp_all [Phase.hold, Phase.state, State.hostsUnit]

end Machine

/-- Only a machine that goes on starts a unit. -/
theorem Entry.running_of_starts {e : Entry} {u : UnitId} (start : e.starts u) :
    e.before.terminated = false := by
  refine Bool.eq_false_iff.mpr ?_
  intro done
  rw [Entry.starts, Entry.effects, Entry.turn_terminated done] at start
  cases start

/-! ## The run after the removal -/

/-- What holds of a machine that goes on after it heard of its own removal, up to some later time;
`settled` says that it was not at its start when it heard. -/
structure Outcast (heard last : Nat) (settled : Prop) (m : Machine) : Prop where
  exited : m.selfExited = true
  remembers : m.removed.Counts m.self last (heard + m.removed.ttl)
  waitedOut : m.state = .younger ∨ m.state = .ended → heard + m.removed.ttl ≤ last
  away : settled → m.state.IsAway

namespace Outcast

variable {heard last now : Nat} {settled : Prop} {e : Entry}

theorem of_removal (removal : e.event = .memberRemoved e.before.self)
    (running : e.after.terminated = false) :
    Outcast e.now e.now (e.before.state = .start → e.before.selfExited = false) e.after := by
  have row := e.row (e.running_before running)
  rw [removal] at row
  rcases row.ownRemoval with stops | ⟨exited, place, recorded⟩
  · exact absurd (running.symm.trans stops) Bool.false_ne_true
  · have after : e.after = { e.before with removed := e.before.removed.add e.before.self e.now } :=
      recorded
    rw [after]
    refine ⟨exited, RemovedMembers.counts_add, ?_, ?_⟩
    · -- nobody that waits or is done only takes note of its own removal
      intro lands
      exfalso
      rcases place with place | place <;>
      · rw [Machine.state] at place
        rcases lands with lands | lands <;> simp_all [Machine.state, State.hostsUnit]
    · intro settled
      refine Or.inl (place.resolve_left ?_)
      intro start
      rw [settled start] at exited
      cases exited

/-- **A step does not bring a removed node back.** -/
theorem step (h : Outcast heard last settled e.before) (heard_le : heard ≤ last)
    (later : last ≤ e.now) (running : e.after.terminated = false) :
    Outcast heard e.now settled e.after := by
  have row := e.row (e.running_before running)
  have same : e.after.profile = e.before.profile := Machine.handle_profile e.event
  have own : e.after.self = e.before.self := congrArg Profile.self same
  have ttl : e.after.removed.ttl = e.before.removed.ttl := congrArg Profile.removedTtl same
  have remembers : e.after.removed.Counts e.before.self e.now (heard + e.before.removed.ttl) :=
    row.removalTurn.counts h.remembers later (by omega)
  refine ⟨row.selfExited h.exited, ?_, ?_, ?_⟩
  · rw [own, ttl]
    exact remembers
  · intro lands
    rw [ttl]
    rcases row.admits running lands with stays | forgotten
    · have old : heard + e.before.removed.ttl ≤ last := by
        refine h.waitedOut ?_
        rw [stays]
        exact lands
      exact Nat.le_trans old later
    · -- a removal that counts still would have stopped the node
      refine Nat.le_of_not_lt ?_
      intro early
      have known : e.after.isRemoved e.before.self e.now = true :=
        remembers e.now (Nat.le_refl _) early
      have unknown : e.after.isRemoved e.before.self e.now = false := own ▸ forgotten
      exact Bool.false_ne_true (unknown.symm.trans known)
  · intro settled
    exact row.away h.exited (h.away settled)

end Outcast

section History

variable {p : Profile} {xs : List Input} {pre mid post : List Entry} {r e : Entry}

/-- **What the run after a removal preserves**, up to any later step. -/
theorem outcast_before (ordered : Chronological (p.machine.history xs))
    (place : p.machine.history xs = pre ++ r :: (mid ++ e :: post))
    (removal : r.event = .memberRemoved p.self) (running : e.before.terminated = false) :
    ∃ last, r.now ≤ last ∧ last ≤ e.now ∧
      Outcast r.now last (r.before.state = .start → r.before.selfExited = false) e.before := by
  have own : r.before.self = p.self := congrArg Profile.self (Machine.history_profile place)
  induction mid using List.reverseRecOn generalizing e post with
  | nil =>
      have next : e.before = r.after := Machine.history_adjacent place
      rw [next] at running ⊢
      exact ⟨r.now, Nat.le_refl _, (place ▸ ordered).ge (by simp),
        .of_removal (own ▸ removal) running⟩
  | append_singleton mid d ih =>
      have earlier : p.machine.history xs = pre ++ r :: (mid ++ d :: e :: post) := by simpa using place
      have adjacent : p.machine.history xs = (pre ++ r :: mid) ++ d :: e :: post := by
        simpa using place
      have next : e.before = d.after := Machine.history_adjacent adjacent
      rw [next] at running ⊢
      obtain ⟨last, heard, past, known⟩ := ih earlier (d.running_before running)
      exact ⟨d.now, Nat.le_trans heard past, (adjacent ▸ ordered).ge (by simp),
        known.step heard past running⟩

theorem outcast_after (ordered : Chronological (p.machine.history xs))
    (place : p.machine.history xs = pre ++ r :: (mid ++ e :: post))
    (removal : r.event = .memberRemoved p.self) (running : e.after.terminated = false) :
    Outcast r.now e.now (r.before.state = .start → r.before.selfExited = false) e.after := by
  obtain ⟨last, heard, past, known⟩ :=
    outcast_before ordered place removal (e.running_before running)
  exact known.step heard past running

/-- A removed node waits again only when its removal is forgotten. -/
theorem waitedOut_after (ordered : Chronological (p.machine.history xs))
    (place : p.machine.history xs = pre ++ r :: (mid ++ e :: post))
    (removal : r.event = .memberRemoved p.self) (running : e.after.terminated = false)
    (lands : e.after.state = .younger ∨ e.after.state = .ended) :
    r.now + p.removedTtl ≤ e.now := by
  have profile : e.after.profile = p := by
    have split : p.machine.history xs = (pre ++ r :: mid) ++ e :: post := by simpa using place
    exact (Machine.handle_profile e.event).trans (Machine.history_profile split)
  have ttl : e.after.removed.ttl = p.removedTtl := congrArg Profile.removedTtl profile
  exact ttl ▸ (outcast_after ordered place removal running).waitedOut lands

/-- **The removal of the node itself is final.** As long as the removal is remembered, the node
neither waits for others nor rests at its end. Unless it had left and was still at its start when it
heard of the removal, it starts no unit any more, and goes on only where it is responsible for its
unit, or at its end; and it stops when the end of its unit is handled, or rests if the removal is
forgotten by then. -/
theorem own_removal_final (ordered : Chronological (p.machine.history xs))
    (place : p.machine.history xs = pre ++ r :: (mid ++ e :: post))
    (removal : r.event = .memberRemoved p.self) :
    (e.after.terminated = false → e.after.state = .younger ∨ e.after.state = .ended →
        r.now + p.removedTtl ≤ e.now) ∧
      ((r.before.state = .start → r.before.selfExited = false) →
        (∀ u, ¬ e.starts u) ∧
        (e.after.terminated = false →
          e.after.state.hostsUnit = true ∨ e.after.state = .ended) ∧
        ∀ u, e.before.phase.hold = .told u ∧ e.reports u ∨
            e.before.phase.hold = .hosted u true ∧ e.after.phase.hold ≠ .hosted u true →
          e.after.terminated = true ∨
            e.after.state = .ended ∧ r.now + p.removedTtl ≤ e.now) := by
  refine ⟨waitedOut_after ordered place removal, ?_⟩
  intro settled
  have goesOn : e.after.terminated = false → e.after.state.IsAway :=
    fun running => (outcast_after ordered place removal running).away settled
  refine ⟨?_, goesOn, ?_⟩
  · intro u start
    obtain ⟨m, grounds⟩ := Entry.grounds_of_starts start
    obtain ⟨last, -, -, known⟩ := outcast_before ordered place removal (Entry.running_of_starts start)
    -- only a machine at its start or one that waits has grounds to start a unit
    have away : e.before.state.IsAway := known.away settled
    rcases grounds.source with source | source | source <;> rw [source] at away <;>
      revert away <;> decide
  · intro u leaves
    cases done : e.after.terminated with
    | true => exact Or.inl rfl
    | false =>
        have turn := e.unitTurn (e.running_before done)
        have free : e.after.phase.hold = .nothing :=
          (turn.rid leaves).resolve_right (Bool.eq_false_iff.mp done)
        have atEnd : e.after.state = .ended :=
          (goesOn done).resolve_left
            (Bool.eq_false_iff.mp (Machine.hostsUnit_of_hold free))
        exact Or.inr ⟨atEnd, waitedOut_after ordered place removal done (Or.inr atEnd)⟩

end History

/-! ## Runs of a node that leaves -/

/-- A node whose removal is remembered for fifteen minutes. -/
def leaver : Profile := ⟨⟨"a"⟩, ⟨5, 2⟩, 1000, 2000, 900000⟩

/-- The node leaves and hears of its removal before it hears who is the oldest. -/
def removedAtStart : List Input :=
  [⟨0, .nth 0, .startNotifier⟩, ⟨10, .nth 0, .memberExited ⟨"a"⟩⟩,
    ⟨20, .nth 0, .memberRemoved ⟨"a"⟩⟩]

/-- The node hosts its unit and leaves. -/
def leavesAsOldest : List Input :=
  [⟨0, .nth 0, .startNotifier⟩, ⟨1, .nth 0, .initialOldest (some ⟨"a"⟩) true⟩,
    ⟨10, .nth 1, .memberExited ⟨"a"⟩⟩]

/-- Asked for its unit, the node hears of its removal while the unit ends. -/
def removedInHandOver : List Input :=
  leavesAsOldest ++ [⟨11, .nth 1, .peer ⟨"b"⟩ .handOverToMe⟩, ⟨20, .nth 1, .memberRemoved ⟨"a"⟩⟩]

/-- When the unit has ended in time, the node has stopped. -/
theorem own_removal_final_removedInHandOver :
    let last : Input := ⟨900019, .nth 1, .unitTerminated (.nth 0)⟩
    let log := leaver.machine.history (removedInHandOver ++ [last])
    ∃ pre r e, Chronological log ∧ log = pre ++ r :: ([] ++ e :: []) ∧
      r.event = .memberRemoved leaver.self ∧ e.reports (.nth 0) ∧ (∀ u, ¬ e.starts u) ∧
      e.after.terminated = true := by
  intro last log
  have ordered : Chronological log := by decide
  have place : log = log.take 4 ++ log[4] :: ([] ++ log[5] :: []) := by decide
  have removal : log[4].event = .memberRemoved leaver.self := by decide
  have final := (own_removal_final ordered place removal).2 (by decide)
  refine ⟨_, _, _, ordered, place, removal, by decide, final.1, ?_⟩
  refine (final.2.2 (.nth 0) (Or.inl (by decide))).resolve_right ?_
  intro forgotten
  exact absurd forgotten.2 (by decide)

/-- **What is left open.** At its start a node that has left goes on as if it had not been removed; a
unit that ends a moment after the retention leaves its node waiting at the end; and as long as
nobody asks for the unit, its end does not stop the node. -/
theorem own_removal_not_final :
    let safe : Entry :=
      ⟨⟨30, .nth 0, .initialOldest (some ⟨"a"⟩) true⟩, leaver.machine.run removedAtStart⟩
    let risky : Entry :=
      ⟨⟨30, .nth 0, .initialOldest (some ⟨"a"⟩) false⟩, leaver.machine.run removedAtStart⟩
    let late : Entry :=
      ⟨⟨900020, .nth 1, .unitTerminated (.nth 0)⟩, leaver.machine.run removedInHandOver⟩
    let unasked : Entry :=
      ⟨⟨30, .nth 1, .unitTerminated (.nth 0)⟩,
        leaver.machine.run (leavesAsOldest ++ [⟨20, .nth 1, .memberRemoved ⟨"a"⟩⟩])⟩
    safe.starts (.nth 0) ∧
      risky.after.state = .becomingOldest ∧ risky.after.terminated = false ∧
      late.after.state = .ended ∧ late.after.terminated = false ∧
      unasked.after.state = .oldest ∧ unasked.after.terminated = false := by
  decide

end ClusterSingleton
