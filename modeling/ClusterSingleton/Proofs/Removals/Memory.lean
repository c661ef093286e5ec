import ClusterSingleton.Proofs.Machine.History

/-!
# What a machine knows of removals

A removal is remembered at once, unless the machine waits to take over: then it is announced again
after the removal margin, and remembered when that announcement arrives. `removal_origin` traces what
a machine remembers back to the step that recorded it, `mem_scheduled` an announcement to the removal
that it waits out.
-/

namespace ClusterSingleton

namespace RemovedMembers

variable {r : RemovedMembers} {a : Address} {now : Nat} {x : Address × Deadline}

theorem mem_add :
    x ∈ (r.add a now).entries ↔ x = (a, .after now r.ttl) ∨ x ∈ r.entries ∧ x.1 ≠ a := by
  simp [add]

theorem mem_cleanup : x ∈ (r.cleanup now).entries ↔ x ∈ r.entries ∧ now < x.2.expiry := by
  simp [cleanup, Deadline.isOverdue_eq_false_iff]

theorem contains_iff : r.contains a now = true ↔ ∃ d, (a, d) ∈ r.entries ∧ now < d.expiry := by
  simp [contains, Deadline.isOverdue_eq_false_iff]

end RemovedMembers

namespace Machine

variable {m : Machine} {now : Nat} {fresh : UnitId} {e : Event}

/-! ## One turn -/

/-- What a turn does with the memory of removed members. -/
inductive RemovalTurn (m : Machine) (now : Nat) (e : Event) (r : RemovedMembers) : Prop where
  | keeps (same : r = m.removed)
  | records {a : Address}
      (news : e = .delayedMemberRemoved a ∨ e = .memberRemoved a ∧ waits m.phase = false)
      (added : r = m.removed.add a now)
  | sweeps (swept : r = m.removed.cleanup now)

theorem Departure.removed {t : Turn} (h : Departure m now t) : t.machine.removed = m.removed := by
  cases h with
  | stops => rfl
  | moves => rw [enter_machine]

theorem waits_iff : waits m.phase = true ↔ m.state = .younger ∨ m.state = .becomingOldest := by
  cases h : m.phase <;> simp [waits, state, Phase.state, h]

/-- A machine that waits takes note of every removal, and does not leave it to the fallback. -/
theorem inPhase_removal {a : Address} (h : waits m.phase = true) :
    m.inPhase now fresh (.memberRemoved a) = some (m.awaitMargin a) := by
  unfold inPhase
  cases hp : m.phase with
  | younger oldest => rfl
  | becomingOldest previous => rfl
  | _ => simp [hp, waits] at h

theorem fallback_removalTurn (unheard : m.inPhase now fresh e = none) :
    RemovalTurn m now e (m.fallback now e).machine.removed := by
  cases e with
  | memberExited a =>
      simp only [fallback]
      split <;> exact .keeps rfl
  | memberRemoved a =>
      have active : waits m.phase = false := by
        refine Bool.eq_false_iff.mpr fun waiting => ?_
        rw [inPhase_removal waiting] at unheard
        cases unheard
      simp only [fallback]
      split
      · exact .keeps rfl
      · exact .records (Or.inr ⟨rfl, active⟩) rfl
  | delayedMemberRemoved a => exact .records (Or.inl rfl) rfl
  | cleanup => exact .sweeps rfl
  | _ => exact .keeps rfl

theorem Row.removalTurn {t : Turn} (row : Row m now fresh e t) :
    RemovalTurn m now e t.machine.removed := by
  cases row with
  | hosts grounds =>
      rw [host, enter_machine]
      cases grounds with
      | marginPassed => exact .records (Or.inl rfl) rfl
      | _ => exact .keeps rfl
  | handsOver reason =>
      rw [(handOver_departs ..).removed]
      cases reason with
      | newOldestRemoved h => exact .records (Or.inr ⟨rfl, by rw [h]; rfl⟩) rfl
      | _ => exact .keeps rfl
  | forgets => exact .records (Or.inl rfl) rfl
  | unsafeFromStart | waitsFromStart | asksPrevious =>
      rw [enter_machine]
      exact .keeps rfl
  | yields =>
      rw [yieldTo, enter_machine]
      exact .keeps rfl
  | completes =>
      rw [(handOverDone_departs _).removed]
      exact .keeps rfl
  | endsQuietly | findsNobody =>
      rw [(windDown_departs ..).removed]
      exact .keeps rfl
  | ignores unheard => exact fallback_removalTurn unheard
  | _ => exact .keeps rfl

theorem handle_removalTurn : RemovalTurn m now e (m.handle now fresh e).machine.removed := by
  cases done : m.terminated with
  | true =>
      rw [handle_terminated done]
      exact .keeps rfl
  | false => exact (handle_row done e).removalTurn

end Machine

/-! ## Where a memory comes from -/

/-- The step hears of the removal of a member, at once or after the margin, and remembers it from now
on. -/
def Entry.records (e : Entry) (a : Address) : Prop :=
  (e.event = .memberRemoved a ∨ e.event = .delayedMemberRemoved a) ∧
    (a, Deadline.after e.now e.before.removed.ttl) ∈ e.after.removed.entries

/-- What a machine remembers after a step it remembered before, or the step records it. -/
theorem Entry.removed_after {e : Entry} {x : Address × Deadline}
    (h : x ∈ e.after.removed.entries) :
    x ∈ e.before.removed.entries ∨
      x.2.expiry = e.now + e.before.removed.ttl ∧ e.records x.1 ∧
        (Machine.waits e.before.phase = true → e.event = .delayedMemberRemoved x.1) := by
  have turn : Machine.RemovalTurn e.before e.now e.event e.after.removed :=
    Machine.handle_removalTurn
  cases turn with
  | keeps same =>
      rw [same] at h
      exact Or.inl h
  | sweeps swept =>
      rw [swept] at h
      exact Or.inl (RemovedMembers.mem_cleanup.mp h).1
  | @records a news added =>
      rw [added, RemovedMembers.mem_add] at h
      rcases h with rfl | ⟨old, -⟩
      · have recorded : (a, Deadline.after e.now e.before.removed.ttl) ∈ e.after.removed.entries := by
          rw [added]
          exact RemovedMembers.mem_add.mpr (Or.inl rfl)
        refine Or.inr ⟨rfl, ⟨?_, recorded⟩, ?_⟩
        · rcases news with news | ⟨news, -⟩
          · exact Or.inr news
          · exact Or.inl news
        · intro waiting
          rcases news with news | ⟨-, active⟩
          · exact news
          · rw [waiting] at active
            cases active
      · exact Or.inl old

/-- **Whatever a machine remembers was recorded**, for the whole retention from that step on; in a
state that waits, only by an announcement after the margin. -/
theorem removal_origin {p : Profile} {xs : List Input} {x : Address × Deadline}
    (h : x ∈ (p.machine.run xs).removed.entries) :
    ∃ s ∈ p.machine.history xs, x.2.expiry = s.now + p.removedTtl ∧ s.records x.1 ∧
      (Machine.waits s.before.phase = true → s.event = .delayedMemberRemoved x.1) := by
  induction xs using List.reverseRecOn with
  | nil => cases h
  | append_singleton xs y ih =>
      rw [Machine.run_snoc] at h
      rw [Machine.history_snoc]
      rcases Entry.removed_after h with old | ⟨expiry, recorded⟩
      · obtain ⟨s, mem, rest⟩ := ih old
        exact ⟨s, List.mem_append_left _ mem, rest⟩
      · have ttl : (p.machine.run xs).removed.ttl = p.removedTtl :=
          congrArg Profile.removedTtl (Machine.run_profile _ _)
        rw [ttl] at expiry
        exact ⟨_, List.mem_append_right _ (List.mem_singleton_self _), expiry, recorded⟩

/-! ## Announcements -/

/-- Whose removal the event announces. -/
def Event.announced? : Event → Option Address
  | delayedMemberRemoved a => some a
  | _ => none

/-- The removals that the step has announced to itself again, each with the time at which that is
due. -/
def Entry.scheduled (e : Entry) : List (Nat × Address) :=
  e.effects.filterMap fun
    | .scheduleOnce (.delayedMemberRemoved a) after => some (e.now + after, a)
    | _ => none

/-- **A removal is announced again when the margin is over**: that of another member, heard of by a
machine that waits to take over, and no other. -/
theorem mem_scheduled {e : Entry} {due : Nat} {a : Address} :
    (due, a) ∈ e.scheduled ↔
      e.before.terminated = false ∧ Machine.waits e.before.phase = true ∧
        e.event = .memberRemoved a ∧ a ≠ e.before.self ∧
        due = e.now + e.before.removalMargin := by
  unfold Entry.scheduled
  rw [List.mem_filterMap]
  constructor
  · rintro ⟨x, mem, announces⟩
    have running : e.before.terminated = false := by
      refine Bool.eq_false_iff.mpr fun done => ?_
      rw [Entry.effects, Entry.turn_terminated done] at mem
      cases mem
    split at announces
    next later after =>
      obtain ⟨rfl, rfl⟩ := Prod.mk.inj (Option.some.inj announces)
      cases (e.row running).emits _ mem with
      | atOnce immediate => cases immediate
      | announcement event other waiting => exact ⟨running, waiting, event, other, rfl⟩
    next => cases announces
  · rintro ⟨running, waiting, event, other, rfl⟩
    refine ⟨.scheduleOnce (.delayedMemberRemoved a) e.before.removalMargin, ?_, rfl⟩
    rw [Entry.effects, Entry.turn, event, Machine.handle, running, Machine.inPhase_removal waiting]
    simp [Machine.awaitMargin, other]

end ClusterSingleton
