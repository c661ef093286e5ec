import ClusterSingleton.Proofs.Removals.Memory
import ClusterSingleton.Proofs.Units.Account

/-!
# Waiting out the removal margin

A node that takes over from a member that was removed, and not handed the unit by it, must not do so
before the removal margin is over. The news of a removal goes through an announcement, a timer and
the memory of removed members before it counts; `removal_waited_out` follows it back from each of the
steps that rely on it.
-/

namespace ClusterSingleton

/-- Each announcement that arrives was made by the machine itself, and its delay has elapsed. -/
def OwnDelays (log : List Entry) : Prop :=
  ∀ pre e post, log = pre ++ e :: post →
    ∀ a ∈ e.event.announced?, ∃ s ∈ pre, ∃ x ∈ s.scheduled, x.2 = a ∧ x.1 ≤ e.now

instance (log : List Entry) : Decidable (OwnDelays log) := decidable_of_iff _ forall_place_iff.symm

/-- What a machine has to know of a member that was removed before it may write it off: it heard of
the removal a margin ago, while it waited, or recorded it in another state and remembers it still. -/
def Trusted (p : Profile) (log : List Entry) (a : Address) (now : Nat) : Prop :=
  (∃ s ∈ log, s.event = .memberRemoved a ∧ s.before.terminated = false ∧
    (s.before.state = .younger ∨ s.before.state = .becomingOldest) ∧
      s.now + p.removalMargin ≤ now) ∨
  ∃ s ∈ log, s.records a ∧ s.before.state ≠ .younger ∧ s.before.state ≠ .becomingOldest ∧
    s.now ≤ now ∧ now < s.now + p.removedTtl

/-- The step writes off the oldest that the machine knew. -/
inductive Entry.WritesOff (e : Entry) (a : Address) : Prop where
  /-- It starts a unit, and nobody has handed the unit over. -/
  | replaces {u : UnitId}
      (tracked : e.before.phase = .younger (some a) ∨ e.before.phase = .becomingOldest (some a))
      (start : e.starts u) (alone : ∀ b, e.event ≠ .peer b .handOverDone)
  /-- It goes on without an oldest, and the notifier has not said so. -/
  | forgets (before : e.before.phase = .younger (some a)) (after : e.after.phase = .younger none)
      (unnamed : ∀ new, e.event ≠ .oldestChanged new)

namespace Machine

variable {m : Machine} {now : Nat} {fresh : UnitId} {e : Event}

/-- A machine forgets the oldest because the notifier says so, or because its removal is certain. -/
theorem Row.forgets_cases {t : Turn} {a : Address} (row : Row m now fresh e t)
    (before : m.phase = .younger (some a)) (after : t.machine.phase = .younger none) :
    (∃ new, e = .oldestChanged new) ∨ e = .delayedMemberRemoved a := by
  cases row with
  | follows | asksPrevious | yields | hearsItself => exact Or.inl ⟨_, rfl⟩
  | forgets h =>
      rw [before] at h
      cases h
      exact Or.inr rfl
  | hosts =>
      rw [host, enter_machine] at after
      cases after
  | handsOver reason => cases reason <;> simp_all
  | completes h | endsQuietly h | findsNobody h | unsafeFromStart h | waitsFromStart h
  | unitEndsAsOldest h | unitEndsAsWasOldest h | adopts h =>
      rw [before] at h
      cases h
  | ignores =>
      rw [fallback_frame.1, before] at after
      cases after
  | _ =>
      -- the phase stays as it was
      have same : m.phase = .younger none := after
      rw [before] at same
      cases same

/-- Without a word of the previous oldest a machine takes over from it only once it is removed. -/
theorem Grounds.removed {m' : Machine} {a : Address} (grounds : Grounds m now e m')
    (tracked : m.phase = .younger (some a) ∨ m.phase = .becomingOldest (some a))
    (alone : ∀ b, e ≠ .peer b .handOverDone) :
    m.isRemoved a now = true ∨ e = .delayedMemberRemoved a := by
  cases grounds with
  | safeFromStart h =>
      rw [h] at tracked
      rcases tracked with tracked | tracked <;> cases tracked
  | nobodyBefore h gone =>
      rw [h] at tracked
      rcases tracked with tracked | tracked
      · exact Or.inl (gone a (Phase.younger.inj tracked))
      · cases tracked
  | handedOver => exact absurd rfl (alone _)
  | marginPassed h =>
      rw [h] at tracked
      rcases tracked with tracked | tracked
      · cases tracked
      · obtain rfl := Option.some.inj (Phase.becomingOldest.inj tracked)
        exact Or.inr rfl
  | retriesOver h exhausted gone =>
      rw [h] at tracked
      rcases tracked with tracked | tracked
      · cases tracked
      · obtain rfl := Option.some.inj (Phase.becomingOldest.inj tracked)
        exact Or.inl gone

end Machine

/-- A step relies on what is remembered, or on an announcement. -/
theorem Entry.WritesOff.removed {e : Entry} {a : Address} (h : e.WritesOff a) :
    e.before.isRemoved a e.now = true ∨ e.event = .delayedMemberRemoved a := by
  cases h with
  | replaces tracked start alone =>
      obtain ⟨m, grounds⟩ := Entry.grounds_of_starts start
      exact grounds.removed tracked alone
  | forgets before after unnamed =>
      cases running : e.before.terminated with
      | true =>
          rw [Entry.after, Entry.turn_terminated running, before] at after
          cases after
      | false =>
          rcases (e.row running).forgets_cases before after with
            ⟨new, named⟩ | announced
          · exact absurd named (unnamed new)
          · exact Or.inr announced

section History

variable {p : Profile} {xs : List Input} {pre post : List Entry} {e : Entry} {a : Address}

/-- An announcement arrives a margin after the removal was heard of. -/
theorem trusted_of_announced (delays : OwnDelays (p.machine.history xs))
    (place : p.machine.history xs = pre ++ e :: post) (event : e.event = .delayedMemberRemoved a)
    {now : Nat} (late : e.now ≤ now) : Trusted p pre a now := by
  obtain ⟨s, mem, ⟨due, b⟩, scheduled, rfl, elapsed⟩ :=
    delays pre e post place a (by rw [event]; rfl)
  obtain ⟨running, waiting, heard, -, rfl⟩ := mem_scheduled.mp scheduled
  obtain ⟨before, after, rfl⟩ := List.append_of_mem mem
  rw [List.append_assoc, List.cons_append] at place
  have margin : s.before.removalMargin = p.removalMargin :=
    congrArg Profile.removalMargin (Machine.history_profile place)
  rw [margin] at elapsed
  exact Or.inl ⟨s, mem, heard, running, Machine.waits_iff.mp waiting, Nat.le_trans elapsed late⟩

/-- What is remembered was recorded by an announcement, or in a state that does not wait. -/
theorem trusted_of_removed (ordered : Chronological (p.machine.history xs))
    (delays : OwnDelays (p.machine.history xs))
    (place : p.machine.history xs = pre ++ e :: post) (gone : e.before.isRemoved a e.now = true) :
    Trusted p pre a e.now := by
  obtain ⟨ys, zs, -, rfl, machine⟩ := Machine.history_split place
  rw [machine] at gone
  obtain ⟨d, entry, remembered⟩ := RemovedMembers.contains_iff.mp gone
  obtain ⟨s, mem, expiry, recorded, announced⟩ := removal_origin entry
  have past : s.now ≤ e.now := (place ▸ ordered).le mem
  by_cases waiting : Machine.waits s.before.phase = true
  · obtain ⟨before, after, split⟩ := List.append_of_mem mem
    have earlier : p.machine.history xs = before ++ s :: (after ++ e :: post) := by
      rw [place, split]
      simp
    rcases trusted_of_announced delays earlier (announced waiting) past with
      ⟨r, hr, heard⟩ | ⟨r, hr, heard⟩
    · exact Or.inl ⟨r, by rw [split]; exact List.mem_append_left _ hr, heard⟩
    · exact Or.inr ⟨r, by rw [split]; exact List.mem_append_left _ hr, heard⟩
  · rw [Machine.waits_iff, not_or] at waiting
    simp only at expiry
    exact Or.inr ⟨s, mem, recorded, waiting.1, waiting.2, past, by omega⟩

/-- **A crash is waited out.** Whoever takes over from a member that did not hand the unit over, or
forgets it while waiting, heard of its removal a margin ago while it waited; or it recorded the
removal in another state and remembers it still. -/
theorem removal_waited_out (ordered : Chronological (p.machine.history xs))
    (delays : OwnDelays (p.machine.history xs))
    (place : p.machine.history xs = pre ++ e :: post) (gone : e.WritesOff a) :
    Trusted p pre a e.now := by
  rcases gone.removed with remembered | announced
  · exact trusted_of_removed ordered delays place remembered
  · exact trusted_of_announced delays place announced (Nat.le_refl _)

end History

/-- A node that has just asked `a` for the unit when `a` crashes. -/
def crashWhileAsked : List Input :=
  [⟨0, .nth 0, .startNotifier⟩, ⟨0, .nth 0, .initialOldest (some ⟨"a"⟩) true⟩,
    ⟨10, .nth 0, .oldestChanged (some ⟨"b"⟩)⟩, ⟨20, .nth 0, .memberRemoved ⟨"a"⟩⟩,
    ⟨1010, .nth 0, .handOverRetry 1⟩]

/-- Such a node takes over when the margin is over. -/
theorem removal_waited_out_crashWhileAsked :
    let m := (Profile.mk ⟨"b"⟩ ⟨5, 2⟩ 1000 2000 900000).machine
    let last : Input := ⟨2020, .nth 1, .delayedMemberRemoved ⟨"a"⟩⟩
    let log := m.history (crashWhileAsked ++ [last])
    Chronological log ∧ OwnDelays log ∧ (Entry.mk last (m.run crashWhileAsked)).WritesOff ⟨"a"⟩ ∧
      Trusted (Profile.mk ⟨"b"⟩ ⟨5, 2⟩ 1000 2000 900000) (m.history crashWhileAsked) ⟨"a"⟩ 2020 := by
  intro m last log
  have ordered : Chronological log := by decide
  have delays : OwnDelays log := by decide
  have gone : (Entry.mk last (m.run crashWhileAsked)).WritesOff ⟨"a"⟩ :=
    .replaces (u := .nth 1) (Or.inr (by decide)) (by decide) nofun
  exact ⟨ordered, delays, gone,
    removal_waited_out ordered delays (Machine.history_snoc m _ last) gone⟩

end ClusterSingleton
