import ClusterSingleton.Proofs.Membership.Age
import ClusterSingleton.Proofs.Tracker.Stream

/-!
# The list of a tracker

What a membership event makes of the members that a tracker follows, apart from what the tracker has
to tell of it. The list is sorted by age and names each address once, whatever the events are.
-/

namespace ClusterSingleton.OldestTracker

open Member (Ranked)

/-- What becomes of the list, kept for a node and a role, at a membership event. -/
def heed (self : Option Address) (role : Option String) (ms : List Member) :
    ClusterEvent → List Member
  | .memberUp m =>
      if m.hasRole role then Member.sortByAge (Member.without ms m.address ++ [m]) else ms
  | .memberExited m =>
      if self = some m.address then ms
      else if m.hasRole role then Member.without ms m.address else ms
  | .memberRemoved m => if m.hasRole role then Member.without ms m.address else ms
  | .currentState _ => ms

variable {t : OldestTracker} {self : Option Address} {role : Option String} {ms : List Member}

theorem track_members (members : List Member) : (t.track members).members = members := by
  simp only [track]
  split <;> rfl

theorem track_frame (members : List Member) :
    (t.track members).self = t.self ∧ (t.track members).role = t.role := by
  simp only [track]
  split <;> exact ⟨rfl, rfl⟩

/-- After its snapshot a tracker does to its list what the event says. -/
theorem observe_members (seeded : t.initialized = true) (e : ClusterEvent) :
    (t.observe e).members = heed t.self t.role t.members e := by
  unfold observe
  rw [seeded]
  cases e with
  | memberUp m =>
      simp only [insert, heed]
      split
      · exact track_members _
      · rfl
  | memberExited m =>
      simp only [remove, heed]
      split
      · rfl
      · split
        · exact track_members _
        · rfl
  | memberRemoved m =>
      simp only [remove, heed]
      split
      · exact track_members _
      · rfl
  | currentState c => rfl

theorem observe_frame (seeded : t.initialized = true) (e : ClusterEvent) :
    (t.observe e).initialized = true ∧ (t.observe e).self = t.self ∧
      (t.observe e).role = t.role := by
  rcases observe_seeded seeded e with same | ⟨members, taken⟩
  · rw [same]
    exact ⟨seeded, rfl, rfl⟩
  · rw [taken]
    exact ⟨(track_cases members).2.1.trans seeded, track_frame members⟩

theorem ranked_heed (h : Ranked ms) (e : ClusterEvent) : Ranked (heed self role ms e) := by
  cases e with
  | memberUp m =>
      simp only [heed]
      split
      · exact Member.ranked_sortByAge (h.distinct.replace m)
      · exact h
  | memberExited m =>
      simp only [heed]
      split
      · exact h
      · split
        · exact h.filter _
        · exact h
  | memberRemoved m =>
      simp only [heed]
      split
      · exact h.filter _
      · exact h
  | currentState c => exact h

end ClusterSingleton.OldestTracker
