import ClusterSingleton.OldestTracker
import ClusterSingleton.Proofs.Credits.Turns
import ClusterSingleton.Proofs.Machine.History

/-!
# The words of a tracker, in order

A tracker that has seen its snapshot names the oldest member of it, and from then on every other
member that becomes the oldest. `Announced` says that a list of words is of that shape and tells who
is the oldest after it; two words in a row never name the same member.
-/

namespace ClusterSingleton

/-- The words tell of the oldest members, one after another, and last of this one. -/
inductive Announced : List Event → Option Address → Prop where
  | first (oldest : Option Address) (safe : Bool) : Announced [.initialOldest oldest safe] oldest
  | next {words : List Event} {old new : Option Address} (h : Announced words old)
      (other : new ≠ old) : Announced (words ++ [.oldestChanged new]) new

namespace Announced

variable {words : List Event} {last : Option Address}

/-- The last word names the last of the oldest members. -/
theorem last_named (h : Announced words last) :
    words.getLast?.bind Event.named? = some last := by
  cases h with
  | first oldest safe => rfl
  | next h other =>
      rw [List.getLast?_concat]
      rfl

/-- **Two words in a row name different members.** -/
theorem apart (h : Announced words last) {pre post : List Event} {a b : Event}
    (place : words = pre ++ a :: b :: post) : a.named? ≠ b.named? := by
  induction h generalizing post with
  | first oldest safe =>
      have short := congrArg List.length place
      simp only [List.length_cons, List.length_nil, List.length_append] at short
      omega
  | @next words old new h other ih =>
      rcases split_snoc place with ⟨-, -, none⟩ | ⟨rest, tail, earlier⟩
      · cases none
      · cases rest with
        | nil =>
            -- the second word is the new one, and the first named the oldest until then
            obtain ⟨rfl, -⟩ := List.cons.inj tail
            have until_ := h.last_named
            rw [earlier, List.getLast?_concat] at until_
            intro same
            exact other (Option.some.inj (same.symm.trans until_))
        | cons c rest =>
            obtain ⟨rfl, -⟩ := List.cons.inj tail
            exact ih earlier

/-- Nobody is named twice in a row. -/
theorem not_repeated (h : Announced words last) {pre post : List Event} {a b : Event}
    (place : words = pre ++ a :: b :: post) {named : Option Address}
    (before : a.named? = some named) : b ≠ .oldestChanged named := by
  rintro rfl
  exact h.apart place before

end Announced

namespace OldestTracker

variable {t : OldestTracker}

/-- A list of members is taken over silently, or with a word that names the new oldest. -/
theorem track_cases (members : List Member) :
    (t.track members).credits = t.credits ∧ (t.track members).initialized = t.initialized ∧
      ((t.track members).pending = t.pending ∧ (t.track members).oldest = t.oldest ∨
        (t.track members).pending = t.pending ++ [.oldestChanged (t.track members).oldest] ∧
          (t.track members).oldest ≠ t.oldest) := by
  simp only [track]
  split
  next same => exact ⟨rfl, rfl, Or.inl ⟨rfl, same⟩⟩
  next other => exact ⟨rfl, rfl, Or.inr ⟨rfl, other⟩⟩

/-- After its snapshot a tracker takes over a list of members for a membership event, or stays. -/
theorem observe_seeded (seeded : t.initialized = true) (e : ClusterEvent) :
    t.observe e = t ∨ ∃ members, t.observe e = t.track members := by
  unfold observe
  rw [seeded]
  cases e with
  | memberUp m =>
      simp only [insert]
      split
      · exact Or.inr ⟨_, rfl⟩
      · exact Or.inl rfl
  | memberExited m =>
      simp only [remove]
      split
      · exact Or.inl rfl
      · split
        · exact Or.inr ⟨_, rfl⟩
        · exact Or.inl rfl
  | memberRemoved m =>
      simp only [remove]
      split
      · exact Or.inr ⟨_, rfl⟩
      · exact Or.inl rfl
  | currentState c => exact Or.inl rfl

/-- A poll hands out the first word for a credit, or does nothing. -/
theorem poll_cases (t : OldestTracker) :
    t.poll = (none, t) ∨
      ∃ credits e rest, t.credits = credits + 1 ∧ t.pending = e :: rest ∧
        t.poll = (some e, { t with pending := rest, credits := credits }) := by
  unfold poll
  split
  next credits e rest hc hp => exact Or.inr ⟨credits, e, rest, hc, hp, rfl⟩
  next => exact Or.inl rfl

end OldestTracker

end ClusterSingleton
