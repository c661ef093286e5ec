import ClusterSingleton.Proofs.Credits.Outstanding

/-!
# What the oldest was told last

A machine takes over because the notifier named it, and until it answers it hears no more. So the
last word that came names the machine itself in `becomingOldest`, and in `oldest` too as long as a
word is outstanding.
-/

namespace ClusterSingleton

/-- The words of the notifier that were delivered, in order. -/
def heardWords (log : List Entry) : List Event :=
  (log.map fun e => e.event).filter Event.isNotice

/-- Whom the last word named. -/
def namedLast (log : List Entry) : Option (Option Address) :=
  (heardWords log).getLast?.bind Event.named?

section Snoc

variable {log : List Entry} {e : Entry}

theorem heardWords_append (log rest : List Entry) :
    heardWords (log ++ rest) = heardWords log ++ heardWords rest := by
  unfold heardWords
  rw [List.map_append, List.filter_append]

theorem heardWords_notice (notice : e.event.isNotice = true) : heardWords [e] = [e.event] := by
  unfold heardWords
  exact List.filter_cons_of_pos notice

theorem heardWords_silent (silent : e.event.isNotice = false) : heardWords [e] = [] := by
  unfold heardWords
  exact List.filter_cons_of_neg (by simp [silent])

theorem namedLast_silent (silent : e.event.isNotice = false) :
    namedLast (log ++ [e]) = namedLast log := by
  unfold namedLast
  rw [heardWords_append, heardWords_silent silent, List.append_nil]

theorem namedLast_named {named : Option Address} (word : e.event.named? = some named) :
    namedLast (log ++ [e]) = some named := by
  have notice : e.event.isNotice = true := by
    unfold Event.isNotice
    rw [word]
    rfl
  unfold namedLast
  rw [heardWords_append, heardWords_notice notice, List.getLast?_concat]
  exact word

end Snoc

/-- The last word, and the words before it. -/
theorem namedLast_eq {log : List Entry} {named : Option Address} (h : namedLast log = some named) :
    ∃ words w, heardWords log = words ++ [w] ∧ w.named? = some named := by
  unfold namedLast at h
  obtain ⟨w, last, name⟩ := Option.bind_eq_some_iff.mp h
  obtain ⟨words, split⟩ := List.getLast?_eq_some_iff.mp last
  exact ⟨words, w, split, name⟩

theorem Event.silent_of_unnamed {e : Event} (h : e.named? = none) : e.isNotice = false := by
  unfold isNotice
  rw [h]
  rfl

/-- Whom the last word named, in the states that a machine enters at the word of the notifier. -/
structure Appointed (log : List Entry) (m : Machine) : Prop where
  becoming : m.state = .becomingOldest → namedLast log = some (some m.self)
  /-- As long as a word is outstanding. -/
  oldest : m.state = .oldest →
    namedLast log = some (some m.self) ∨ requested log = delivered log

theorem Entry.after_self (e : Entry) : e.after.self = e.before.self :=
  congrArg Profile.self (Machine.handle_profile e.event)

section Step

variable {log : List Entry} {e : Entry}

/-- A machine that does not hear the notifier was named before, or drops the word that is
outstanding. -/
theorem appointed_keeps (h : Appointed log e.before)
    (silent : e.before.state = .becomingOldest → e.event.isNotice = false)
    (gated : Gated (log ++ [e])) (balance : Balance (log ++ [e]) e.after)
    (unheard : e.before.hears e.event = false) (same : e.after.state = e.before.state)
    (memory : e.after.noticeReceived = e.before.noticeReceived) :
    Appointed (log ++ [e]) e.after := by
  constructor
  · intro place
    rw [same] at place
    rw [namedLast_silent (silent place), e.after_self]
    exact h.becoming place
  · intro place
    rw [same] at place
    by_cases notice : e.event.isNotice = true
    · have drop : e.drops = true := by
        unfold Entry.drops Entry.hears
        rw [notice, unheard]
        rfl
      exact Or.inr (balance.none_of_drop gated (by simp) drop)
    · have notice : e.event.isNotice = false := Bool.eq_false_iff.mpr notice
      rw [namedLast_silent notice, e.after_self]
      rcases h.oldest place with named | none
      · exact Or.inl named
      · -- the step asks for nothing either
        have credit := e.credit_eq
        unfold Entry.hears at credit
        rw [memory, unheard, Bool.or_false] at credit
        have asks : e.turn.requests = 0 := by omega
        refine Or.inr ?_
        rw [requested_snoc, delivered_snoc, notice, asks]
        exact none

/-- Whoever takes over was named by the last word, and an outstanding word is not lost silently. -/
theorem appointed_snoc (h : Appointed log e.before)
    (silent : e.before.state = .becomingOldest → e.event.isNotice = false)
    (gated : Gated (log ++ [e])) (balance : Balance (log ++ [e]) e.after) :
    Appointed (log ++ [e]) e.after := by
  have turn : Machine.NoticeTurn e.before e.event e.after := Machine.handle_noticeTurn
  have elsewhere : e.after.state ≠ .becomingOldest → e.after.state ≠ .oldest →
      Appointed (log ++ [e]) e.after := by
    intro becoming oldest
    exact ⟨fun place => absurd place becoming, fun place => absurd place oldest⟩
  cases turn with
  | keeps unheard same memory =>
      exact appointed_keeps h silent gated balance unheard same memory
  | asks place =>
      refine elsewhere ?_ ?_
      · rcases place with place | place <;> rw [place] <;> nofun
      · rcases place with place | place <;> rw [place] <;> nofun
  | hosts place memory ground =>
      refine ⟨fun becoming => ?_, fun _ => Or.inl ?_⟩
      · rw [place] at becoming
        cases becoming
      · rw [e.after_self]
        rcases ground with ⟨before, unnamed⟩ | ⟨-, named⟩
        · rw [namedLast_silent (Event.silent_of_unnamed unnamed)]
          exact h.becoming before
        · exact namedLast_named named
  | prepares place memory named =>
      refine ⟨fun _ => ?_, fun oldest => ?_⟩
      · rw [e.after_self]
        exact namedLast_named named
      · rw [place] at oldest
        cases oldest
  | hearsItself before event noted =>
      refine ⟨fun becoming => ?_, fun _ => Or.inl ?_⟩
      · rw [noted] at becoming
        exact absurd (becoming.symm.trans before) nofun
      · rw [e.after_self]
        exact namedLast_named (by rw [event]; rfl)
  | yields place => exact elsewhere (by rw [place]; nofun) (by rw [place]; nofun)
  | leaves place =>
      refine elsewhere ?_ ?_
      · rcases place with place | place | place <;> rw [place] <;> nofun
      · rcases place with place | place | place <;> rw [place] <;> nofun
  | stops place memory =>
      refine ⟨fun becoming => ?_, fun _ => Or.inr (balance.none_of_memory gated memory)⟩
      rw [place] at becoming
      cases becoming

end Step

/-- **Who hosts the unit was named last**, as long as a word is outstanding; who is about to host it
was named last in any case. -/
theorem appointed_of_gated {p : Profile} {xs : List Input} (gated : Gated (p.machine.history xs)) :
    Appointed (p.machine.history xs) (p.machine.run xs) := by
  induction xs using List.reverseRecOn with
  | nil => exact ⟨nofun, nofun⟩
  | append_singleton xs x ih =>
      have balance := balance_of_gated gated
      rw [Machine.history_snoc, Machine.run_snoc] at balance
      rw [Machine.history_snoc] at gated
      obtain ⟨before, paid⟩ := gated_snoc.mp gated
      rw [Machine.history_snoc, Machine.run_snoc]
      refine appointed_snoc (ih before) ?_ gated balance
      intro place
      -- nothing is outstanding there, so no word can come
      refine Bool.eq_false_iff.mpr fun notice => ?_
      have outstanding := paid notice
      rw [none_outstanding before (Or.inl place)] at outstanding
      exact Nat.lt_irrefl _ outstanding

end ClusterSingleton
