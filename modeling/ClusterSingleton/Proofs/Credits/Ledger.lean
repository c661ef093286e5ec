import ClusterSingleton.Proofs.Machine.History
import ClusterSingleton.Proofs.Credits.Turns

/-!
# Words of the notifier, asked for and delivered

One machine, and a notifier that speaks only when it was asked to. `balance_of_gated` says that the
books balance: one word more is asked for than is delivered, unless the machine remembers the last
one or has dropped one. A dropped word is never made up for.
-/

namespace ClusterSingleton

/-- How many words were asked for. -/
def requested (log : List Entry) : Nat := (log.flatMap Entry.effects).count .requestNextOldest

/-- How many words were delivered. -/
def delivered (log : List Entry) : Nat := log.countP fun e => e.event.isNotice

/-- Every word that came had been asked for, and each request pays for one. -/
def Gated (log : List Entry) : Prop :=
  ∀ pre e post, log = pre ++ e :: post → e.event.isNotice = true → delivered pre < requested pre

namespace Entry

def hears (e : Entry) : Bool := e.before.hears e.event

/-- The step delivers a word that the machine takes no note of. -/
def drops (e : Entry) : Bool := e.event.isNotice && !e.hears

end Entry

/-! ## One more step -/

section Snoc

variable {log : List Entry} {e : Entry}

theorem requested_snoc : requested (log ++ [e]) = requested log + e.turn.requests := by
  unfold requested
  rw [List.flatMap_append, List.count_append, List.flatMap_singleton]
  rfl

theorem delivered_snoc : delivered (log ++ [e]) = delivered log + e.event.isNotice.toNat := by
  unfold delivered
  rw [List.countP_append, List.countP_singleton]
  cases e.event.isNotice <;> rfl

theorem drops_snoc :
    (log ++ [e]).countP Entry.drops = log.countP Entry.drops + e.drops.toNat := by
  rw [List.countP_append, List.countP_singleton]
  cases e.drops <;> rfl

theorem gated_snoc : Gated (log ++ [e]) ↔
    Gated log ∧ (e.event.isNotice = true → delivered log < requested log) := by
  constructor
  · intro h
    refine ⟨?_, h log e [] rfl⟩
    rintro pre s post rfl notice
    exact h pre s (post ++ [e]) (by simp) notice
  · rintro ⟨before, last⟩ pre s post split notice
    rcases split_snoc split with ⟨rfl, rfl, rfl⟩ | ⟨rest, rfl, earlier⟩
    · exact last notice
    · exact before pre s rest earlier notice

end Snoc

theorem Gated.of_append {log rest : List Entry} (h : Gated (log ++ rest)) : Gated log := by
  intro pre e post split notice
  exact h pre e (post ++ rest) (by rw [split]; simp) notice

theorem Gated.delivered_le {log : List Entry} (h : Gated log) : delivered log ≤ requested log := by
  induction log using List.reverseRecOn with
  | nil => exact Nat.le_refl 0
  | append_singleton log e ih =>
      obtain ⟨before, last⟩ := gated_snoc.mp h
      rw [delivered_snoc, requested_snoc]
      cases notice : e.event.isNotice with
      | true =>
          have paid := last notice
          simp only [Bool.toNat_true]
          omega
      | false => exact Nat.le_trans (ih before) (Nat.le_add_right _ _)

instance (log : List Entry) : Decidable (Gated log) := decidable_of_iff _ forall_place_iff.symm

/-! ## The books balance -/

/-- Each word that was asked for was delivered, is remembered, was dropped, or is outstanding. -/
def Balance (log : List Entry) (m : Machine) : Prop :=
  requested log + m.noticeReceived.toNat + log.countP Entry.drops = delivered log + 1

theorem Entry.notice_of_hears {e : Entry} (h : e.hears = true) : e.event.isNotice = true := by
  rcases Machine.hears_cases h with ⟨-, oldest, safe, he⟩ | ⟨oldest, new, -, he⟩ |
    ⟨unit, unitEnded, new, -, he⟩
  · rw [he]
    rfl
  · rw [he]
    rfl
  · rw [he]
    rfl

/-- A word is heard or dropped. -/
theorem Entry.notice_eq (e : Entry) :
    e.event.isNotice.toNat = e.hears.toNat + e.drops.toNat := by
  unfold drops
  cases hears : e.hears with
  | true => simp [notice_of_hears hears]
  | false => simp

/-- What a step asks for and remembers is what it heard, or remembered before. -/
theorem Entry.credit_eq (e : Entry) :
    e.turn.requests + e.after.noticeReceived.toNat =
      (e.before.noticeReceived || e.hears).toNat := Machine.handle_credit

theorem balance_snoc {log : List Entry} {e : Entry} (h : Balance log e.before)
    (paid : e.event.isNotice = true → delivered log < requested log) :
    Balance (log ++ [e]) e.after := by
  have credit := e.credit_eq
  have notice := e.notice_eq
  unfold Balance at h ⊢
  rw [requested_snoc, delivered_snoc, drops_snoc]
  -- nothing is outstanding while a word is remembered, so the notifier is silent then
  have silent : e.before.noticeReceived = true → e.hears = false := by
    intro memory
    refine Bool.eq_false_iff.mpr fun hears => ?_
    have outstanding := paid (Entry.notice_of_hears hears)
    rw [memory, Bool.toNat_true] at h
    omega
  cases memory : e.before.noticeReceived with
  | true =>
      rw [memory, silent memory] at credit
      rw [silent memory] at notice
      rw [memory] at h
      simp only [Bool.or_false, Bool.toNat_true, Bool.toNat_false] at credit notice h
      omega
  | false =>
      rw [memory, Bool.false_or] at credit
      rw [memory, Bool.toNat_false] at h
      omega

/-- **The books balance** as long as the notifier speaks only when it was asked to. -/
theorem balance_of_gated {p : Profile} {xs : List Input} (h : Gated (p.machine.history xs)) :
    Balance (p.machine.history xs) (p.machine.run xs) := by
  induction xs using List.reverseRecOn with
  | nil => rfl
  | append_singleton xs x ih =>
      rw [Machine.history_snoc] at h ⊢
      rw [Machine.run_snoc]
      obtain ⟨before, last⟩ := gated_snoc.mp h
      exact balance_snoc (ih before) last

namespace Balance

variable {log : List Entry} {m : Machine}

/-- While a word is remembered, none is outstanding. -/
theorem none_of_memory (h : Balance log m) (gated : Gated log) (memory : m.noticeReceived = true) :
    requested log = delivered log := by
  have low := gated.delivered_le
  unfold Balance at h
  rw [memory, Bool.toNat_true] at h
  omega

/-- Once a word was dropped, none is outstanding for good. -/
theorem none_of_drop (h : Balance log m) (gated : Gated log) {e : Entry} (mem : e ∈ log)
    (drop : e.drops = true) : requested log = delivered log := by
  have low := gated.delivered_le
  have lost : 0 < log.countP Entry.drops := List.countP_pos_iff.mpr ⟨e, mem, drop⟩
  unfold Balance at h
  omega

end Balance

end ClusterSingleton
