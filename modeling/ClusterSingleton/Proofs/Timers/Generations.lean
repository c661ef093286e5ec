import ClusterSingleton.Proofs.Timers.Turns
import ClusterSingleton.Timers

/-!
# Keys and generations

What each operation leaves of the pending timers, and of the items that they have delivered or will
deliver. An effect that is no timer work leaves the pending timers alone, so that those after a turn
follow from its `timerWork`.
-/

namespace ClusterSingleton

theorem Alarm.mem_insert {a b : Alarm} {l : List Alarm} : b ∈ a.insert l ↔ b = a ∨ b ∈ l := by
  induction l with
  | nil => simp [insert]
  | cons c cs ih =>
      rw [insert]
      split
      · rw [List.mem_cons, ih, List.mem_cons, or_left_comm]
      · exact List.mem_cons

namespace Timers

variable {t : Timers} {now after : Nat} {key other : TimerKey} {g : Nat} {e : Event}

/-! ## Pending timers -/

theorem isActive_iff : t.isActive key = true ↔ ∃ g, t.current? key = some g :=
  Option.isSome_iff_exists

theorem accepts_iff : t.accepts key g = true ↔ t.current? key = some g := beq_iff_eq

theorem current?_cancel (t : Timers) (key other : TimerKey) :
    (t.cancel key).current? other = if other = key then none else t.current? other := by
  simp only [current?, cancel, retire, List.find?_filter]
  split
  next same =>
    subst same
    simp
  next apart =>
    congr 2
    funext a
    by_cases h : a.1 = other
    · simp [h, apart]
    · simp [h]

theorem current?_start :
    (t.start now key e after).current? other =
      if other = key then some (t.generation + 1) else t.current? other := by
  have cancelled := current?_cancel t key other
  by_cases same : other = key
  · simp [current?, start, same, cancel]
  · rw [if_neg same] at cancelled ⊢
    rw [← cancelled]
    simp [current?, start, Ne.symm same]

theorem current?_accept :
    (t.accept key g).current? other =
      if other = key ∧ t.current? key = some g then none else t.current? other := by
  unfold accept
  by_cases counts : t.current? key = some g
  · rw [if_pos (accepts_iff.mpr counts)]
    have cancelled := current?_cancel t key other
    simp only [counts, and_true]
    exact cancelled
  · rw [if_neg (fun h => counts (accepts_iff.mp h)), if_neg (fun h => counts h.2)]

/-! ## Time goes on

`Later` is what a pending timer tells of the past: it was pending before, or was started since.
-/

structure Later (t t' : Timers) : Prop where
  generation : t.generation ≤ t'.generation
  pending : ∀ key g, t'.current? key = some g →
    t.current? key = some g ∨ t.generation < g ∧ g ≤ t'.generation

theorem Later.refl (t : Timers) : Later t t := ⟨Nat.le_refl _, fun _ _ h => Or.inl h⟩

theorem Later.trans {t t' t'' : Timers} (h : Later t t') (h' : Later t' t'') : Later t t'' := by
  refine ⟨Nat.le_trans h.generation h'.generation, fun key g now => ?_⟩
  rcases h'.pending key g now with before | ⟨more, most⟩
  · rcases h.pending key g before with long | ⟨more, most⟩
    · exact Or.inl long
    · exact Or.inr ⟨more, Nat.le_trans most h'.generation⟩
  · exact Or.inr ⟨Nat.lt_of_le_of_lt h.generation more, most⟩

theorem later_start : Later t (t.start now key e after) := by
  refine ⟨Nat.le_succ _, fun other g pending => ?_⟩
  rw [current?_start] at pending
  split at pending
  · obtain rfl := Option.some.inj pending
    exact Or.inr ⟨Nat.lt_succ_self _, Nat.le_refl _⟩
  · exact Or.inl pending

/-- Nothing is pending that was not, and no generation was given out. -/
theorem later_of_fewer {t t' : Timers} (same : t'.generation = t.generation)
    (fewer : ∀ key g, t'.current? key = some g → t.current? key = some g) : Later t t' :=
  ⟨Nat.le_of_eq same.symm, fun key g h => Or.inl (fewer key g h)⟩

theorem later_cancel : Later t (t.cancel key) := by
  refine later_of_fewer rfl fun other g pending => ?_
  rw [current?_cancel] at pending
  split at pending
  · cases pending
  · exact pending

theorem later_accept : Later t (t.accept key g) := by
  refine later_of_fewer ?_ fun other g' pending => ?_
  · unfold accept
    split <;> rfl
  · rw [current?_accept] at pending
    split at pending
    · cases pending
    · exact pending

theorem later_cancelAll : Later t t.cancelAll := later_of_fewer rfl nofun

/-- No pending timer has a generation that was not given out yet. -/
def Numbered (t : Timers) : Prop := ∀ key g, t.current? key = some g → g ≤ t.generation

theorem Numbered.later {t t' : Timers} (h : t.Numbered) (later : Later t t') : t'.Numbered := by
  intro key g pending
  rcases later.pending key g pending with before | ⟨-, most⟩
  · exact Nat.le_trans (h key g before) later.generation
  · exact most

/-! ## Effects -/

/-- The timers after an effect. -/
def heed (t : Timers) (now : Nat) : Effect → Timers
  | .startTimer key event after => t.start now key event after
  | .cancelTimer key => t.cancel key
  | .scheduleOnce event after => t.scheduleOnce now event after
  | _ => t

def heedAll (t : Timers) (now : Nat) (es : List Effect) : Timers :=
  es.foldl (fun t e => t.heed now e) t

theorem later_heed (t : Timers) (now : Nat) (x : Effect) : Later t (t.heed now x) := by
  cases x with
  | startTimer key e after => exact later_start
  | cancelTimer key => exact later_cancel
  | _ => exact later_of_fewer rfl fun _ _ h => h

theorem later_heedAll (t : Timers) (now : Nat) (es : List Effect) : Later t (t.heedAll now es) := by
  induction es generalizing t with
  | nil => exact .refl t
  | cons x xs ih => exact (later_heed t now x).trans (ih (t.heed now x))

/-- The timers without what runs in the background: the pending ones and their generations. -/
def bare (t : Timers) : Timers := { t with alarms := [] }

theorem bare_heed {t t' : Timers} {x : Effect} (h : t.bare = t'.bare) :
    (t.heed now x).bare = (t'.heed now x).bare := by
  obtain ⟨generation, active, alarms⟩ := t
  obtain ⟨generation', active', alarms'⟩ := t'
  obtain ⟨rfl, rfl, -⟩ := Timers.mk.inj h
  cases x <;> rfl

theorem bare_heed_idle {x : Effect} (idle : x.isTimerWork = false) :
    (t.heed now x).bare = t.bare := by
  cases x <;> first | rfl | cases idle

/-- Only timer work changes the pending timers. -/
theorem bare_heedAll (t : Timers) (es : List Effect) :
    (t.heedAll now es).bare = (t.heedAll now (es.filter Effect.isTimerWork)).bare := by
  have congruent (es : List Effect) :
      ∀ {t t' : Timers}, t.bare = t'.bare → (t.heedAll now es).bare = (t'.heedAll now es).bare := by
    induction es with
    | nil => exact id
    | cons x xs ih => exact fun same => ih (bare_heed same)
  induction es generalizing t with
  | nil => rfl
  | cons x xs ih =>
      cases work : x.isTimerWork with
      | true =>
          rw [List.filter_cons_of_pos work]
          exact ih (t.heed now x)
      | false =>
          rw [List.filter_cons_of_neg (by simp [work])]
          exact (congruent xs (bare_heed_idle work)).trans (ih t)

theorem later_of_bare {t t' : Timers} (same : t'.bare = t.bare) : Later t t' := by
  have active : t'.active = t.active := congrArg (·.active) same
  refine later_of_fewer (congrArg (·.generation) same) fun key g pending => ?_
  rwa [current?, active] at pending

theorem current?_of_bare {t t' : Timers} (same : t.bare = t'.bare) (key : TimerKey) :
    t.current? key = t'.current? key := by
  show t.bare.current? key = t'.bare.current? key
  rw [same]

end Timers

/-! ## Items that are under way -/

namespace Inbox

variable {b b' : Inbox} {sender : Sender} {gone : Sender → Bool} {item i : Item}

theorem mem_send (h : i ∈ (b.send sender item).contents) : i ∈ b.contents ∨ i = item := by
  unfold send at h
  split at h
  · simp only [contents, List.mem_append, List.mem_singleton] at h ⊢
    tauto
  · simp only [contents, List.map_append, List.mem_append, List.map_cons, List.map_nil,
      List.mem_singleton] at h ⊢
    tauto
  · exact Or.inl h

theorem mem_sendAll {items : List Item}
    (h : i ∈ (items.foldl (fun b item => b.send sender item) b).contents) :
    i ∈ b.contents ∨ i ∈ items := by
  induction items generalizing b with
  | nil => exact Or.inl h
  | cons item items ih =>
      rcases ih h with h | h
      · rcases mem_send h with h | rfl
        · exact Or.inl h
        · exact Or.inr (List.mem_cons_self ..)
      · exact Or.inr (List.mem_cons_of_mem _ h)

theorem mem_withdraw (h : i ∈ (b.withdraw gone).contents) : i ∈ b.contents := by
  simp only [contents, withdraw, List.mem_append, List.mem_map, List.mem_filter] at h ⊢
  rcases h with h | ⟨w, ⟨h, -⟩, rfl⟩
  · exact Or.inl h
  · exact Or.inr ⟨w, h, rfl⟩

theorem mem_promote : i ∈ b.promote.contents ↔ i ∈ b.contents := by
  unfold promote
  split
  · rfl
  next sender item rest line =>
    split
    · simp [contents, line]
    · rfl

theorem mem_receive (h : b.receive? = some (item, b')) :
    b.queue.head? = some item ∧ ∀ i ∈ b'.contents, i ∈ b.contents := by
  unfold receive? at h
  split at h
  · cases h
  next first rest line =>
    obtain ⟨rfl, rfl⟩ := Prod.mk.inj (Option.some.inj h)
    refine ⟨by simp [line], fun i hi => ?_⟩
    have waiting := mem_promote.mp hi
    simp only [contents, line, List.mem_append, List.mem_cons] at waiting ⊢
    tauto

theorem mem_of_head (h : b.queue.head? = some item) : item ∈ b.contents :=
  List.mem_append_left _ (List.mem_of_mem_head? h)

end Inbox

namespace TimedInbox

variable {d : TimedInbox} {now after : Nat} {key : TimerKey} {g : Nat} {e : Event} {i : Item}

/-- What waits in the inbox or before it, and what the timers will deliver. -/
def items (d : TimedInbox) : List Item := d.inbox.contents ++ d.timers.alarms.map Alarm.item

theorem mem_items :
    i ∈ d.items ↔ i ∈ d.inbox.contents ∨ ∃ a ∈ d.timers.alarms, a.item = i := by
  rw [items, List.mem_append, List.mem_map]

theorem mem_items_cancel (h : i ∈ (d.cancel key).items) : i ∈ d.items := by
  rcases mem_items.mp h with h | ⟨a, runs, rfl⟩
  · exact mem_items.mpr (Or.inl (Inbox.mem_withdraw h))
  · exact mem_items.mpr (Or.inr ⟨a, (List.mem_filter.mp runs).1, rfl⟩)

theorem mem_items_start (h : i ∈ (d.start now key e after).items) :
    i ∈ d.items ∨ i = .timer key (d.timers.generation + 1) e := by
  rcases mem_items.mp h with h | ⟨a, runs, rfl⟩
  · exact Or.inl (mem_items.mpr (Or.inl (Inbox.mem_withdraw h)))
  · rcases Alarm.mem_insert.mp runs with rfl | runs
    · exact Or.inr rfl
    · exact Or.inl (mem_items.mpr (Or.inr ⟨a, (List.mem_filter.mp runs).1, rfl⟩))

theorem mem_items_scheduleOnce (h : i ∈ (d.scheduleOnce now e after).items) :
    i ∈ d.items ∨ i = .event e := by
  rcases mem_items.mp h with h | ⟨a, runs, rfl⟩
  · exact Or.inl (mem_items.mpr (Or.inl h))
  · rcases Alarm.mem_insert.mp runs with rfl | runs
    · exact Or.inr rfl
    · exact Or.inl (mem_items.mpr (Or.inr ⟨a, runs, rfl⟩))

theorem mem_items_cancelAll (h : i ∈ d.cancelAll.items) : i ∈ d.items := by
  rcases mem_items.mp h with h | ⟨a, runs, rfl⟩
  · exact mem_items.mpr (Or.inl (Inbox.mem_withdraw h))
  · exact mem_items.mpr (Or.inr ⟨a, (List.mem_filter.mp runs).1, rfl⟩)

theorem mem_items_accept (d : TimedInbox) (key : TimerKey) (g : Nat) :
    i ∈ (d.accept key g).items ↔ i ∈ d.items := by
  simp only [items, accept, Timers.accept]
  split <;> rfl

theorem mem_items_close (h : i ∈ d.close.items) : i ∈ d.items := by
  rcases mem_items.mp h with h | h
  · cases h
  · exact mem_items.mpr (Or.inr h)

/-- The inbox and its timers after an effect. -/
def heed (d : TimedInbox) (now : Nat) : Effect → TimedInbox
  | .startTimer key event after => d.start now key event after
  | .cancelTimer key => d.cancel key
  | .scheduleOnce event after => d.scheduleOnce now event after
  | _ => d

def heedAll (d : TimedInbox) (now : Nat) (es : List Effect) : TimedInbox :=
  es.foldl (fun d x => d.heed now x) d

theorem heedAll_timers (d : TimedInbox) (now : Nat) (es : List Effect) :
    (d.heedAll now es).timers = d.timers.heedAll now es := by
  induction es generalizing d with
  | nil => rfl
  | cons x xs ih =>
      have one : (d.heed now x).timers = d.timers.heed now x := by cases x <;> rfl
      rw [Timers.heedAll, List.foldl_cons, ← one]
      exact ih (d.heed now x)

/-- Timers that run out deliver what they were to deliver, and stay pending. -/
theorem fire_frame (fuel : Nat) :
    (d.fire now fuel).timers.bare = d.timers.bare ∧ ∀ i ∈ (d.fire now fuel).items, i ∈ d.items := by
  induction fuel generalizing d with
  | zero => exact ⟨rfl, fun _ h => h⟩
  | succ fuel ih =>
      unfold fire
      cases due : d.timers.due? now with
      | none => exact ⟨rfl, fun _ h => h⟩
      | some next =>
          obtain ⟨a, timers⟩ := next
          obtain ⟨rest, line, rfl⟩ : ∃ rest, d.timers.alarms = a :: rest ∧
              timers = { d.timers with alarms := rest } := by
            unfold Timers.due? at due
            split at due
            next b rest line =>
              split at due
              · obtain ⟨rfl, rfl⟩ := Prod.mk.inj (Option.some.inj due)
                exact ⟨rest, line, rfl⟩
              · cases due
            next => cases due
          refine ⟨ih.1, fun i h => ?_⟩
          rcases mem_items.mp (ih.2 i h) with h | ⟨b, runs, rfl⟩
          · rcases Inbox.mem_send h with h | rfl
            · exact mem_items.mpr (Or.inl h)
            · exact mem_items.mpr (Or.inr ⟨a, by simp [line], rfl⟩)
          · exact mem_items.mpr (Or.inr ⟨b, line ▸ List.mem_cons_of_mem a runs, rfl⟩)

end TimedInbox

end ClusterSingleton
