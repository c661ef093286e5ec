import ClusterSingleton.Proofs.Coordinator.Run

/-!
# What is under way to a coordinator

The items in the inbox of a coordinator, in line before it, or set under a timer. `mem_items_apply`
says where each of them comes from, act by act; whatever is to hold of all items under way is proved
of what an act `Brings`.
-/

namespace ClusterSingleton

/-- The item that an effect sets for later. -/
inductive Effect.Sets : Effect → Item → Prop where
  | startTimer {key : TimerKey} {generation : Nat} {e : Event} {after : Nat} :
      Sets (.startTimer key e after) (.timer key generation e)
  | scheduleOnce {e : Event} {after : Nat} : Sets (.scheduleOnce e after) (.event e)

/-- The event that an item stands for when it counts. -/
def Item.carried : Item → Event
  | .event e => e
  | .peer sender message => .peer sender message
  | .timer _ _ e => e

namespace TimedInbox

variable {d : TimedInbox} {now : Nat} {i : Item}

theorem mem_items_heed {x : Effect} (h : i ∈ (d.heed now x).items) : i ∈ d.items ∨ x.Sets i := by
  cases x with
  | startTimer key e after =>
      rcases mem_items_start h with before | rfl
      · exact Or.inl before
      · exact Or.inr .startTimer
  | scheduleOnce e after =>
      rcases mem_items_scheduleOnce h with before | rfl
      · exact Or.inl before
      · exact Or.inr .scheduleOnce
  | cancelTimer key => exact Or.inl (mem_items_cancel h)
  | _ => exact Or.inl h

theorem mem_items_heedAll {es : List Effect} (h : i ∈ (d.heedAll now es).items) :
    i ∈ d.items ∨ ∃ x ∈ es, x.Sets i := by
  induction es generalizing d with
  | nil => exact Or.inl h
  | cons x xs ih =>
      rcases ih h with before | ⟨y, mem, sets⟩
      · rcases mem_items_heed before with before | sets
        · exact Or.inl before
        · exact Or.inr ⟨x, List.mem_cons_self .., sets⟩
      · exact Or.inr ⟨y, List.mem_cons_of_mem x mem, sets⟩

/-- With another inbox, what it holds is under way in place of the old one's items. -/
theorem mem_items_withInbox {b : Inbox} (h : i ∈ items ⟨b, d.timers⟩) :
    i ∈ b.contents ∨ i ∈ d.items :=
  (mem_items.mp h).imp_right fun runs => mem_items.mpr (Or.inr runs)

end TimedInbox

namespace Coordinator

variable {c : Coordinator} {env : Surroundings} {i : Item}

/-- What a timer of the cleanup delivers. -/
def IsCleanup (i : Item) : Prop := ∃ generation, i = .timer .cleanup generation .cleanup

theorem mem_items_cleanup {d : TimedInbox} {now after : Nat}
    (h : i ∈ (d.start now .cleanup .cleanup after).items) : i ∈ d.items ∨ IsCleanup i :=
  (TimedInbox.mem_items_start h).imp_right fun same => ⟨_, same⟩

theorem mem_items_prepare (h : i ∈ (c.prepare env).desk.items) :
    i ∈ c.desk.items ∨ IsCleanup i := by
  unfold prepare at h
  cases progress : c.progress with
  | starting =>
      rw [progress] at h
      exact mem_items_cleanup h
  | running =>
      rw [progress] at h
      cases received : c.inbox.receive? with
      | none =>
          simp only [received] at h
          exact Or.inl h
      | some next =>
          obtain ⟨item, inbox⟩ := next
          simp only [received] at h
          have rest (mem : i ∈ TimedInbox.items ⟨inbox, c.desk.timers⟩) : i ∈ c.desk.items := by
            rcases TimedInbox.mem_items_withInbox mem with mem | mem
            · exact TimedInbox.mem_items.mpr (Or.inl ((Inbox.mem_receive received).2 i mem))
            · exact mem
          cases item with
          | event event => exact Or.inl (rest h)
          | peer sender message => exact Or.inl (rest h)
          | timer key g event =>
              simp only [interpret] at h
              split at h
              · split at h
                · exact (mem_items_cleanup h).imp_left fun mem =>
                    rest ((TimedInbox.mem_items_accept _ key g).mp mem)
                · exact Or.inl (rest ((TimedInbox.mem_items_accept _ key g).mp h))
              · exact Or.inl (rest h)
  | _ =>
      rw [progress] at h
      exact Or.inl h

theorem Ended.mem_items {settings : Settings} {desk : TimedInbox} (ended : Ended settings desk c)
    (h : i ∈ c.desk.items) : i ∈ desk.items := by
  cases ended with
  | anew progress created same quiet =>
      rw [quiet] at h
      exact TimedInbox.mem_items_cancelAll h
  | gone progress quiet =>
      rw [quiet] at h
      exact TimedInbox.mem_items_cancelAll
        (TimedInbox.mem_items_cancelAll (TimedInbox.mem_items_close h))
  | broken progress quiet =>
      rw [quiet] at h
      exact TimedInbox.mem_items_cancelAll (TimedInbox.mem_items_close h)

/-- What an act brings under way. -/
inductive Act.Brings (c : Coordinator) (i : Item) : Act → Prop where
  | cleanup {env : Surroundings} (cleanup : IsCleanup i) : Brings c i (.turn env)
  | effect {env : Surroundings} {e : Entry} {x : Effect} (hands : c.handed env = some e)
      (mem : x ∈ e.effects) (sets : x.Sets i) : Brings c i (.turn env)
  | arrival {items : List Item} (mem : i ∈ items) : Brings c i (.arrive items)
  | place {queue : List Item} (mem : i ∈ queue) : Brings c i (.reorder queue)
  | report {id : UnitId} (same : i = .event (.unitTerminated id)) : Brings c i (.reapUnit id)

theorem mem_items_step (h : i ∈ (c.step env).1.desk.items) :
    i ∈ c.desk.items ∨ Act.Brings c i (.turn env) := by
  cases handing : c.handed env with
  | none =>
      rw [step_idle handing] at h
      exact (mem_items_prepare h).imp_right .cleanup
  | some e =>
      have performed : i ∈ ((c.prepare env).desk.heedAll env.now e.effects).items := by
        by_cases going : e.turn.outcome = .proceed
        · obtain ⟨-, -, -, desk⟩ := step_proceed handing going
          rwa [desk] at h
        · exact (step_ended handing going).mem_items h
      rcases TimedInbox.mem_items_heedAll performed with before | ⟨x, mem, sets⟩
      · exact (mem_items_prepare before).imp_right .cleanup
      · exact Or.inr (.effect handing mem sets)

/-- **Whatever is under way was so before the act, or the act has brought it.** -/
theorem mem_items_apply {act : Act} (h : i ∈ (c.apply act).desk.items) :
    i ∈ c.desk.items ∨ act.Brings c i := by
  have queued (mem : i ∈ c.inbox.contents) : i ∈ c.desk.items :=
    TimedInbox.mem_items.mpr (Or.inl mem)
  cases act with
  | turn env => exact mem_items_step h
  | elapse now => exact Or.inl ((TimedInbox.fire_frame _).2 i h)
  | arrive items =>
      simp only [apply, accept] at h
      split at h
      next d accepted =>
        split at accepted
        · cases accepted
        · obtain rfl := Except.ok.inj accepted
          rcases TimedInbox.mem_items_withInbox h with mem | mem
          · exact (Inbox.mem_sendAll mem).imp queued .arrival
          · exact Or.inl mem
      next => exact Or.inl h
  | reorder queue =>
      rcases TimedInbox.mem_items_withInbox h with mem | mem
      · rcases List.mem_append.mp mem with placed | waiting
        · exact Or.inr (.place placed)
        · exact Or.inl (queued (List.mem_append_right _ waiting))
      · exact Or.inl mem
  | runUnit now id => exact Or.inl h
  | endUnit id => exact Or.inl h
  | reapUnit id =>
      rcases TimedInbox.mem_items_withInbox h with mem | mem
      · exact (Inbox.mem_send mem).imp queued .report
      · exact Or.inl mem
  | tell message =>
      simp only [apply, tell] at h
      split at h <;> exact Or.inl h
  | abort =>
      simp only [apply, abort] at h
      split at h
      · exact Or.inl h
      · exact Or.inl (TimedInbox.mem_items_cancelAll (TimedInbox.mem_items_close h))

theorem interpret_carried {event : Event} (h : (c.interpret env i).2 = some event) :
    event = i.carried := by
  cases i with
  | timer key g e =>
      simp only [interpret] at h
      repeat' split at h
      all_goals first | exact (Option.some.inj h).symm | cases h
  | _ => exact (Option.some.inj h).symm

/-- What the machine is handed was under way. -/
theorem handed_carried {e : Entry} (hands : c.handed env = some e) :
    e.event = .startNotifier ∨ ∃ i ∈ c.desk.items, e.event = i.carried := by
  unfold handed at hands
  cases progress : c.progress with
  | starting =>
      simp only [progress] at hands
      split at hands
      · obtain rfl := Option.some.inj hands
        exact Or.inl rfl
      · cases hands
  | running =>
      simp only [progress] at hands
      split at hands
      next item inbox received =>
        obtain ⟨event, interpreted, rfl⟩ := Option.map_eq_some_iff.mp hands
        have first := Inbox.mem_of_head (Inbox.mem_receive received).1
        exact Or.inr ⟨item, TimedInbox.mem_items.mpr (Or.inl first), interpret_carried interpreted⟩
      · cases hands
  | _ => simp [progress] at hands

end Coordinator

end ClusterSingleton
