import ClusterSingleton.Proofs.Coordinator.Items

/-!
# Where timer items come from

A retry reaches a coordinator only through its own timer, as long as nobody else sends one: what is
under way, in the inbox or in the timers, is `Genuine`, and every act keeps it so.
-/

namespace ClusterSingleton

theorem TimerKey.fire_key {k k' : TimerKey} {n n' : UInt32} (same : k.fire n = k'.fire n') :
    k = k' := by
  cases k <;> cases k' <;> first | rfl | cases same

/-- The timers deliver what they are there for, and nothing else asks for a retry. -/
def Item.Genuine : Item → Prop
  | .timer key _ e => ∃ count, e = key.fire count
  | .event e => e.retryKey? = none
  | .peer _ _ => True

/-- What comes from elsewhere: no timer has sent it, and it does not ask for a retry. -/
def Item.Foreign : Item → Prop
  | .timer _ _ _ => False
  | .event e => e.retryKey? = none
  | .peer _ _ => True

theorem Item.Foreign.genuine {i : Item} (h : i.Foreign) : i.Genuine := by
  cases i with
  | timer key generation e => exact h.elim
  | _ => exact h

/-- The effect sets no timer that would deliver another's event. -/
def Effect.Genuine : Effect → Prop
  | startTimer key e _ => ∃ count, e = key.fire count
  | scheduleOnce e _ => e.retryKey? = none
  | _ => True

theorem Entry.effects_genuine (e : Entry) : ∀ x ∈ e.effects, x.Genuine := by
  unfold effects
  cases done : e.before.terminated with
  | true =>
      rw [e.turn_terminated done]
      nofun
  | false =>
      intro x mem
      cases (e.row done).emits x mem with
      | atOnce immediate => cases x <;> trivial
      | retry => exact ⟨_, rfl⟩
      | announcement => rfl

/-! ## What is under way stays genuine -/

def TimedInbox.Genuine (d : TimedInbox) : Prop := ∀ i ∈ d.items, i.Genuine

namespace Coordinator

variable {c : Coordinator}

/-- Whatever arrives from elsewhere is no timer's and asks for no retry, and what was delivered is at
most put in another order. -/
def Act.Honest (c : Coordinator) : Act → Prop
  | .arrive items => ∀ i ∈ items, i.Foreign
  | .reorder queue => queue.Perm c.inbox.queue
  | _ => True

theorem apply_genuine {act : Act} (h : c.desk.Genuine) (honest : act.Honest c) :
    (c.apply act).desk.Genuine := by
  intro i underWay
  rcases mem_items_apply underWay with before | brings
  · exact h i before
  · cases brings with
    | cleanup cleanup =>
        obtain ⟨generation, rfl⟩ := cleanup
        exact ⟨0, rfl⟩
    | effect hands mem sets =>
        have own := Entry.effects_genuine _ _ mem
        cases sets <;> exact own
    | arrival mem => exact (honest i mem).genuine
    | place mem =>
        have queued := (List.Perm.mem_iff honest).mp mem
        exact h i (TimedInbox.mem_items.mpr (Or.inl (List.mem_append_left _ queued)))
    | report same =>
        subst same
        exact rfl

end Coordinator

end ClusterSingleton
