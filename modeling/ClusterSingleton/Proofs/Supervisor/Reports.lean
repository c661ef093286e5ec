import Mathlib.Data.List.Dedup
import Mathlib.Data.List.Induction
import ClusterSingleton.Coordinator
import ClusterSingleton.Proofs.Supervisor.Ends

/-!
# One report for each end

A supervisor, whoever waits for the ends of its units, and the inbox of their owner. Units are
started, asked to end and stopped at will; they end when they like. `one_report` says that the owner
hears of each end once, after it, and that the supervisor knows exactly the units whose end was not
processed.
-/

namespace ClusterSingleton

/-! ## The inbox as one line -/

namespace Inbox

variable {b b' : Inbox} {sender : Sender} {item : Item}

/-- Nobody waits in line before a free place. -/
def Packed (b : Inbox) : Prop := b.waiting = [] ∨ b.capacity ≤ b.queue.length

theorem contents_send (opened : b.closed = false) :
    (b.send sender item).contents = b.contents ++ [item] := by
  unfold send delivery hasRoom
  rw [opened]
  cases line : b.waiting with
  | nil =>
      by_cases room : b.queue.length < b.capacity
      · simp [contents, line, room]
      · simp [contents, line, room]
  | cons first rest => simp [contents, line]

theorem send_frame : (b.send sender item).closed = b.closed ∧
    (b.send sender item).capacity = b.capacity := by
  unfold send
  split <;> exact ⟨rfl, rfl⟩

theorem Packed.send (h : b.Packed) : (b.send sender item).Packed := by
  unfold Packed at h ⊢
  cases delivered : b.delivery with
  | delivered =>
      -- a place was free, so nobody was in line
      have nobody : b.waiting = [] := by
        by_contra line
        simp [delivery, hasRoom, line] at delivered
        split at delivered <;> cases delivered
      exact Or.inl (by simpa [Inbox.send, delivered] using nobody)
  | full =>
      refine Or.inr ?_
      simp only [Inbox.send, delivered]
      rcases h with nobody | packed
      · by_contra room
        simp [delivery, hasRoom, nobody, Nat.not_le.mp room] at delivered
        split at delivered <;> cases delivered
      · exact packed
  | closed => simpa [Inbox.send, delivered] using h

theorem contents_promote : b.promote.contents = b.contents := by
  unfold promote
  split
  · rfl
  next line =>
    split
    · simp [contents, line]
    · rfl

theorem receive?_frame (h : b.receive? = some (item, b')) :
    b.contents = item :: b'.contents ∧ b'.closed = b.closed ∧ b'.capacity = b.capacity := by
  unfold receive? at h
  split at h
  · cases h
  next queued =>
    obtain ⟨rfl, rfl⟩ := Prod.mk.inj (Option.some.inj h)
    refine ⟨by rw [contents_promote]; simp [contents, queued], ?_⟩
    unfold promote
    split
    · exact ⟨rfl, rfl⟩
    · split <;> exact ⟨rfl, rfl⟩

theorem Packed.receive (h : b.Packed) (received : b.receive? = some (item, b')) : b'.Packed := by
  unfold receive? at received
  split at received
  · cases received
  next first rest queued =>
    obtain ⟨rfl, rfl⟩ := Prod.mk.inj (Option.some.inj received)
    unfold Packed at h ⊢
    rw [queued, List.length_cons] at h
    unfold promote
    cases line : b.waiting with
    | nil => simp
    | cons w ws =>
        have packed : b.capacity ≤ rest.length + 1 := h.resolve_left (by simp [line])
        simp only
        split
        · exact Or.inr (by simpa using packed)
        next full => exact Or.inr (Nat.not_lt.mp full)

/-- Whatever is queued or in line is received in the end. -/
theorem receive?_of_contents (h : b.Packed) (room : 0 < b.capacity) (left : b.contents ≠ []) :
    ∃ item b', b.receive? = some (item, b') := by
  cases queued : b.queue with
  | cons first rest => exact ⟨first, _, by rw [receive?, queued]⟩
  | nil =>
      rcases h with nobody | packed
      · exact absurd (by simp [contents, queued, nobody]) left
      · rw [queued] at packed
        exact absurd packed (Nat.not_le.mpr room)

end Inbox

/-! ## A supervisor and the owner of its units -/

/-- The report of the end of a unit. -/
def Item.report (id : UnitId) : Item := .event (.unitTerminated id)

structure Watch : Type where
  supervisor : Supervisor
  /-- The units whose end was processed. -/
  processed : List UnitId
  /-- Those of them whose report was not sent yet. -/
  leaving : List UnitId
  inbox : Inbox
  /-- What the owner has taken out of its inbox. -/
  received : List Item
deriving DecidableEq, Repr

namespace Watch

def create (name : String) (signal : TerminationSignal) (script : List Behaviour)
    (capacity : Nat) : Watch :=
  ⟨.create name signal script, [], [], .empty capacity, []⟩

inductive Act : Type where
  | start (id : UnitId) (behaviour : Behaviour)
  | terminate (id : UnitId)
  | abortAll
  | tell (id : UnitId) (message : String)
  /-- A unit does what it has to do, which may be to end. -/
  | runUnit (id : UnitId) (now : Nat)
  /-- A unit ends, whatever it was doing. -/
  | endUnit (id : UnitId)
  /-- The end of a unit that has ended is processed. -/
  | process (id : UnitId)
  /-- The end of a unit is reported to the owner, in line if it must be. -/
  | report (id : UnitId)
  /-- Something else is sent to the owner. -/
  | arrive (item : Item)
  /-- The owner takes the next item. -/
  | receive
deriving DecidableEq, Repr

def apply (w : Watch) : Act → Watch
  | .start id behaviour => { w with supervisor := w.supervisor.startAs id behaviour }
  | .terminate id => { w with supervisor := w.supervisor.terminate id }
  | .abortAll => { w with supervisor := w.supervisor.abortAll }
  | .tell id message => { w with supervisor := w.supervisor.tell id message }
  | .runUnit id now => { w with supervisor := w.supervisor.runUnit id now }
  | .endUnit id => { w with supervisor := w.supervisor.endUnit id }
  | .process id =>
      if id ∈ w.supervisor.ended then
        { w with
          supervisor := w.supervisor.reap id
          processed := w.processed ++ [id]
          leaving := w.leaving ++ [id] }
      else w
  | .report id =>
      if id ∈ w.leaving then
        { w with
          leaving := w.leaving.erase id
          inbox := w.inbox.send (.unit id) (.report id) }
      else w
  | .arrive item => { w with inbox := w.inbox.send .outside item }
  | .receive =>
      match w.inbox.receive? with
      | some (item, inbox) => { w with inbox := inbox, received := w.received ++ [item] }
      | none => w

def run (w : Watch) (acts : List Act) : Watch := acts.foldl apply w

theorem run_append (w : Watch) (acts more : List Act) :
    w.run (acts ++ more) = (w.run acts).run more :=
  List.foldl_append

theorem run_snoc (w : Watch) (acts : List Act) (act : Act) :
    w.run (acts ++ [act]) = (w.run acts).apply act := by
  rw [run_append]
  rfl

/-- The unit that an act starts. -/
def Act.started? : Act → Option UnitId
  | start id _ => some id
  | _ => none

/-- The units that were started, in order. -/
def started (acts : List Act) : List UnitId := acts.filterMap Act.started?

/-- The reports of the end of a unit that wait to be sent, are under way or have arrived. -/
def reports (w : Watch) (id : UnitId) : Nat :=
  w.leaving.count id + (w.inbox.contents ++ w.received).count (.report id)

/-- What the owner has heard of the end of a unit. -/
def heard (w : Watch) (id : UnitId) : Nat := w.received.count (.report id)

/-! ## What every act keeps -/

/-- The books of a watch, with the units that were started. -/
structure Kept (units : List UnitId) (w : Watch) : Prop where
  distinct : w.supervisor.Distinct
  logged : w.supervisor.Logged
  timely : w.supervisor.Timely
  opened : w.inbox.closed = false
  room : 0 < w.inbox.capacity
  packed : w.inbox.Packed
  /-- Whatever was started is known, or its end was processed. -/
  roll : (w.supervisor.ids ++ w.processed).Perm units
  ended : ∀ id ∈ w.processed, w.supervisor.HasEnded id
  /-- Only units that were started have ended. -/
  known : ∀ id, w.supervisor.HasEnded id → id ∈ units
  /-- Each end that was processed makes one report. -/
  told : ∀ id, w.reports id = w.processed.count id

variable {w : Watch} {units : List UnitId} {id : UnitId}

theorem Kept.mem_units (h : Kept units w) :
    id ∈ units ↔ id ∈ w.supervisor.ids ∨ id ∈ w.processed := by
  rw [← h.roll.mem_iff, List.mem_append]

/-- Requests to known units change nothing in the books. -/
theorem Kept.goes {s : Supervisor} (h : Kept units w) (goes : Supervisor.Goes w.supervisor s) :
    Kept units { w with supervisor := s } where
  distinct := goes.distinct h.distinct
  logged := goes.logged h.logged
  timely := goes.timely h.timely
  opened := h.opened
  room := h.room
  packed := h.packed
  roll := by
    show (s.ids ++ w.processed).Perm units
    rw [goes.ids]
    exact h.roll
  ended id mem := goes.hasEnded (h.ended id mem)
  known id ended := by
    rcases goes.hasEnded_cases ended with before | known
    · exact h.known id before
    · exact h.mem_units.mpr (Or.inl known)
  told := h.told

theorem Kept.start {b : Behaviour} (h : Kept units w) (fresh : id ∉ units) :
    Kept (units ++ [id]) (w.apply (.start id b)) where
  distinct := h.distinct.startAs
  logged := h.logged.startAs
  timely := h.timely.startAs fun ended => fresh (h.known id ended)
  opened := h.opened
  room := h.room
  packed := h.packed
  roll := by
    have absent : id ∉ w.supervisor.ids := fun known => fresh (h.mem_units.mpr (Or.inl known))
    have others : w.supervisor.ids.filter (· ≠ id) = w.supervisor.ids :=
      List.filter_eq_self.mpr fun other mem => by
        simpa using ne_of_mem_of_not_mem mem absent
    show ((w.supervisor.startAs id b).ids ++ w.processed).Perm (units ++ [id])
    rw [Supervisor.ids_startAs, others, List.append_assoc, List.singleton_append]
    exact List.perm_middle.trans
      ((h.roll.cons id).trans (List.perm_append_singleton id units).symm)
  ended := h.ended
  known other ended := List.mem_append_left _ (h.known other ended)
  told := h.told

theorem Kept.process (h : Kept units w) : Kept units (w.apply (.process id)) := by
  simp only [apply]
  split
  next mem =>
    obtain ⟨u, here, past, rfl⟩ := Supervisor.mem_ended.mp mem
    have known : u.id ∈ w.supervisor.ids := Supervisor.mem_ids.mpr ⟨u, here, rfl⟩
    refine ⟨h.distinct.reap, h.logged.reap, h.timely.reap, h.opened, h.room, h.packed, ?_, ?_,
      h.known, ?_⟩
    · have rest : w.supervisor.ids.filter (· ≠ u.id) = w.supervisor.ids.erase u.id := by
        rw [h.distinct.erase_eq_filter]
        exact List.filter_congr fun other _ => by simp [bne, Bool.beq_eq_decide_eq]
      show ((w.supervisor.reap u.id).ids ++ (w.processed ++ [u.id])).Perm units
      rw [Supervisor.ids_reap, rest, ← List.append_assoc]
      have front := List.perm_append_singleton u.id (w.supervisor.ids.erase u.id ++ w.processed)
      exact front.trans (((List.perm_cons_erase known).symm.append_right _).trans h.roll)
    · intro other processed
      rcases List.mem_append.mp processed with before | now
      · exact h.ended other before
      · obtain rfl := List.mem_singleton.mp now
        exact h.logged u here past
    · intro other
      have told := h.told other
      simp only [reports, List.count_append] at told ⊢
      omega
  · exact h

theorem report_inj {other : UnitId} : Item.report id = .report other ↔ id = other := by
  simp [Item.report]

theorem Kept.report (h : Kept units w) : Kept units (w.apply (.report id)) := by
  simp only [apply]
  split
  next mem =>
    have waits : 0 < w.leaving.count id := List.count_pos_iff.mpr mem
    refine ⟨h.distinct, h.logged, h.timely, Inbox.send_frame.1.trans h.opened,
      Nat.lt_of_lt_of_eq h.room Inbox.send_frame.2.symm, h.packed.send, h.roll, h.ended, h.known,
      fun other => ?_⟩
    have told := h.told other
    simp only [reports, Inbox.contents_send h.opened, List.count_append, List.count_erase,
      List.count_singleton, beq_iff_eq, report_inj] at told ⊢
    split
    next same =>
      subst same
      omega
    · omega
  · exact h

/-- Whatever else the owner is sent, it is no report. -/
theorem Kept.arrive {item : Item} (h : Kept units w) (other : ∀ id, item ≠ .report id) :
    Kept units (w.apply (.arrive item)) where
  distinct := h.distinct
  logged := h.logged
  timely := h.timely
  opened := Inbox.send_frame.1.trans h.opened
  room := Nat.lt_of_lt_of_eq h.room Inbox.send_frame.2.symm
  packed := h.packed.send
  roll := h.roll
  ended := h.ended
  known := h.known
  told id := by
    have told := h.told id
    simpa [reports, apply, Inbox.contents_send h.opened, List.count_singleton, other] using told

theorem Kept.receive (h : Kept units w) : Kept units (w.apply .receive) := by
  simp only [apply]
  split
  next item inbox received =>
    obtain ⟨contents, closed, capacity⟩ := Inbox.receive?_frame received
    refine ⟨h.distinct, h.logged, h.timely, closed.trans h.opened,
      Nat.lt_of_lt_of_eq h.room capacity.symm, h.packed.receive received, h.roll, h.ended, h.known,
      fun id => ?_⟩
    have told := h.told id
    simp only [reports, contents, List.count_append, List.count_cons, List.count_nil] at told ⊢
    omega
  · exact h

/-- An act that starts no unit, and is no report of somebody else. -/
theorem Kept.idle {act : Act} (h : Kept units w) (idle : act.started? = none)
    (elsewhere : ∀ id, act ≠ .arrive (.report id)) : Kept units (w.apply act) := by
  cases act with
  | start id behaviour => cases idle
  | terminate id => exact h.goes Supervisor.goes_terminate
  | abortAll => exact h.goes Supervisor.goes_abortAll
  | tell id message => exact h.goes Supervisor.goes_tell
  | runUnit id now => exact h.goes (Supervisor.goes_runUnit h.distinct)
  | endUnit id => exact h.goes (Supervisor.goes_endUnit h.distinct)
  | process id => exact h.process
  | report id => exact h.report
  | arrive item => exact h.arrive fun id same => elsewhere id (congrArg Act.arrive same)
  | receive => exact h.receive

/-- **Every act keeps the books**, as long as no identifier is used twice and nobody else reports. -/
theorem Kept.snoc {act : Act} (h : Kept units w) (fresh : ∀ id, act.started? = some id → id ∉ units)
    (elsewhere : ∀ id, act ≠ .arrive (.report id)) :
    Kept (units ++ act.started?.toList) (w.apply act) := by
  cases starts : act.started? with
  | none => simpa using h.idle starts elsewhere
  | some id =>
      cases act with
      | start other behaviour =>
          obtain rfl := Option.some.inj starts
          exact h.start (fresh _ rfl)
      | _ => cases starts

theorem started_snoc (acts : List Act) (act : Act) :
    started (acts ++ [act]) = started acts ++ act.started?.toList := by
  rw [started, List.filterMap_append]
  cases h : act.started? <;> simp [started, h]

theorem kept_of_run {name : String} {signal : TerminationSignal} {script : List Behaviour}
    {capacity : Nat} {acts : List Act} (room : 0 < capacity) (distinct : (started acts).Nodup)
    (elsewhere : ∀ id, .arrive (.report id) ∉ acts) :
    Kept (started acts) ((create name signal script capacity).run acts) := by
  induction acts using List.reverseRecOn with
  | nil =>
      exact ⟨List.nodup_nil, nofun, nofun, rfl, room, Or.inl rfl, .nil, nofun, nofun, fun _ => rfl⟩
  | append_singleton acts act ih =>
      rw [started_snoc] at distinct ⊢
      rw [run_snoc]
      have before : (started acts).Nodup := (List.nodup_append.mp distinct).1
      have kept := ih before fun id mem => elsewhere id (List.mem_append_left _ mem)
      refine kept.snoc (fun id starts again => ?_) fun id same => elsewhere id (by simp [same])
      have apart := (List.nodup_append.mp distinct).2.2 id again id
      exact apart (by simp [starts]) rfl

/-! ## Bringing everything to its end -/

/-- Nothing is under way: every end is processed and reported, and the owner has taken all. -/
def Quiet (w : Watch) : Prop :=
  w.supervisor.ended = [] ∧ w.leaving = [] ∧ w.inbox.contents = []

/-- Processes and reports all ends, and takes all items. -/
def settling (w : Watch) : List Act :=
  w.supervisor.ended.map .process ++ (w.leaving ++ w.supervisor.ended).map .report ++
    List.replicate (w.inbox.contents.length + (w.leaving ++ w.supervisor.ended).length) .receive

def settle (w : Watch) : Watch := w.run w.settling

/-- Processing some ends leaves the others, and reports at most one for each. -/
theorem run_process (h : Kept units w) (l : List UnitId) :
    let v := w.run (l.map .process)
    Kept units v ∧ v.inbox = w.inbox ∧ v.supervisor.log = w.supervisor.log ∧
      (∀ id ∈ v.supervisor.ended, id ∈ w.supervisor.ended ∧ id ∉ l) ∧
      ∀ id, v.leaving.count id ≤ (w.leaving ++ l).count id := by
  induction l generalizing w with
  | nil => exact ⟨h, rfl, rfl, fun id mem => ⟨mem, List.not_mem_nil⟩, by simp [run]⟩
  | cons first rest ih =>
      obtain ⟨kept, inbox, log, left, bound⟩ := ih h.process
      have frame : (w.apply (.process first)).inbox = w.inbox ∧
          (w.apply (.process first)).supervisor.log = w.supervisor.log := by
        simp only [apply]
        split <;> exact ⟨rfl, rfl⟩
      have gone : ∀ id ∈ (w.apply (.process first)).supervisor.ended,
          id ∈ w.supervisor.ended ∧ id ≠ first := by
        intro id mem
        simp only [apply] at mem
        split at mem
        · obtain ⟨u, here, past, rfl⟩ := Supervisor.mem_ended.mp mem
          obtain ⟨here, apart⟩ := List.mem_filter.mp here
          exact ⟨Supervisor.mem_ended.mpr ⟨u, here, past, rfl⟩, by simpa using apart⟩
        next absent => exact ⟨mem, fun same => absent (same ▸ mem)⟩
      have one : ∀ id, (w.apply (.process first)).leaving.count id ≤
          w.leaving.count id + [first].count id := by
        intro id
        simp only [apply]
        split
        · exact Nat.le_of_eq List.count_append
        · exact Nat.le_add_right _ _
      refine ⟨kept, inbox.trans frame.1, log.trans frame.2, fun id mem => ?_, fun id => ?_⟩
      · obtain ⟨before, apart⟩ := left id mem
        obtain ⟨known, other⟩ := gone id before
        exact ⟨known, by simp [other, apart]⟩
      · have here := bound id
        have there := one id
        have split : (first :: rest).count id = [first].count id + rest.count id := by
          simp [List.count_cons, Nat.add_comm]
        rw [List.count_append] at here ⊢
        rw [split, ← Nat.add_assoc]
        exact Nat.le_trans here (Nat.add_le_add_right there _)

/-- Sending the reports of all units that have left sends all of them. -/
theorem run_report (h : Kept units w) (l : List UnitId)
    (all : ∀ id, w.leaving.count id ≤ l.count id) :
    let v := w.run (l.map .report)
    Kept units v ∧ v.supervisor = w.supervisor ∧ v.leaving = [] ∧
      v.inbox.contents.length ≤ w.inbox.contents.length + l.length := by
  induction l generalizing w with
  | nil =>
      have none : w.leaving = [] := List.eq_nil_iff_forall_not_mem.mpr fun id mem =>
        absurd (List.count_pos_iff.mpr mem) (Nat.not_lt.mpr (all id))
      exact ⟨h, rfl, none, Nat.le_refl _⟩
  | cons first rest ih =>
      have fewer : ∀ id, (w.apply (.report first)).leaving.count id ≤ rest.count id := by
        intro id
        have here := all id
        rw [List.count_cons] at here
        simp only [apply]
        split
        · rw [List.count_erase]
          split at here <;> simp_all
        next absent =>
          have none : w.leaving.count first = 0 := List.count_eq_zero.mpr absent
          by_cases same : first = id
          · subst same
            omega
          · simpa [same] using here
      obtain ⟨kept, supervisor, leaving, bound⟩ := ih h.report fewer
      have frame : (w.apply (.report first)).supervisor = w.supervisor := by
        simp only [apply]
        split <;> rfl
      have one : (w.apply (.report first)).inbox.contents.length ≤ w.inbox.contents.length + 1 := by
        simp only [apply]
        split
        · simp [Inbox.contents_send h.opened]
        · exact Nat.le_succ _
      refine ⟨kept, supervisor.trans frame, leaving, ?_⟩
      have here : ((w.apply (.report first)).run (rest.map .report)).inbox.contents.length ≤
          (w.apply (.report first)).inbox.contents.length + rest.length := bound
      show ((w.apply (.report first)).run (rest.map .report)).inbox.contents.length ≤ _
      rw [List.length_cons]
      omega

/-- An owner that takes as many items as there are has taken all. -/
theorem run_receive (h : Kept units w) (n : Nat) (enough : w.inbox.contents.length ≤ n) :
    let v := w.run (List.replicate n .receive)
    Kept units v ∧ v.supervisor = w.supervisor ∧ v.leaving = w.leaving ∧
      v.inbox.contents = [] := by
  induction n generalizing w with
  | zero => exact ⟨h, rfl, rfl, List.length_eq_zero_iff.mp (Nat.le_zero.mp enough)⟩
  | succ n ih =>
      have fewer : (w.apply .receive).inbox.contents.length ≤ n := by
        by_cases left : w.inbox.contents = []
        · have none : w.inbox.receive? = none := by
            cases received : w.inbox.receive? with
            | none => rfl
            | some r =>
                rw [(Inbox.receive?_frame received).1] at left
                cases left
          simp [apply, none, left]
        · obtain ⟨item, inbox, received⟩ := Inbox.receive?_of_contents h.packed h.room left
          have contents := (Inbox.receive?_frame received).1
          rw [contents, List.length_cons] at enough
          simpa [apply, received] using Nat.le_of_succ_le_succ enough
      have frame : (w.apply .receive).supervisor = w.supervisor ∧
          (w.apply .receive).leaving = w.leaving := by
        simp only [apply]
        split <;> exact ⟨rfl, rfl⟩
      obtain ⟨kept, supervisor, leaving, empty⟩ := ih h.receive fewer
      exact ⟨kept, supervisor.trans frame.1, leaving.trans frame.2, empty⟩

theorem Kept.settle (h : Kept units w) :
    Kept units w.settle ∧ w.settle.Quiet ∧
      ∀ id, w.settle.supervisor.HasEnded id ↔ w.supervisor.HasEnded id := by
  obtain ⟨kept, inbox, log, left, bound⟩ := run_process h w.supervisor.ended
  obtain ⟨reported, same, leaving, contents⟩ := run_report kept _ bound
  rw [inbox] at contents
  obtain ⟨received, unchanged, still, empty⟩ := run_receive reported _ contents
  rw [Watch.settle, settling, run_append, run_append]
  refine ⟨received, ⟨?_, still.trans leaving, empty⟩, fun id => ?_⟩
  · rw [unchanged, same]
    exact List.eq_nil_iff_forall_not_mem.mpr fun id mem => (left id mem).2 (left id mem).1
  · rw [unchanged, same, Supervisor.HasEnded, log, Supervisor.HasEnded]

/-! ## The reports -/

/-- A unit is known as long as it was started and its end was not processed. -/
theorem Kept.known_iff (h : Kept units w) (distinct : units.Nodup) :
    id ∈ w.supervisor.ids ↔ id ∈ units ∧ id ∉ w.processed := by
  have apart := (List.nodup_append.mp (h.roll.nodup_iff.mpr distinct)).2.2
  constructor
  · intro known
    exact ⟨h.mem_units.mpr (Or.inl known), fun processed => apart id known id processed rfl⟩
  · rintro ⟨started, left⟩
    exact (h.mem_units.mp started).resolve_right left

/-- An end makes one report, and only once it was processed. -/
theorem Kept.reports_eq (h : Kept units w) (distinct : units.Nodup) :
    w.reports id = if id ∈ w.processed then 1 else 0 := by
  have once : w.processed.Nodup := (List.nodup_append.mp (h.roll.nodup_iff.mpr distinct)).2.1
  rw [h.told id, List.Nodup.count once]

/-- When nothing is under way, every unit that has ended was processed. -/
theorem Kept.processed_of_quiet (h : Kept units w) (quiet : w.Quiet)
    (ended : w.supervisor.HasEnded id) :
    id ∈ w.processed := by
  refine (h.mem_units.mp (h.known id ended)).resolve_left fun known => ?_
  obtain ⟨u, mem, rfl⟩ := Supervisor.mem_ids.mp known
  have waits : u.id ∈ w.supervisor.ended :=
    Supervisor.mem_ended.mpr ⟨u, mem, h.timely u mem ended, rfl⟩
  rw [quiet.1] at waits
  cases waits

theorem Kept.heard_of_quiet (h : Kept units w) (distinct : units.Nodup) (quiet : w.Quiet) :
    w.heard id = if w.supervisor.HasEnded id then 1 else 0 := by
  have all : w.reports id = w.heard id := by
    simp [reports, heard, quiet.2.1, quiet.2.2]
  rw [← all, h.reports_eq distinct]
  by_cases ended : w.supervisor.HasEnded id
  · rw [if_pos (h.processed_of_quiet quiet ended), if_pos ended]
  · rw [if_neg fun mem => ended (h.ended id mem), if_neg ended]

/-- **Each end is reported once.** Units that are started under identifiers of their own may be
asked to end and stopped at any time, known or not, and end when they like. A report that was sent
is that of a unit that was started and has ended, and there is no second one for it. A unit is known
as long as it was started and its end was not processed, so that the running ones are those started
less those processed. And once everything has settled, the owner has heard of each end once. -/
theorem one_report (name : String) (signal : TerminationSignal) (script : List Behaviour)
    (capacity : Nat) (acts : List Act) (room : 0 < capacity) (distinct : (started acts).Nodup)
    (elsewhere : ∀ id, .arrive (.report id) ∉ acts) :
    let w := (create name signal script capacity).run acts
    (∀ id, w.reports id ≤ 1) ∧
      (∀ id, .report id ∈ w.inbox.contents ++ w.received →
        id ∈ started acts ∧ w.supervisor.HasEnded id) ∧
      (∀ id, (w.supervisor.get? id).isSome = true ↔ id ∈ started acts ∧ id ∉ w.processed) ∧
      (∀ id ∈ w.processed, w.supervisor.HasEnded id ∧ w.reports id = 1) ∧
      w.supervisor.runningCount + w.processed.length = (started acts).length ∧
      (w.Quiet → ∀ id, w.heard id = if w.supervisor.HasEnded id then 1 else 0) ∧
      w.settle.Quiet ∧
      ∀ id, w.settle.heard id = if w.supervisor.HasEnded id then 1 else 0 := by
  intro w
  have kept : Kept (started acts) w := kept_of_run room distinct elsewhere
  obtain ⟨settled, quiet, same⟩ := kept.settle
  refine ⟨fun id => ?_, fun id sent => ?_, fun id => ?_, fun id mem => ?_, ?_,
    fun quiet id => kept.heard_of_quiet distinct quiet, quiet, fun id => ?_⟩
  · rw [kept.reports_eq distinct]
    split
    · exact Nat.le_refl 1
    · exact Nat.zero_le 1
  · have one : 0 < w.reports id :=
      Nat.lt_of_lt_of_le (List.count_pos_iff.mpr sent) (Nat.le_add_left _ _)
    rw [kept.told id] at one
    have ended := kept.ended id (List.count_pos_iff.mp one)
    exact ⟨kept.known id ended, ended⟩
  · rw [Supervisor.isSome_get?, kept.known_iff distinct]
  · exact ⟨kept.ended id mem, by rw [kept.reports_eq distinct, if_pos mem]⟩
  · rw [Supervisor.runningCount_eq, ← List.length_append]
    exact kept.roll.length_eq
  · rw [settled.heard_of_quiet distinct quiet]
    simp only [same]

/-- Three units and an inbox with one place that is taken: the first is asked to end twice and then
stopped, the second breaks down, and the third is asked to end after it did. An identifier that
nobody has is asked, too. -/
theorem one_report_crowded :
    let acts : List Act :=
      [.start (.nth 1) (.reads []), .start (.nth 2) .panics, .start (.nth 3) .returns,
        .arrive (.event .cleanup), .runUnit (.nth 1) 0, .terminate (.nth 1), .terminate (.nth 1),
        .runUnit (.nth 2) 0, .process (.nth 2), .report (.nth 2), .abortAll, .abortAll,
        .runUnit (.nth 3) 0, .terminate (.nth 3), .terminate (.nth 7), .runUnit (.nth 1) 5,
        .process (.nth 1), .report (.nth 1)]
    let w := (create "worker" (.graceful "stop") [] 1).run acts
    0 < 1 ∧ (started acts).Nodup ∧ (∀ id, .arrive (.report id) ∉ acts) ∧
      w.inbox.waiting.length = 2 ∧ w.supervisor.ended = [.nth 3] ∧
      w.supervisor.runningCount + w.processed.length = 3 ∧
      w.settle.heard (.nth 1) = 1 ∧ w.settle.heard (.nth 2) = 1 ∧ w.settle.heard (.nth 3) = 1 ∧
      w.settle.heard (.nth 7) = 0 := by
  intro acts w
  have distinct : (started acts).Nodup := by decide +kernel
  have elsewhere : ∀ id, .arrive (.report id) ∉ acts := by simp [acts, Item.report]
  obtain ⟨-, -, -, -, count, -, -, heard⟩ :=
    one_report "worker" (.graceful "stop") [] 1 acts Nat.zero_lt_one distinct elsewhere
  refine ⟨Nat.zero_lt_one, distinct, elsewhere, by decide +kernel, by decide +kernel,
    count.trans rfl, (heard _).trans ?_, (heard _).trans ?_, (heard _).trans ?_,
    (heard _).trans ?_⟩
  · exact if_pos (by decide +kernel)
  · exact if_pos (by decide +kernel)
  · exact if_pos (by decide +kernel)
  · exact if_neg (by decide +kernel)

end Watch

end ClusterSingleton
