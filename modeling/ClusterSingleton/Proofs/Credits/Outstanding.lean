import ClusterSingleton.Proofs.Credits.Ledger

/-!
# Whether a word is outstanding

A node that waits for others, or hosts the unit, should hear of the next change of the oldest
member, so one word should be outstanding in `younger` and `oldest`. `outstanding_iff` says when that
is so. It is not once a word came in a state that takes no note of it, and it is not for as long as a
node stays the oldest after it was told again that it is.
-/

namespace ClusterSingleton

/-- The step tells the oldest that it is the oldest. -/
def Entry.echoes (e : Entry) : Prop :=
  e.before.state = .oldest ∧ e.event = .oldestChanged (some e.before.self)

/-- The machine is the oldest, and was told so again since it became it. -/
def Echoed (log : List Entry) : Prop :=
  ∃ pre e post, log = pre ++ e :: post ∧ e.echoes ∧ ∀ x ∈ e :: post, x.after.state = .oldest

theorem echoed_snoc {log : List Entry} {e : Entry} :
    Echoed (log ++ [e]) ↔ e.after.state = .oldest ∧ (Echoed log ∨ e.echoes) := by
  rw [or_comm]
  exact since_snoc

/-! ## What the state says of the memory -/

/-- What a machine remembers of the notifier in the states that the notifier speaks of. -/
structure Memory (log : List Entry) (m : Machine) : Prop where
  /-- Between two answers the machine knows what it was told last. -/
  waiting : m.state = .becomingOldest ∨ m.state = .wasOldest → m.noticeReceived = true
  younger : m.state = .younger → m.noticeReceived = false
  oldest : m.terminated = false → m.state = .oldest → (m.noticeReceived = true ↔ Echoed log)
  echoed : Echoed log → m.state = .oldest

theorem memory_nil (p : Profile) : Memory [] p.machine where
  waiting h := by rcases h with h | h <;> cases h
  younger h := by cases h
  oldest _ h := by cases h
  echoed := by
    rintro ⟨pre, e, post, split, -⟩
    simp at split

section Step

variable {log : List Entry} {e : Entry}

/-- Outside `oldest` nothing was told again. -/
theorem Memory.elsewhere (place : e.after.state ≠ .oldest)
    (waiting : e.after.state = .becomingOldest ∨ e.after.state = .wasOldest →
      e.after.noticeReceived = true)
    (younger : e.after.state = .younger → e.after.noticeReceived = false) :
    Memory (log ++ [e]) e.after :=
  ⟨waiting, younger, fun _ oldest => absurd oldest place, fun echo => (echoed_snoc.mp echo).1⟩

/-- Into `oldest`, or within it, only the memory and what was told again are to be compared. -/
theorem Memory.of_oldest (place : e.after.state = .oldest)
    (compare : e.after.terminated = false →
      (e.after.noticeReceived = true ↔ Echoed log ∨ e.echoes)) :
    Memory (log ++ [e]) e.after where
  waiting := by
    rw [place]
    rintro (h | h) <;> cases h
  younger := by
    rw [place]
    nofun
  oldest running _ := by
    rw [compare running, echoed_snoc]
    exact (and_iff_right place).symm
  echoed _ := place

/-- A machine that does not hear the notifier remembers what it did. -/
theorem memory_keeps (h : Memory log e.before) (unheard : e.before.hears e.event = false)
    (same : e.after.state = e.before.state)
    (memory : e.after.noticeReceived = e.before.noticeReceived) :
    Memory (log ++ [e]) e.after := by
  by_cases place : e.after.state = .oldest
  · refine .of_oldest place fun running => ?_
    have running := Entry.running_before running
    have silent : ¬ e.echoes := by
      rintro ⟨oldest, event⟩
      rw [event, Machine.hears_of_oldest running oldest] at unheard
      cases unheard
    rw [memory, h.oldest running (same ▸ place)]
    exact (or_iff_left silent).symm
  · refine .elsewhere place ?_ ?_
    · rw [same, memory]
      exact h.waiting
    · rw [same, memory]
      exact h.younger

/-- A machine that becomes the oldest has not been told so again. -/
theorem memory_hosts (h : Memory log e.before) (before : e.before.state ≠ .oldest)
    (place : e.after.state = .oldest) (memory : e.after.noticeReceived = false) :
    Memory (log ++ [e]) e.after := by
  refine .of_oldest place fun _ => ?_
  rw [memory]
  constructor
  · nofun
  · rintro (echo | echo)
    · exact absurd (h.echoed echo) before
    · exact absurd echo.1 before

theorem memory_snoc (h : Memory log e.before) : Memory (log ++ [e]) e.after := by
  have turn : Machine.NoticeTurn e.before e.event e.after := Machine.handle_noticeTurn
  cases turn with
  | keeps unheard same memory => exact memory_keeps h unheard same memory
  | asks place memory =>
      refine .elsewhere ?_ ?_ (fun _ => memory)
      · rcases place with place | place <;> rw [place] <;> nofun
      · rcases place with place | place <;> rw [place] <;> rintro (h | h) <;> cases h
  | hosts place memory ground =>
      refine memory_hosts h ?_ place memory
      rcases ground with ⟨before, -⟩ | ⟨before | before, -⟩ <;> rw [before] <;> nofun
  | prepares place memory =>
      exact .elsewhere (by rw [place]; nofun) (fun _ => memory) (by rw [place]; nofun)
  | yields place memory =>
      exact .elsewhere (by rw [place]; nofun) (fun _ => memory) (by rw [place]; nofun)
  | leaves place =>
      refine .elsewhere ?_ ?_ ?_
      · rcases place with place | place | place <;> rw [place] <;> nofun
      · rcases place with place | place | place <;> rw [place] <;> rintro (h | h) <;> cases h
      · rcases place with place | place | place <;> rw [place] <;> nofun
  | stops place memory done =>
      refine .of_oldest place fun running => ?_
      rw [done] at running
      cases running
  | hearsItself before event noted =>
      refine .of_oldest (noted ▸ before) fun _ => ?_
      rw [noted]
      exact ⟨fun _ => Or.inr ⟨before, event⟩, fun _ => rfl⟩

end Step

theorem memory_of_history (p : Profile) (xs : List Input) :
    Memory (p.machine.history xs) (p.machine.run xs) := by
  induction xs using List.reverseRecOn with
  | nil => exact memory_nil p
  | append_singleton xs x ih =>
      rw [Machine.history_snoc, Machine.run_snoc]
      exact memory_snoc ih

/-! ## When a word is outstanding -/

section Outstanding

variable {p : Profile} {xs : List Input}

/-- A node that has yet to answer the notifier has asked for nothing. -/
theorem none_outstanding (gated : Gated (p.machine.history xs))
    (place : (p.machine.run xs).state = .becomingOldest ∨
      (p.machine.run xs).state = .wasOldest) :
    requested (p.machine.history xs) = delivered (p.machine.history xs) :=
  (balance_of_gated gated).none_of_memory gated ((memory_of_history p xs).waiting place)

/-- In `younger` and `oldest` the machine remembers just what it was told again as the oldest. -/
theorem remembers_iff (running : (p.machine.run xs).terminated = false)
    (place : (p.machine.run xs).state = .younger ∨ (p.machine.run xs).state = .oldest) :
    (p.machine.run xs).noticeReceived = true ↔ Echoed (p.machine.history xs) := by
  have memory := memory_of_history p xs
  rcases place with place | place
  · rw [memory.younger place]
    constructor
    · nofun
    · intro echo
      rw [memory.echoed echo] at place
      cases place
  · exact memory.oldest running place

/-- **When the node hears of the next change.** If the notifier speaks only when it was asked to, at
most one word is outstanding at any time. One is outstanding in `younger` and `oldest` if and only
if the machine took note of every word that came, and was not told again, since it became the oldest,
that it is. -/
theorem outstanding_iff (gated : Gated (p.machine.history xs))
    (running : (p.machine.run xs).terminated = false)
    (place : (p.machine.run xs).state = .younger ∨ (p.machine.run xs).state = .oldest) :
    delivered (p.machine.history xs) ≤ requested (p.machine.history xs) ∧
      requested (p.machine.history xs) ≤ delivered (p.machine.history xs) + 1 ∧
      (requested (p.machine.history xs) = delivered (p.machine.history xs) + 1 ↔
        (∀ e ∈ p.machine.history xs, e.drops = false) ∧ ¬ Echoed (p.machine.history xs)) := by
  have balance := balance_of_gated gated
  have remembers := remembers_iff running place
  unfold Balance at balance
  refine ⟨gated.delivered_le, by omega, ?_⟩
  -- a word that is not outstanding was dropped, or the machine remembers it
  constructor
  · intro one
    have noted : (p.machine.history xs).countP Entry.drops = 0 := by omega
    refine ⟨fun e he => Bool.eq_false_iff.mpr (List.countP_eq_zero.mp noted e he), ?_⟩
    intro echo
    rw [remembers.mpr echo, Bool.toNat_true] at balance
    omega
  · rintro ⟨noted, silent⟩
    have forgot : (p.machine.run xs).noticeReceived = false :=
      Bool.eq_false_iff.mpr fun memory => silent (remembers.mp memory)
    have none : (p.machine.history xs).countP Entry.drops = 0 :=
      List.countP_eq_zero.mpr fun e he => by simp [noted e he]
    rw [forgot, none, Bool.toNat_false] at balance
    omega

end Outstanding

/-- A node that hosts a unit and hands it over to `b`, while the notifier tells of `b`. -/
def toldWhileHandingOver : List Input :=
  [⟨0, .nth 0, .startNotifier⟩, ⟨0, .nth 1, .initialOldest (some ⟨"a"⟩) true⟩,
    ⟨1, .nth 0, .peer ⟨"b"⟩ .handOverToMe⟩, ⟨2, .nth 0, .oldestChanged (some ⟨"b"⟩)⟩,
    ⟨3, .nth 0, .unitTerminated (.nth 1)⟩]

/-- Such a node waits for the next change and never asks for it. -/
theorem outstanding_toldWhileHandingOver :
    let m := (Profile.mk ⟨"a"⟩ ⟨5, 2⟩ 1000 20000 900000).machine
    let log := m.history toldWhileHandingOver
    Gated log ∧ (m.run toldWhileHandingOver).terminated = false ∧
      (m.run toldWhileHandingOver).state = .younger ∧ requested log ≠ delivered log + 1 := by
  intro m log
  have gated : Gated log := by decide
  have running : (m.run toldWhileHandingOver).terminated = false := by decide
  have place : (m.run toldWhileHandingOver).state = .younger := by decide
  refine ⟨gated, running, place, ?_⟩
  intro one
  have noted := ((outstanding_iff gated running (Or.inl place)).2.2.mp one).1
  have dropped : ∃ e ∈ log, e.drops = true := by decide
  obtain ⟨e, he, drop⟩ := dropped
  exact Bool.false_ne_true ((noted e he).symm.trans drop)

end ClusterSingleton
