import Mathlib.Tactic.ByContra
import ClusterSingleton.Proofs.Units.Account

/-!
# The life of a unit

One machine, and any events at any times, forged, repeated or stale. `unit_lifecycle` says that
units follow one another: none is started before the end of the one before it was reported, each is
told to end at most once, a hand-over is promised while the unit is ending and declared done once,
after its end.
-/

namespace ClusterSingleton

namespace Account

variable {a : Option Account} {e : Entry}

/-! ## One step -/

theorem WorkOf.started (h : WorkOf a e) : e.started = [] ∨
    ∃ u, e.turn.unitWork = [.startUnit u] ∧ ∀ x, a = some x → x.reported = true := by
  cases h with
  | nothing work => exact Or.inl (started_of_work work)
  | starts work ended => exact Or.inr ⟨_, work, ended⟩
  | tells work =>
      refine Or.inl ?_
      rcases work with work | ⟨b, work⟩ <;> rw [started_of_work work] <;> rfl
  | promises work => exact Or.inl (started_of_work work)
  | handsOver work => exact Or.inl (started_of_work work)

/-- A step that starts a unit starts no other, and the end of the one before it was reported. -/
theorem WorkOf.of_starts (h : WorkOf a e) {v : UnitId} (start : e.starts v) :
    e.turn.unitWork = [.startUnit v] ∧ ∀ x, a = some x → x.reported = true := by
  have mem := Entry.mem_started.mpr start
  rcases h.started with none | ⟨u, work, ended⟩
  · rw [none] at mem
    cases mem
  · rw [started_of_work work] at mem
    obtain rfl : v = u := by simpa using mem
    exact ⟨work, ended⟩

theorem WorkOf.of_tells (h : WorkOf a e) {u : UnitId} (tell : e.tells u) :
    a = some ⟨u, false, false, false⟩ ∧ ¬ e.reports u ∧
      e.effects.count (.terminateUnit u) = 1 := by
  have once : ∀ work, e.turn.unitWork = work →
      e.effects.count (.terminateUnit u) = work.count (.terminateUnit u) := by
    rintro work rfl
    exact (List.count_filter rfl).symm
  cases h with
  | nothing work => simp [tells_of_work work] at tell
  | starts work => simp [tells_of_work work] at tell
  | promises work => simp [tells_of_work work] at tell
  | handsOver work => simp [tells_of_work work] at tell
  | @tells v work current silent =>
      rcases work with work | ⟨b, work⟩
      · obtain rfl : u = v := by simpa [tells_of_work work] using tell
        exact ⟨current, silent, by rw [once _ work]; simp⟩
      · obtain rfl : u = v := by simpa [tells_of_work work] using tell
        exact ⟨current, silent, by rw [once _ work]; simp⟩

theorem WorkOf.of_promises (h : WorkOf a e) (promise : e.sends .handOverInProgress) :
    ∃ x, a = some x ∧ x.reported = false ∧ ¬ e.reports x.unit ∧
      (x.told = true ∨ e.tells x.unit) := by
  cases h with
  | nothing work => simp [sends_of_work work (Or.inl rfl)] at promise
  | starts work => simp [sends_of_work work (Or.inl rfl)] at promise
  | handsOver work => simp [sends_of_work work (Or.inl rfl)] at promise
  | tells work current silent =>
      rcases work with work | ⟨b, work⟩
      · simp [sends_of_work work (Or.inl rfl)] at promise
      · exact ⟨_, current, rfl, silent, Or.inr (by rw [tells_of_work work]; simp)⟩
  | promises work current silent => exact ⟨_, current, rfl, silent, Or.inl rfl⟩

theorem WorkOf.of_handsOver (h : WorkOf a e) (done : e.sends .handOverDone) :
    e.messages.count .handOverDone = 1 ∧ ∃ x, a = some x ∧ x.handedOver = false ∧
      (x.reported = true ∨ e.reports x.unit) := by
  cases h with
  | nothing work => simp [sends_of_work work (Or.inr rfl)] at done
  | starts work => simp [sends_of_work work (Or.inr rfl)] at done
  | promises work => simp [sends_of_work work (Or.inr rfl)] at done
  | tells work =>
      rcases work with work | ⟨b, work⟩
      · simp [sends_of_work work (Or.inr rfl)] at done
      · simp [sends_of_work work (Or.inr rfl)] at done
  | handsOver work current first ended =>
      exact ⟨by rw [messages_of_work work (Or.inr rfl)]; rfl, _, current, first, ended⟩

end Account

/-! ## Whole histories -/

/-- The unit was started last in the history, and `q` is what came after its start. -/
def Current (log : List Entry) (u : UnitId) (q : List Entry) : Prop :=
  ∃ p s, log = p ++ s :: q ∧ s.starts u ∧ ∀ x ∈ q, x.started = []

/-- No two starts of the history are of one unit. -/
def FreshUnits (log : List Entry) : Prop := (log.flatMap Entry.started).Nodup

/-- What an account says, said of the history itself. -/
theorem Account.current_of_history {log : List Entry} {a : Account}
    (h : Account.ofHistory log = some a) :
    ∃ q, Current log a.unit q ∧
      (a.told = true ↔ ∃ x ∈ q, x.tells a.unit) ∧
      (a.reported = true ↔ ∃ x ∈ q, x.reports a.unit) ∧
      (a.handedOver = true ↔ ∃ x ∈ q, x.sends .handOverDone) := by
  induction log using List.reverseRecOn generalizing a with
  | nil => cases h
  | append_singleton log e ih =>
      rw [Account.ofHistory_snoc] at h
      cases started : e.started with
      | cons u us =>
          obtain rfl : ⟨u, false, false, false⟩ = a := by simpa [Account.next, started] using h
          have start : e.starts u := Entry.mem_started.mp (by rw [started]; simp)
          exact ⟨[], ⟨log, e, rfl, start, by simp⟩, by simp, by simp, by simp⟩
      | nil =>
          cases before : Account.ofHistory log with
          | none =>
              rw [before, Account.next_none_of_started_nil started] at h
              cases h
          | some x =>
              rw [before, Account.next_of_started_nil started] at h
              obtain rfl := Option.some.inj h
              obtain ⟨q, ⟨p, s, rfl, start, last⟩, told, reported, handedOver⟩ := ih before
              refine ⟨q ++ [e], ⟨p, s, by simp, start, ?_⟩, ?_, ?_, ?_⟩
              · intro y hy
                rcases List.mem_append.mp hy with hy | hy
                · exact last y hy
                · rw [List.mem_singleton.mp hy, started]
              · simp [told, or_and_right, exists_or]
              · simp [reported, or_and_right, exists_or]
              · simp [handedOver, or_and_right, exists_or]

/-- What the lifecycle asks of a step after the history `pre`. -/
structure Lifecycle (pre : List Entry) (e : Entry) : Prop where
  /-- A unit is started alone, and after the end of each earlier one was reported. -/
  starts : ∀ v, e.starts v →
    e.started = [v] ∧ ∀ p s q u, pre = p ++ s :: q → s.starts u → ∃ r ∈ q, r.reports u
  /-- A unit is told to end once, after its start and before a report of its end. A report that came
  before the start is a forgery that no later step heeds. -/
  tells : ∀ u, e.tells u →
    e.effects.count (.terminateUnit u) = 1 ∧ (∀ x ∈ pre, ¬ x.tells u) ∧
      ∃ p s q, pre = p ++ s :: q ∧ s.starts u ∧ ∀ x ∈ q ++ [e], ¬ x.reports u
  /-- A hand-over is promised while the unit that was started last is ending. -/
  promises : e.sends .handOverInProgress →
    ∃ u q, Current pre u q ∧ (∃ x ∈ q ++ [e], x.tells u) ∧ ∀ x ∈ q ++ [e], ¬ x.reports u
  /-- A hand-over is declared done once for the unit that was started last, after its end. -/
  handsOver : e.sends .handOverDone →
    e.messages.count .handOverDone = 1 ∧
      ∃ u q, Current pre u q ∧ (∃ x ∈ q ++ [e], x.reports u) ∧ ∀ x ∈ q, ¬ x.sends .handOverDone

section History

variable {p : Profile} {xs : List Input} {pre post : List Entry} {e : Entry}

theorem workOf_split (split : p.machine.history xs = pre ++ e :: post) :
    Account.WorkOf (Account.ofHistory pre) e := by
  obtain ⟨ys, zs, -, rfl, before⟩ := Machine.history_split split
  apply Account.workOf
  rw [before]
  exact Account.accounts_agree p ys

/-- A unit whose end was not reported since its start is the one that was started last. -/
theorem current_of_unreported {s : Entry} {q : List Entry} {u : UnitId}
    (split : p.machine.history xs = pre ++ s :: q) (start : s.starts u)
    (silent : ∀ r ∈ q, ¬ r.reports u) :
    ∃ a, Account.ofHistory (p.machine.history xs) = some a ∧ a.unit = u ∧ a.reported = false := by
  induction xs using List.reverseRecOn generalizing q with
  | nil => simp at split
  | append_singleton xs x ih =>
      have work := workOf_split (Machine.history_snoc p.machine xs x)
      rw [Machine.history_snoc] at split
      rw [Machine.history_snoc, Account.ofHistory_snoc]
      rcases split_snoc split with ⟨-, rfl, rfl⟩ | ⟨q', rfl, earlier⟩
      · rw [Account.next_of_start (work.of_starts start).1]
        exact ⟨_, rfl, rfl, rfl⟩
      · obtain ⟨a, current, rfl, open_⟩ :=
          ih earlier (fun r hr => silent r (List.mem_append_left _ hr))
        rw [current] at work
        rcases work.started with none | ⟨v, -, ended⟩
        · rw [current, Account.next_of_started_nil none]
          have quiet := silent _ (List.mem_append_right q' (List.mem_singleton_self _))
          exact ⟨_, rfl, rfl, by simp [open_, quiet]⟩
        · rw [ended a rfl] at open_
          cases open_

/-- A unit that is told to end was started before. -/
theorem started_of_tells {u : UnitId} (split : p.machine.history xs = pre ++ e :: post)
    (tell : e.tells u) : u ∈ pre.flatMap Entry.started := by
  obtain ⟨current, -⟩ := (workOf_split split).of_tells tell
  obtain ⟨q, ⟨b, s, rfl, start, -⟩, -⟩ := Account.current_of_history current
  rw [List.mem_flatMap]
  exact ⟨s, by simp, Entry.mem_started.mpr start⟩

/-- With fresh identifiers a unit was not told to end before its start. -/
theorem not_tells_of_fresh {b c : List Entry} {s x : Entry} {u : UnitId}
    (fresh : FreshUnits (b ++ s :: c)) (start : s.starts u)
    (split : p.machine.history xs = b ++ s :: c) (hx : x ∈ b ++ [s]) : ¬ x.tells u := by
  intro tell
  obtain ⟨b₁, b₂, hb⟩ := List.append_of_mem hx
  have place : p.machine.history xs = b₁ ++ x :: (b₂ ++ c) := by
    rw [split, List.append_cons b s c, hb]
    simp
  have early := started_of_tells place tell
  have within : u ∈ b.flatMap Entry.started := by
    rcases split_snoc hb with ⟨rfl, -, -⟩ | ⟨b', -, rfl⟩
    · exact early
    · rw [List.flatMap_append]
      exact List.mem_append_left _ early
  unfold FreshUnits at fresh
  rw [List.flatMap_append, List.flatMap_cons] at fresh
  have apart := (List.nodup_append.mp fresh).2.2
  exact apart u within u (List.mem_append_left _ (Entry.mem_started.mpr start)) rfl

end History

/-- **Units follow one another.** Whatever events a machine is handed, every step keeps the
lifecycle of its units. -/
theorem unit_lifecycle (p : Profile) (xs : List Input) (fresh : FreshUnits (p.machine.history xs))
    {pre post : List Entry} {e : Entry} (split : p.machine.history xs = pre ++ e :: post) :
    Lifecycle pre e := by
  have work := workOf_split split
  constructor
  case starts =>
    intro v start
    obtain ⟨alone, ended⟩ := work.of_starts start
    refine ⟨Account.started_of_work alone, ?_⟩
    intro b s q u hpre hs
    -- a unit without a report since its start would still be the current one, and bar the way
    by_contra unreported
    have silent : ∀ r ∈ q, ¬ r.reports u := fun r hr hu => unreported ⟨r, hr, hu⟩
    obtain ⟨ys, zs, -, rfl, -⟩ := Machine.history_split split
    obtain ⟨a, current, -, open_⟩ := current_of_unreported hpre hs silent
    rw [ended a current] at open_
    cases open_
  case tells =>
    intro u tell
    obtain ⟨current, silent, once⟩ := work.of_tells tell
    obtain ⟨q, ⟨b, s, rfl, start, -⟩, told, reported, -⟩ := Account.current_of_history current
    refine ⟨once, ?_, b, s, q, rfl, start, ?_⟩
    -- until its start the identifier was fresh, and since then the account knows
    · intro x hx
      rw [List.append_cons, List.mem_append] at hx
      rcases hx with hx | hx
      · have place : p.machine.history xs = b ++ s :: (q ++ e :: post) := by simpa using split
        exact not_tells_of_fresh (place ▸ fresh) start place hx
      · intro again
        exact Bool.false_ne_true (told.mpr ⟨x, hx, again⟩)
    · intro x hx
      rcases List.mem_append.mp hx with hx | hx
      · intro report
        exact Bool.false_ne_true (reported.mpr ⟨x, hx, report⟩)
      · rw [List.mem_singleton.mp hx]
        exact silent
  case promises =>
    intro promise
    obtain ⟨a, current, open_, silent, told⟩ := work.of_promises promise
    obtain ⟨q, last, tells, reported, -⟩ := Account.current_of_history current
    refine ⟨a.unit, q, last, ?_, ?_⟩
    · rcases told with told | tell
      · obtain ⟨x, hx, tell⟩ := tells.mp told
        exact ⟨x, List.mem_append_left _ hx, tell⟩
      · exact ⟨e, by simp, tell⟩
    · intro x hx
      rcases List.mem_append.mp hx with hx | hx
      · intro report
        rw [reported.mpr ⟨x, hx, report⟩] at open_
        cases open_
      · rw [List.mem_singleton.mp hx]
        exact silent
  case handsOver =>
    intro done
    obtain ⟨once, a, current, first, ended⟩ := work.of_handsOver done
    obtain ⟨q, last, -, reported, handedOver⟩ := Account.current_of_history current
    refine ⟨once, a.unit, q, last, ?_, ?_⟩
    · rcases ended with ended | report
      · obtain ⟨x, hx, report⟩ := reported.mp ended
        exact ⟨x, List.mem_append_left _ hx, report⟩
      · exact ⟨e, by simp, report⟩
    · intro x hx again
      rw [handedOver.mpr ⟨x, hx, again⟩] at first
      cases first

instance (log : List Entry) : Decidable (FreshUnits log) :=
  inferInstanceAs (Decidable (List.Nodup _))

/-- A node that hosts a unit, hands it over to `b`, and is the oldest again. -/
def handOverAndBack : List Input :=
  [⟨0, .nth 0, .startNotifier⟩, ⟨0, .nth 1, .initialOldest (some ⟨"a"⟩) true⟩,
    ⟨1, .nth 0, .peer ⟨"b"⟩ .handOverToMe⟩, ⟨2, .nth 0, .unitTerminated (.nth 1)⟩,
    ⟨3, .nth 0, .oldestChanged (some ⟨"a"⟩)⟩]

/-- The second unit of such a node starts when `b` is done with its own. -/
theorem unit_lifecycle_handOverAndBack :
    let m := (Profile.mk ⟨"a"⟩ ⟨5, 2⟩ 1000 20000 900000).machine
    let back : Input := ⟨4, .nth 2, .peer ⟨"b"⟩ .handOverDone⟩
    FreshUnits (m.history (handOverAndBack ++ [back])) ∧
      (Entry.mk back (m.run handOverAndBack)).starts (.nth 2) ∧
      Lifecycle (m.history handOverAndBack) ⟨back, m.run handOverAndBack⟩ := by
  intro m back
  have fresh : FreshUnits (m.history (handOverAndBack ++ [back])) := by decide
  have start : (Entry.mk back (m.run handOverAndBack)).starts (.nth 2) := by decide
  exact ⟨fresh, start,
    unit_lifecycle _ (handOverAndBack ++ [back]) fresh (Machine.history_snoc m _ back)⟩

end ClusterSingleton
