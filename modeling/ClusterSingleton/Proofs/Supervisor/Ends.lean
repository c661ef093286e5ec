import Mathlib.Data.List.Nodup
import ClusterSingleton.Supervisor

/-!
# Units and their ends

What each request to a supervisor leaves of the units that it knows. Whatever a unit does, the end
stands in the log exactly when the unit has ended, so that the log tells of units that are forgotten
by now.
-/

namespace ClusterSingleton

namespace ManagedUnit

/-- What a unit can become when it runs: it stays who it is, and ends exactly if it logs its end. -/
structure Ran (u : ManagedUnit) (r : ManagedUnit × List LogLine) : Prop where
  id : r.1.id = u.id
  aborted : r.1.aborted = u.aborted
  ended : r.1.isEnded = true ↔ .dropped ∈ r.2

variable {u : ManagedUnit} {r : ManagedUnit × List LogLine} {now ms : Nat}

theorem ran_finish (lines : List LogLine) : Ran u (u.finish lines) :=
  ⟨rfl, rfl, by simp [finish, isEnded]⟩

/-- A unit that waits for something has not ended, and has logged no end. -/
theorem ran_waiting {v : ManagedUnit} {lines : List LogLine} (id : v.id = u.id)
    (aborted : v.aborted = u.aborted) (waits : v.isEnded = false) (silent : .dropped ∉ lines) :
    Ran u (v, lines) :=
  ⟨id, aborted, iff_of_false (by simp [waits]) silent⟩

/-- A line before that is not the end changes nothing. -/
theorem Ran.cons {line : LogLine} (h : Ran u r) (other : line ≠ .dropped) :
    Ran u (r.1, line :: r.2) :=
  ⟨h.id, h.aborted, h.ended.trans (by simp [Ne.symm other])⟩

theorem ran_sleep {lines : List LogLine} (silent : .dropped ∉ lines) :
    Ran u (u.sleep now ms, lines) :=
  ran_waiting rfl rfl rfl silent

theorem ran_read : Ran u u.read := by
  have silent (ms : List String) : LogLine.dropped ∉ ms.map .message := by simp
  simp only [read]
  split
  · exact ran_finish _
  · exact ran_waiting rfl rfl rfl (silent _)

theorem ran_listen : Ran u (u.listen now) := by
  simp only [listen]
  split
  · exact ran_read
  next s _ =>
    -- whoever ignores or drains has seen the request by now
    have heard : Ran u ({ u with signal := none } : ManagedUnit).read :=
      ⟨ran_read.id, ran_read.aborted, ran_read.ended⟩
    split
    · exact heard.cons nofun
    · exact ran_waiting rfl rfl rfl (by simp)
    · exact ran_finish _

theorem ran_attend : Ran u u.attend := by
  simp only [attend]
  split
  · exact ran_waiting rfl rfl rfl (by simp)
  · exact ran_finish _

theorem ran_begin : Ran u (u.begin now) := by
  simp only [begin]
  split
  · exact ran_finish _
  · exact ran_finish _
  · exact ran_finish _
  · exact ran_sleep (by simp)
  · exact ran_sleep (by simp)
  · exact ran_attend
  · exact ran_listen

theorem ran_wake : Ran u (u.wake now) := by
  simp only [wake]
  split
  · exact ran_listen.cons nofun
  · exact ran_finish _
  · exact ran_finish _

theorem run_of_ended {name : String} (ended : u.isEnded = true) : u.run name now = (u, []) := by
  rw [run, if_pos ended]

theorem ran_run {name : String} (alive : u.isEnded = false) : Ran u (u.run name now) := by
  have idle : Ran u (u, []) := ran_waiting rfl rfl alive (by simp)
  rw [run, if_neg (by simp [alive])]
  split
  · exact ran_finish _
  · split
    · exact ran_begin.cons nofun
    · split
      · exact ran_wake
      · exact idle
    · split
      · exact ran_attend
      · exact ran_listen
    · exact idle

end ManagedUnit

namespace Supervisor

/-- The units whose end was not processed, by their identifiers. -/
def ids (s : Supervisor) : List UnitId := s.units.map ManagedUnit.id

/-- The unit has ended, as far as the log goes back. -/
def HasEnded (s : Supervisor) (id : UnitId) : Prop := (id, .dropped) ∈ s.log

/-- The unit is known, and is to be stopped before it does anything more. -/
def Aborts (s : Supervisor) (id : UnitId) : Prop := ∃ u ∈ s.units, u.id = id ∧ u.aborted = true

/-- The unit is known, and was asked to end in the way of the supervisor, unless it has ended. -/
def Asked (s : Supervisor) (id : UnitId) : Prop :=
  ∃ u ∈ s.units, u.id = id ∧
    (u.isEnded = true ∨
      match s.signal with
      | .stopNow => u.aborted = true
      | .graceful _ => u.signal.isSome = true)

/-- The log misses no end of a known unit. -/
def Logged (s : Supervisor) : Prop := ∀ u ∈ s.units, u.isEnded = true → s.HasEnded u.id

/-- The log is never ahead of a known unit. -/
def Timely (s : Supervisor) : Prop := ∀ u ∈ s.units, s.HasEnded u.id → u.isEnded = true

instance (s : Supervisor) (id : UnitId) : Decidable (s.HasEnded id) :=
  inferInstanceAs (Decidable (_ ∈ s.log))

instance (s : Supervisor) (id : UnitId) : Decidable (s.Aborts id) :=
  inferInstanceAs (Decidable (∃ u ∈ s.units, _))

variable {s s' : Supervisor} {id other : UnitId} {u : ManagedUnit} {now : Nat}

/-! ## Looking a unit up -/

theorem mem_ids : id ∈ s.ids ↔ ∃ u ∈ s.units, u.id = id := List.mem_map

theorem find?_some (h : s.find? id = some u) : u ∈ s.units ∧ u.id = id :=
  ⟨List.mem_of_find?_eq_some h, by simpa using List.find?_some h⟩

theorem isSome_get? : (s.get? id).isSome = true ↔ id ∈ s.ids := by
  rw [get?, Option.isSome_map, find?, List.find?_isSome, mem_ids]
  simp

theorem mem_ended : id ∈ s.ended ↔ ∃ u ∈ s.units, u.isEnded = true ∧ u.id = id := by
  simp [ended, and_assoc]

theorem runningCount_eq (s : Supervisor) : s.runningCount = s.ids.length := by
  rw [runningCount, ids, List.length_map]

theorem mem_modify {f : ManagedUnit → ManagedUnit} :
    u ∈ (s.modify id f).units ↔ ∃ v ∈ s.units, (if v.id = id then f v else v) = u :=
  List.mem_map

/-! ## Requests

What can happen to known units while none is started and none forgotten.
-/

structure Goes (s s' : Supervisor) : Prop where
  ids : s'.ids = s.ids
  /-- The log only grows, by lines of known units. -/
  log : ∃ lines, s'.log = s.log ++ lines ∧ ∀ line ∈ lines, line.1 ∈ s.ids
  aborts : ∀ id, s.Aborts id → s'.Aborts id
  logged : s.Logged → s'.Logged
  timely : s.Timely → s'.Timely

theorem Goes.refl (s : Supervisor) : Goes s s :=
  ⟨rfl, ⟨[], by simp⟩, fun _ h => h, fun h => h, fun h => h⟩

theorem Goes.hasEnded (h : Goes s s') (ended : s.HasEnded id) : s'.HasEnded id := by
  obtain ⟨lines, log, -⟩ := h.log
  rw [HasEnded, log]
  exact List.mem_append_left _ ended

/-- An end that is news is that of a known unit. -/
theorem Goes.hasEnded_cases (h : Goes s s') (ended : s'.HasEnded id) :
    s.HasEnded id ∨ id ∈ s.ids := by
  obtain ⟨lines, log, known⟩ := h.log
  rw [HasEnded, log, List.mem_append] at ended
  exact ended.imp_right (known _)

theorem Goes.trans {t : Supervisor} (h : Goes s s') (h' : Goes s' t) : Goes s t := by
  obtain ⟨lines, log, known⟩ := h.log
  obtain ⟨more, log', known'⟩ := h'.log
  refine ⟨h'.ids.trans h.ids, ⟨lines ++ more, by rw [log', log, List.append_assoc], ?_⟩,
    fun id gone => h'.aborts id (h.aborts id gone), fun logged => h'.logged (h.logged logged),
    fun timely => h'.timely (h.timely timely)⟩
  rw [List.forall_mem_append, ← h.ids]
  exact ⟨h.ids ▸ known, known'⟩

/-- A request to a unit that leaves it who it is, neither ends it nor takes an abortion back. -/
theorem goes_modify {f : ManagedUnit → ManagedUnit} (same : ∀ u, (f u).id = u.id)
    (stage : ∀ u, (f u).isEnded = u.isEnded)
    (aborted : ∀ u, u.aborted = true → (f u).aborted = true) : Goes s (s.modify id f) := by
  have sameIf (u : ManagedUnit) : (if u.id = id then f u else u).id = u.id := by
    split
    · exact same u
    · rfl
  have stageIf (u : ManagedUnit) : (if u.id = id then f u else u).isEnded = u.isEnded := by
    split
    · exact stage u
    · rfl
  refine ⟨?_, ⟨[], by simp [modify]⟩, ?_, ?_, ?_⟩
  · simp [ids, modify, Function.comp_def, sameIf]
  · rintro other ⟨u, mem, rfl, gone⟩
    refine ⟨_, mem_modify.mpr ⟨u, mem, rfl⟩, sameIf u, ?_⟩
    split
    · exact aborted u gone
    · exact gone
  · intro logged v mem ended
    obtain ⟨u, known, rfl⟩ := mem_modify.mp mem
    rw [stageIf] at ended
    rw [sameIf]
    exact logged u known ended
  · intro timely v mem ended
    obtain ⟨u, known, rfl⟩ := mem_modify.mp mem
    rw [sameIf] at ended
    rw [stageIf]
    exact timely u known ended

theorem goes_terminate : Goes s (s.terminate id) := by
  unfold terminate
  split
  · exact goes_modify (fun _ => rfl) (fun _ => rfl) (fun _ _ => rfl)
  · refine goes_modify (fun u => ?_) (fun u => ?_) (fun u gone => ?_)
    all_goals
      split
      · first | rfl | exact gone
      · first | rfl | exact gone

/-- **A known unit that is to end is asked to**, unless it has ended. -/
theorem asked_terminate (known : id ∈ s.ids) : (s.terminate id).Asked id := by
  obtain ⟨u, mem, rfl⟩ := mem_ids.mp known
  unfold terminate
  cases way : s.signal with
  | stopNow =>
      refine ⟨_, mem_modify.mpr ⟨u, mem, rfl⟩, by rw [if_pos rfl], Or.inr ?_⟩
      simp [modify, way]
  | graceful text =>
      refine ⟨_, mem_modify.mpr ⟨u, mem, rfl⟩, ?_, ?_⟩
      · rw [if_pos rfl]
        split <;> rfl
      · simp only [modify, way, if_true]
        split
        next done => simpa using done
        next => exact Or.inr rfl

/-- A request to another unit does not matter to a unit that was asked, and the same one again changes
nothing. -/
theorem Asked.terminate (h : s.Asked other) : (s.terminate id).Asked other := by
  obtain ⟨u, mem, rfl, asked⟩ := h
  by_cases same : u.id = id
  · exact same ▸ asked_terminate (mem_ids.mpr ⟨u, mem, rfl⟩)
  · unfold Supervisor.terminate
    split
    all_goals exact ⟨u, mem_modify.mpr ⟨u, mem, if_neg same⟩, rfl, asked⟩

theorem goes_tell {message : String} : Goes s (s.tell id message) := by
  unfold tell
  split
  · exact goes_modify (fun _ => rfl) (fun _ => rfl) (fun _ gone => gone)
  · exact .refl s

theorem goes_abortAll : Goes s s.abortAll := by
  refine ⟨?_, ⟨[], by simp [abortAll]⟩, ?_, ?_, ?_⟩
  · simp [ids, abortAll, Function.comp_def]
  · rintro other ⟨u, mem, rfl, -⟩
    exact ⟨_, List.mem_map_of_mem mem, rfl, rfl⟩
  · intro logged v mem ended
    obtain ⟨u, known, rfl⟩ := List.mem_map.mp mem
    exact logged u known ended
  · intro timely v mem ended
    obtain ⟨u, known, rfl⟩ := List.mem_map.mp mem
    exact timely u known ended

/-- Whoever was asked to end still was when all units are stopped. -/
theorem Asked.abortAll (h : s.Asked id) : s.abortAll.Asked id := by
  obtain ⟨u, mem, rfl, asked⟩ := h
  refine ⟨_, List.mem_map_of_mem mem, rfl, asked.imp_right fun way => ?_⟩
  unfold Supervisor.abortAll
  split at way
  next stops => simp [stops]
  next text graceful => simpa [graceful] using way

theorem aborts_abortAll (known : id ∈ s.ids) : s.abortAll.Aborts id := by
  obtain ⟨u, mem, rfl⟩ := mem_ids.mp known
  exact ⟨_, List.mem_map_of_mem mem, rfl, rfl⟩

/-- No two known units have one identifier. -/
def Distinct (s : Supervisor) : Prop := s.ids.Nodup

theorem Distinct.eq {v : ManagedUnit} (h : s.Distinct) (one : u ∈ s.units) (two : v ∈ s.units)
    (same : u.id = v.id) : u = v :=
  List.inj_on_of_nodup_map h one two same

/-- A unit that was alive becomes what running has made of it, and what it logs is its own. -/
theorem goes_become {v : ManagedUnit} {lines : List LogLine} (distinct : s.Distinct)
    (known : u ∈ s.units) (alive : u.isEnded = false) (ran : ManagedUnit.Ran u (v, lines)) :
    Goes s { s.modify u.id (fun _ => v) with
      log := s.log ++ lines.map (fun line => (u.id, line)) } := by
  have sameIf (w : ManagedUnit) : (if w.id = u.id then v else w).id = w.id := by
    split
    next same => exact ran.id.trans same.symm
    · rfl
  have ended_iff (w : ManagedUnit) :
      (w.id, LogLine.dropped) ∈ s.log ++ lines.map (fun line => (u.id, line)) ↔
        s.HasEnded w.id ∨ w.id = u.id ∧ .dropped ∈ lines := by
    simp [HasEnded, and_comm, eq_comm]
  refine ⟨?_, ⟨_, rfl, ?_⟩, ?_, ?_, ?_⟩
  · simp [ids, modify, Function.comp_def, sameIf]
  · intro line mem
    obtain ⟨_, -, rfl⟩ := List.mem_map.mp mem
    exact mem_ids.mpr ⟨u, known, rfl⟩
  · rintro other ⟨w, mem, rfl, gone⟩
    refine ⟨_, mem_modify.mpr ⟨w, mem, rfl⟩, sameIf w, ?_⟩
    split
    next same =>
      obtain rfl := distinct.eq mem known same
      exact ran.aborted.trans gone
    · exact gone
  · intro logged w' mem ended
    obtain ⟨w, here, rfl⟩ := mem_modify.mp mem
    rw [HasEnded, sameIf, ended_iff]
    split at ended
    next same => exact Or.inr ⟨same, ran.ended.mp ended⟩
    · exact Or.inl (logged w here ended)
  · intro timely w' mem ended
    obtain ⟨w, here, rfl⟩ := mem_modify.mp mem
    rw [HasEnded, sameIf, ended_iff] at ended
    split
    next same =>
      obtain rfl := distinct.eq here known same
      rcases ended with early | ⟨-, now⟩
      · rw [timely w here early] at alive
        cases alive
      · exact ran.ended.mpr now
    next apart => exact timely w here (ended.resolve_right fun h => apart h.1)

theorem goes_runUnit (distinct : s.Distinct) : Goes s (s.runUnit id now) := by
  unfold runUnit
  split
  · exact .refl s
  next u found =>
    obtain ⟨known, rfl⟩ := find?_some found
    cases alive : u.isEnded with
    | false => exact goes_become distinct known alive (ManagedUnit.ran_run alive)
    | true =>
        have idle : s.modify u.id (fun _ => u) = s := by
          have still (v : ManagedUnit) (mem : v ∈ s.units) :
              (if v.id = u.id then u else v) = v := by
            split
            next same => exact (distinct.eq mem known same).symm
            · rfl
          rw [modify, List.map_congr_left still, List.map_id']
        simp only [ManagedUnit.run_of_ended alive, idle, List.map_nil, List.append_nil]
        exact .refl s

theorem goes_endUnit (distinct : s.Distinct) : Goes s (s.endUnit id) := by
  unfold endUnit
  split
  · exact .refl s
  next u found =>
    split
    · exact .refl s
    next alive =>
      exact goes_become distinct (find?_some found).1 (Bool.not_eq_true _ ▸ alive)
        (ManagedUnit.ran_finish [])

theorem Goes.distinct (h : Goes s s') (distinct : s.Distinct) : s'.Distinct := by
  rw [Distinct, h.ids]
  exact distinct

/-! ## Coming and going -/

@[simp] theorem ids_reap : (s.reap id).ids = s.ids.filter (· ≠ id) := by
  rw [ids, ids, reap, List.filter_map]
  rfl

@[simp] theorem log_reap : (s.reap id).log = s.log := rfl

theorem ids_startAs {b : Behaviour} :
    (s.startAs id b).ids = s.ids.filter (· ≠ id) ++ [id] := by
  rw [startAs, ids, List.map_append, ids, List.filter_map]
  rfl

@[simp] theorem ids_start : (s.start id).ids = s.ids.filter (· ≠ id) ++ [id] := ids_startAs

@[simp] theorem log_start : (s.start id).log = s.log := rfl

theorem Distinct.reap (h : s.Distinct) : (s.reap id).Distinct := by
  rw [Distinct, ids_reap]
  exact h.filter _

theorem Distinct.startAs {b : Behaviour} (h : s.Distinct) : (s.startAs id b).Distinct := by
  rw [Distinct, ids_startAs]
  exact (h.filter _).append (List.nodup_singleton id) (by simp)

theorem Logged.reap (h : s.Logged) : (s.reap id).Logged :=
  fun u mem ended => h u (List.mem_filter.mp mem).1 ended

theorem Timely.reap (h : s.Timely) : (s.reap id).Timely :=
  fun u mem ended => h u (List.mem_filter.mp mem).1 ended

/-- A unit that is started is known, and so are all others that were. -/
theorem mem_units_startAs {b : Behaviour} (mem : u ∈ (s.startAs id b).units) :
    u ∈ s.units ∧ u.id ≠ id ∨ u = .create id b := by
  simpa [Supervisor.startAs] using mem

theorem Logged.startAs {b : Behaviour} (h : s.Logged) : (s.startAs id b).Logged := by
  intro u mem ended
  rcases mem_units_startAs mem with ⟨known, -⟩ | rfl
  · exact h u known ended
  · cases ended

/-- The identifier of a unit that is started must not be that of one that has ended. -/
theorem Timely.startAs {b : Behaviour} (h : s.Timely) (fresh : ¬ s.HasEnded id) :
    (s.startAs id b).Timely := by
  intro u mem ended
  rcases mem_units_startAs mem with ⟨known, -⟩ | rfl
  · exact h u known ended
  · exact absurd ended fresh

/-- A unit that is to be stopped stays so until it is forgotten or replaced. -/
theorem Aborts.reap (h : s.Aborts other) (apart : other ≠ id) : (s.reap id).Aborts other := by
  obtain ⟨u, mem, rfl, gone⟩ := h
  exact ⟨u, List.mem_filter.mpr ⟨mem, by simpa using apart⟩, rfl, gone⟩

theorem Asked.startAs {b : Behaviour} (h : s.Asked other) (apart : other ≠ id) :
    (s.startAs id b).Asked other := by
  obtain ⟨u, mem, rfl, asked⟩ := h
  exact ⟨u, List.mem_append_left _ (List.mem_filter.mpr ⟨mem, by simpa using apart⟩), rfl, asked⟩

theorem Aborts.startAs {b : Behaviour} (h : s.Aborts other) (apart : other ≠ id) :
    (s.startAs id b).Aborts other := by
  obtain ⟨u, mem, rfl, gone⟩ := h
  refine ⟨u, List.mem_append_left _ (List.mem_filter.mpr ⟨mem, by simpa using apart⟩), rfl, gone⟩

end Supervisor

end ClusterSingleton
