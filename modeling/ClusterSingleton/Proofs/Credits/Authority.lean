import ClusterSingleton.Proofs.Credits.Appointed
import ClusterSingleton.Proofs.Units.Account

/-!
# The authority to start a unit

A machine starts its unit at once when it is named, or much later, after requests that were sent
again, a take-over by another node or a removal that had to be waited for. In between no word of the
notifier can come, so `start_authority` says of every start that the last word named the machine
itself, and that one of the five grounds for a start holds.
-/

namespace ClusterSingleton

open Machine (Grounds)

/-- On grounds of its own, or because it is named now, the machine was named last. -/
theorem named_of_grounds {log : List Entry} {e : Entry} {m : Machine}
    (before : Appointed log e.before) (grounds : Grounds e.before e.now e.event m) :
    namedLast (log ++ [e]) = some (some e.before.self) := by
  rcases grounds.notice with ⟨becoming, unnamed⟩ | ⟨-, named⟩
  · rw [namedLast_silent (Event.silent_of_unnamed unnamed)]
    exact before.becoming becoming
  · exact namedLast_named named

/-- **No unit is started without authority.** As long as the notifier speaks only when it was asked
to, whatever else happens and whenever it does: who starts a unit was named by the last word, and is
safe from the start, has nobody before it, was handed the unit by the oldest before it, or knows
that one to be removed. -/
theorem start_authority {p : Profile} {xs : List Input} (gated : Gated (p.machine.history xs))
    {pre post : List Entry} {e : Entry} (place : p.machine.history xs = pre ++ e :: post)
    {u : UnitId} (start : e.starts u) :
    namedLast (pre ++ [e]) = some (some p.self) ∧ ∃ m, Grounds e.before e.now e.event m := by
  obtain ⟨m, grounds⟩ := Entry.grounds_of_starts start
  refine ⟨?_, m, grounds⟩
  obtain ⟨ys, zs, -, rfl, before⟩ := Machine.history_split place
  have earlier : Gated (p.machine.history ys) := (place ▸ gated).of_append
  have self : e.before.self = p.self := by
    rw [before]
    exact Machine.run_self _ _
  rw [← self]
  refine named_of_grounds ?_ grounds
  rw [before]
  exact appointed_of_gated earlier

/-- A node that is named while others are about to leave. It has heard of the removal of `a`, whose
last words reach it later; `a` is asked and never answers. -/
def answeredByNobody : List Input :=
  [⟨0, .nth 0, .memberRemoved ⟨"a"⟩⟩, ⟨1, .nth 0, .startNotifier⟩,
    ⟨2, .nth 0, .initialOldest (some ⟨"b"⟩) false⟩, ⟨3, .nth 0, .peer ⟨"a"⟩ .takeOverFromMe⟩,
    ⟨4, .nth 0, .peer ⟨"c"⟩ .handOverDone⟩, ⟨5, .nth 0, .handOverRetry 5⟩]

/-- Such a node starts the unit when it gives up to ask. -/
theorem start_authority_answeredByNobody :
    let m := (Profile.mk ⟨"b"⟩ ⟨5, 2⟩ 1000 20000 900000).machine
    let last : Input := ⟨6, .nth 1, .handOverRetry 6⟩
    let log := m.history answeredByNobody
    Gated (m.history (answeredByNobody ++ [last])) ∧
      (Entry.mk last (m.run answeredByNobody)).starts (.nth 1) ∧
      namedLast (log ++ [⟨last, m.run answeredByNobody⟩]) = some (some ⟨"b"⟩) := by
  intro m last log
  have gated : Gated (m.history (answeredByNobody ++ [last])) := by decide
  have start : (Entry.mk last (m.run answeredByNobody)).starts (.nth 1) := by decide
  exact ⟨gated, start, (start_authority gated (Machine.history_snoc m _ last) start).1⟩

end ClusterSingleton
