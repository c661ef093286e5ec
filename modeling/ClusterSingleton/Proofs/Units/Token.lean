import ClusterSingleton.Proofs.Machine.Ensemble
import ClusterSingleton.Proofs.Units.Lifecycle

/-!
# The token

The right to run the unit is a token. A start without a `handOverDone` makes one, a `handOverDone`
carries one from a machine whose unit has ended to the next, and a unit that is alive holds one.
`live_le_unilateral` says that an ensemble has no more units alive than starts that made a token.
-/

namespace ClusterSingleton

/-- The units that a history starts and whose end it does not report afterwards. -/
def liveUnits (log : List Entry) : List UnitId :=
  log.foldl (fun us e => us.filter (fun u => ¬ e.reports u) ++ e.started) []

theorem liveUnits_snoc (log : List Entry) (e : Entry) :
    liveUnits (log ++ [e]) = (liveUnits log).filter (fun u => ¬ e.reports u) ++ e.started :=
  List.foldl_concat ..

namespace Entry

def isStart (e : Entry) : Bool := !e.started.isEmpty

/-- A start that no `handOverDone` brought about. -/
def isUnilateral (e : Entry) : Bool := e.isStart && !e.receives .handOverDone

end Entry

namespace Account

/-- The unit whose end is still to be reported. -/
def open? : Option Account → List UnitId
  | some a => if a.reported then [] else [a.unit]
  | none => []

/-- Whether the unit that was started last is still to be handed over. -/
def owed : Option Account → Nat
  | some a => if a.handedOver then 0 else 1
  | none => 0

theorem owed_le_one (a : Option Account) : owed a ≤ 1 := by
  cases a with
  | none => exact Nat.zero_le 1
  | some a =>
      simp only [owed]
      split <;> omega

/-- A unit that is alive is still to be handed over. -/
theorem Agrees.open_le_owed {m : Machine} {a : Option Account} (h : Agrees m a) :
    (open? a).length ≤ owed a := by
  cases a with
  | none => exact Nat.le_refl 0
  | some a =>
      cases reported : a.reported with
      | true => simp [open?, reported]
      | false =>
          have kept : a.handedOver = false := by
            cases gone : a.handedOver with
            | false => rfl
            | true =>
                rw [h.handedOver a rfl gone] at reported
                cases reported
          simp [open?, owed, reported, kept]

theorem open?_next {a : Option Account} {e : Entry} (h : WorkOf a e) :
    open? (next a e) = (open? a).filter (fun u => ¬ e.reports u) ++ e.started := by
  rcases h.started with none | ⟨u, work, ended⟩
  · cases a with
    | none => rw [next_none_of_started_nil none, none]; rfl
    | some x =>
        rw [next_of_started_nil none, none]
        cases reported : x.reported with
        | true => simp [open?, reported]
        | false => by_cases report : e.reports x.unit <;> simp [open?, reported, report]
  · rw [next_of_start work, started_of_work work]
    cases a with
    | none => rfl
    | some x => simp [open?, ended x rfl]

/-- **One step of the token.** What a step hands over or starts to owe, it owed or starts. -/
theorem owed_next {a : Option Account} {e : Entry} (h : WorkOf a e) :
    e.messages.count .handOverDone + owed (next a e) ≤
      owed a + if e.isStart then 1 else 0 := by
  have none_sent : ∀ work, e.turn.unitWork = work → (∀ b, .send b .handOverDone ∉ work) →
      e.messages.count .handOverDone = 0 := by
    intro work hw hb
    rw [List.count_eq_zero]
    intro sent
    obtain ⟨b, mem⟩ := (sends_of_work hw (Or.inr rfl)).mp sent
    exact hb b mem
  cases h with
  | nothing work =>
      rw [none_sent _ work (by simp)]
      cases a with
      | none => rw [next_none_of_started_nil (started_of_work work)]; simp [owed]
      | some x =>
          rw [next_of_noWork work]
          simp only [owed]
          omega
  | starts work =>
      have start : e.isStart = true := by rw [Entry.isStart, started_of_work work]; rfl
      rw [none_sent _ work (by simp), start]
      have := owed_le_one (next a e)
      simp only [if_true]
      omega
  | tells work current silent =>
      rw [current, next_of_tell work silent]
      rcases work with work | ⟨b, work⟩
      · rw [none_sent _ work (by simp)]
        simp [owed]
      · rw [none_sent _ work (by simp)]
        simp [owed]
  | promises work current silent =>
      rw [current, next_of_promise work silent, none_sent _ work (by simp)]
      simp [owed]
  | @handsOver x b work current first ended =>
      have one : e.messages.count .handOverDone = 1 := by
        rw [messages_of_work work (Or.inr rfl)]
        rfl
      have sends : e.sends .handOverDone := (sends_of_work work (Or.inr rfl)).mpr ⟨b, by simp⟩
      rw [current, next_of_started_nil (started_of_work work), one]
      simp [owed, first, sends]

end Account

/-! ## One machine -/

section Machine

variable (p : Profile) (xs : List Input)

theorem liveUnits_eq_open :
    liveUnits (p.machine.history xs) =
      Account.open? (Account.ofHistory (p.machine.history xs)) := by
  induction xs using List.reverseRecOn with
  | nil => rfl
  | append_singleton xs x ih =>
      rw [Machine.history_snoc, liveUnits_snoc, ih, Account.ofHistory_snoc]
      exact (Account.open?_next (workOf_split (Machine.history_snoc p.machine xs x))).symm

theorem handedOver_add_owed_le :
    ((p.machine.history xs).flatMap Entry.messages).count .handOverDone +
        Account.owed (Account.ofHistory (p.machine.history xs)) ≤
      (p.machine.history xs).countP Entry.isStart := by
  induction xs using List.reverseRecOn with
  | nil => exact Nat.le_refl 0
  | append_singleton xs x ih =>
      have step := Account.owed_next (workOf_split (Machine.history_snoc p.machine xs x))
      rw [Machine.history_snoc, Account.ofHistory_snoc, List.flatMap_append, List.count_append,
        List.countP_append, List.countP_singleton]
      simp only [List.flatMap_cons, List.flatMap_nil, List.append_nil]
      omega

/-- **The balance of one machine.** Each start of a unit pays for one hand-over or one live unit. -/
theorem handedOver_add_live_le :
    ((p.machine.history xs).flatMap Entry.messages).count .handOverDone +
        (liveUnits (p.machine.history xs)).length ≤
      (p.machine.history xs).countP Entry.isStart := by
  have owed := handedOver_add_owed_le p xs
  have alive := (Account.accounts_agree p xs).open_le_owed
  rw [liveUnits_eq_open]
  omega

end Machine

/-- A start was unilateral, or the machine had handled a `handOverDone`. -/
theorem starts_le (log : List Entry) :
    log.countP Entry.isStart ≤
      log.countP Entry.isUnilateral + log.countP (fun e => e.receives .handOverDone) := by
  induction log with
  | nil => exact Nat.le_refl 0
  | cons e log ih =>
      rw [List.countP_cons, List.countP_cons, List.countP_cons]
      by_cases start : e.isStart = true
      · by_cases done : e.receives .handOverDone = true
        · simp only [start, done, if_true]
          omega
        · have unilateral : e.isUnilateral = true := by simp [Entry.isUnilateral, start, done]
          simp only [start, unilateral, if_true]
          omega
      · rw [if_neg start]
        omega

/-! ## The ensemble -/

namespace Ensemble

/-- The number of units that are alive at all sites together. -/
def live (c : Ensemble) : Nat := c.total fun s => (liveUnits s.log).length

/-- The number of steps that started a unit on another event than a `handOverDone`. -/
def unilateralStarts (c : Ensemble) : Nat := c.total fun s => s.log.countP Entry.isUnilateral

/-- What a site hands over and keeps alive is paid for by its unilateral starts and by the
hand-overs that it heard of. -/
theorem site_balance (s : Site) :
    s.sentCount .handOverDone + (liveUnits s.log).length ≤
      s.log.countP Entry.isUnilateral + s.receivedCount .handOverDone :=
  (handedOver_add_live_le s.profile s.inputs).trans (starts_le s.log)

end Ensemble

/-- **No more units are alive than were started unilaterally.** Whatever the order in which events
come and messages arrive, as long as no message is forged or repeated; so while there was one such
start only, one unit is alive at most. -/
theorem live_le_unilateral (ps : List Profile) (steps : List (Nat × Input)) (c : Ensemble)
    (run : (Ensemble.start ps).run? steps = some c) :
    c.live ≤ c.unilateralStarts ∧ (c.unilateralStarts ≤ 1 → c.live ≤ 1) := by
  -- what the sites hand over and keep alive is paid for, and what they hand over was heard of once
  have sites : c.total (Site.sentCount .handOverDone) + c.live ≤
      c.unilateralStarts + c.total (Site.receivedCount .handOverDone) := by
    unfold Ensemble.live Ensemble.unilateralStarts
    rw [← Ensemble.total_add, ← Ensemble.total_add]
    exact Ensemble.total_le fun s _ => Ensemble.site_balance s
  have mail : c.total (Site.sentCount .handOverDone) =
      c.total (Site.receivedCount .handOverDone) +
        c.mail.countP (fun p => p.message == .handOverDone) := Ensemble.sent_eq run .handOverDone
  have bound : c.live ≤ c.unilateralStarts := by omega
  exact ⟨bound, bound.trans⟩

def twoSites : List Profile :=
  [⟨⟨"a"⟩, ⟨5, 2⟩, 1000, 20000, 900000⟩, ⟨⟨"b"⟩, ⟨5, 2⟩, 1000, 20000, 900000⟩]

/-- `a` hosts the unit until `b` asks for it; `b` hears that it is done, and never that it will
be. -/
def handOverRun : List (Nat × Input) :=
  [(0, ⟨0, .nth 0, .startNotifier⟩), (0, ⟨0, .nth 1, .initialOldest (some ⟨"a"⟩) true⟩),
    (1, ⟨1, .nth 0, .startNotifier⟩), (1, ⟨1, .nth 0, .initialOldest (some ⟨"a"⟩) false⟩),
    (1, ⟨2, .nth 0, .oldestChanged (some ⟨"b"⟩)⟩),
    (0, ⟨3, .nth 0, .peer ⟨"b"⟩ .handOverToMe⟩), (0, ⟨4, .nth 0, .unitTerminated (.nth 1)⟩),
    (1, ⟨5, .nth 2, .peer ⟨"a"⟩ .handOverDone⟩)]

/-- Two units were started, one of them unilaterally, and one is alive. -/
theorem live_le_unilateral_handOver :
    ∃ c, (Ensemble.start twoSites).run? handOverRun = some c ∧ c.unilateralStarts = 1 ∧
      c.live = 1 ∧ c.live ≤ 1 := by
  have run := (Option.some_get
    (show ((Ensemble.start twoSites).run? handOverRun).isSome = true by decide)).symm
  exact ⟨_, run, by decide, by decide, (live_le_unilateral _ _ _ run).2 (by decide)⟩

end ClusterSingleton
