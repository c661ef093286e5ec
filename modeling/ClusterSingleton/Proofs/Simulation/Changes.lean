import ClusterSingleton.Proofs.Membership.InPlace
import ClusterSingleton.Proofs.Simulation.Passing

/-!
# How nodes come and go

A node that starts is refused for nothing but its settings (`Begins`). One that leaves and one that
crashes are taken out of the membership and of the mailboxes by different ways, each with calls that
can be refused and with waits in between; `Departs` says what both come to. The membership refuses
neither as long as the node is a member that is up, however long the waits last and whatever the
coordinators do meanwhile.
-/

namespace ClusterSingleton

/-! ## Settings -/

namespace ClusterSettings

/-- No node is refused for the settings. -/
def Valid (s : ClusterSettings) : Prop := ∀ a, (s.forNode a).validate = .ok ()

theorem valid_iff {s : ClusterSettings} :
    s.Valid ↔ s.minHandOverRetries ≠ 0 ∧ s.retryInterval ≠ 0 := by
  have checked (a : Address) : (s.forNode a).validate =
      if s.minHandOverRetries = 0 then .error .tooFewRetries
      else if s.retryInterval = 0 then .error .zeroRetryInterval else .ok () := rfl
  simp only [Valid, checked]
  by_cases retries : s.minHandOverRetries = 0
  · simp [retries]
  · by_cases interval : s.retryInterval = 0 <;> simp [retries, interval]

end ClusterSettings

namespace Coordinator

theorem exists_create {s : Settings} (valid : s.validate = .ok ()) (restarts : Nat) :
    ∃ c, create s (.ofSettings s []) restarts = .ok c ∧ c.address = s.node.address := by
  obtain ⟨limits, derived⟩ : ∃ limits, s.retryLimits = .ok limits := by
    unfold Settings.validate at valid
    unfold Settings.retryLimits RetryLimits.create
    split at valid
    next => cases valid
    next retries =>
      split at valid
      next => cases valid
      next interval => exact ⟨_, by rw [if_neg retries, if_neg interval]⟩
  have made : ∃ m, Machine.ofSettings s = .ok m := by
    unfold Machine.ofSettings
    rw [valid, derived]
    exact ⟨_, rfl⟩
  obtain ⟨m, made⟩ := made
  unfold create
  rw [made]
  exact ⟨_, if_pos rfl, rfl⟩

end Coordinator

/-! ## Members -/

namespace Roster

variable {m : Roster} {x : Member}

/-- **A member that is up can go.** It leaves or is found to be down, and is removed after that; nobody
else notices. -/
theorem InOrder.parts (h : m.InOrder) (mem : x ∈ m.members) (up : x.status = .up) {first : Call}
    (way : first = .leave x.address ∨ first = .down x.address) :
    ∃ left gone, m.attempt first = .ok left ∧ left.remove x.address = .ok gone ∧
      gone.members = Member.without m.members x.address ∧ gone.nextUpNumber = m.nextUpNumber := by
  have accepted : m.Accepts first := by
    rcases way with rfl | rfl
    · exact ⟨x, mem, rfl, up⟩
    · exact ⟨x, mem, rfl, by rw [up]; decide⟩
  obtain ⟨left, done⟩ := (h.exists_attempt_iff first).mpr accepted
  have ordered : left.InOrder := by
    have := h.call first
    rwa [Roster.call, done] at this
  -- on both ways the member is listed with another status
  obtain ⟨s, other, changed, number⟩ : ∃ s, s ≠ .up ∧
      left.members = Member.replaced m.members { x with status := s } ∧
        left.nextUpNumber = m.nextUpNumber := by
    obtain ⟨members, news, does, rfl, -, -, number⟩ := attempt_does done
    rcases way with rfl | rfl
    · obtain ⟨y, there, here, -, rfl⟩ := leave_ok done
      obtain rfl := h.distinct.eq there mem here
      exact ⟨.exiting, by decide, (publish_frame _ _).1, number⟩
    · obtain ⟨y, there, here, -, rfl⟩ := down_ok done
      obtain rfl := h.distinct.eq there mem here
      exact ⟨.down, by decide, rfl, number⟩
  have listed : ({ x with status := s } : Member) ∈ left.members := by
    rw [changed]
    exact (Member.mem_replaced mem).mpr (Or.inl rfl)
  obtain ⟨gone, removed⟩ :=
    (ordered.exists_attempt_iff (.remove x.address)).mpr ⟨_, listed, rfl, other⟩
  have result := removed
  obtain ⟨y, there, here, -, rfl⟩ := remove_ok result
  obtain ⟨members, -, -, same⟩ := publish_frame
    { left with members := Member.without left.members x.address }
    (.memberRemoved { y with status := .removed })
  refine ⟨left, _, done, removed, ?_, same.trans number⟩
  rw [members, changed]
  exact Member.without_replaced rfl

end Roster

/-! ## Mailboxes -/

namespace Network

/-- The second network is the first one without the mailbox of an address. -/
structure Cut (a : Address) (w w' : Network) : Prop where
  roster : w'.roster = w.roster
  registry : w'.registry = w.registry.unregister a
  addresses : w'.addresses = w.addresses

variable {w w' w'' : Network} {a : Address} {i : Nat}

theorem Unmoved.cut (h : w.Unmoved w') (h' : w'.Cut a w'') : w.Cut a w'' := by
  refine ⟨h'.roster.trans h.roster, ?_, h'.addresses.trans h.addresses⟩
  rw [h'.registry, h.registry]

theorem disconnect_cut (here : w.addresses[i]? = some a) : w.Cut a (w.disconnect i) := by
  unfold addresses at here
  rw [List.getElem?_map, Option.map_eq_some_iff] at here
  obtain ⟨n, found, rfl⟩ := here
  unfold disconnect
  rw [found]
  exact ⟨rfl, rfl, addresses_modifyNode fun _ _ => rfl⟩

theorem kill_cut (here : w.addresses[i]? = some a) : w.Cut a (w.kill i) := by
  have stopped : w.Unmoved (w.modifyNode i Node.kill) :=
    modifyNode_unmoved fun n _ => n.coordinator.apply_address .abort
  refine stopped.cut (disconnect_cut ?_)
  rw [stopped.addresses]
  exact here

/-- However a node was stopped some time later, its mailbox is gone and nothing else. -/
theorem Unmoved.stop_cut (h : w.Unmoved w') (here : w.addresses[i]? = some a) (ended : Bool) :
    w.Cut a (if ended then w'.disconnect i else w'.kill i) := by
  have there : w'.addresses[i]? = some a := by
    rw [h.addresses]
    exact here
  cases ended with
  | true => exact h.cut (disconnect_cut there)
  | false => exact h.cut (kill_cut there)

end Network

namespace Cluster

/-! ## Starts -/

/-- The second cluster is the first one with a node that has just been started. -/
structure Begins (name : String) (a : Address) (c c' : Cluster) : Prop where
  settings : c'.settings = c.settings
  running : c'.running = c.running ++ [⟨name, a, c.network.nodes.length⟩]
  departed : c'.departed = c.departed
  port : c'.nextPort = c.nextPort + 1
  members : c'.network.roster.members =
    Member.without c.network.roster.members a ++ [c.network.roster.newcomer a .empty]
  number : c'.network.roster.nextUpNumber = c.network.roster.nextUpNumber + 1
  registry : c'.network.registry = c.network.registry.register a (.node c.network.nodes.length)
  addresses : c'.network.addresses = c.network.addresses ++ [a]

theorem start_begins {c : Cluster} {name : String} (valid : c.settings.Valid)
    (new : c.find? name = none) :
    ∃ c', c.start name = (c', .ok (.ofParts "sim" name c.nextPort)) ∧
      c.Begins name (.ofParts "sim" name c.nextPort) c' := by
  obtain ⟨coordinator, made, here⟩ :=
    Coordinator.exists_create (s := c.nextSettings name) (valid _) c.settings.maxRestarts
  have address : coordinator.address = .ofParts "sim" name c.nextPort := here
  let w := c.network.startNode coordinator
  let begun : Cluster :=
    { c with
      nextPort := c.nextPort + 1
      network := { w with roster := w.roster.join coordinator.address .empty }
      running := c.running ++ [⟨name, coordinator.address, c.network.nodes.length⟩] }
  have done : c.start name = (begun, .ok coordinator.address) := by
    unfold Cluster.start
    rw [new]
    simp only [made]
    rfl
  rw [← address]
  refine ⟨begun, done, ?_⟩
  obtain ⟨members, -, -, number⟩ := Roster.publish_frame
    { c.network.roster with
      members := Member.without c.network.roster.members coordinator.address ++
        [c.network.roster.newcomer coordinator.address .empty]
      nextUpNumber := c.network.roster.nextUpNumber + 1 }
    (.memberUp (c.network.roster.newcomer coordinator.address .empty))
  exact
    { settings := rfl
      running := rfl
      departed := rfl
      port := rfl
      members := members
      number := number
      registry := rfl
      addresses := List.map_append }

/-! ## Departures -/

/-- The second cluster is the first one some time later and without a node, which has left or
crashed. -/
structure Departs (n : RunningNode) (c c' : Cluster) : Prop where
  settings : c'.settings = c.settings
  running : c'.running = c.running
  departed : c'.departed = c.departed ++ [n.index]
  port : c'.nextPort = c.nextPort
  members : c'.network.roster.members = Member.without c.network.roster.members n.address
  number : c'.network.roster.nextUpNumber = c.network.roster.nextUpNumber
  registry : c'.network.registry = c.network.registry.unregister n.address
  addresses : c'.network.addresses = c.network.addresses

variable {c c' : Cluster} {n : RunningNode}

theorem run_then {p q : Procedure Unit} {d : Cluster} (h : p.run c = .ok () d) :
    (p >>= fun _ => q).run c = q.run d := by
  rw [EStateM.run_bind, h]

theorem changeRoster_run {f : Roster → Except Error Roster} {m : Roster}
    (h : f c.network.roster = .ok m) : (changeRoster f).run c = .ok () (c.setRoster m) := by
  unfold changeRoster
  simp only [EStateM.run_bind, EStateM.run_get, h]
  rfl

/-- A step that only waits leads to some cluster that is the same apart from the time; which one, is
of no account. -/
theorem modify_waits {f : Cluster → Cluster} (waits : ∀ c : Cluster, c.Waits (f c)) (c : Cluster) :
    ∃ c', c.Waits c' ∧ (modify f : Procedure Unit).run c = .ok () c' :=
  ⟨f c, waits c, rfl⟩

theorem relief_waits (n : RunningNode) (c : Cluster) :
    c.Waits (if c.isEmpty then c else (c.waitFor (isRelieved n)).1) := by
  split
  · exact .refl c
  · exact waitFor_waits ..

theorem awaitEnd_cut (here : c.network.addresses[n.index]? = some n.address) :
    ∃ w, c.awaitEnd n = { c with network := w } ∧ c.network.Cut n.address w :=
  ⟨_, rfl, (c.network.runUntil_unmoved _ _).stop_cut here _⟩

/-- The node is in order as far as the membership and the network are concerned. -/
structure Present (n : RunningNode) (c : Cluster) : Prop where
  ordered : c.network.roster.InOrder
  member : ∃ x ∈ c.network.roster.members, x.address = n.address ∧ x.status = .up
  place : c.network.addresses[n.index]? = some n.address

/-- A way to go that no node in order is kept from. -/
def TakesOut (f : RunningNode → Procedure Unit) : Prop :=
  ∀ (c : Cluster) (n : RunningNode), c.Present n → ∃ c', (f n).run c = .ok () c' ∧ c.Departs n c'

/-- **A node can leave**, and whether it hands over and ends in time or is stopped makes no
difference to what is left. -/
theorem retire_takesOut : TakesOut retire := by
  rintro c n ⟨ordered, ⟨x, mem, same, up⟩, here⟩
  obtain ⟨left, gone, leaves, removes, members, number⟩ := ordered.parts mem up (Or.inl rfl)
  rw [same] at leaves removes members
  obtain ⟨relieved, waits, relieves⟩ := modify_waits (relief_waits n) (c.setRoster left)
  -- the membership has not moved while the node was handing over
  have second : relieved.network.roster.remove n.address = .ok gone := by
    rw [waits.network.roster]
    exact removes
  let removed := relieved.setRoster gone
  have there : removed.network.addresses[n.index]? = some n.address :=
    waits.network.addresses ▸ here
  obtain ⟨w, ended, cut⟩ := awaitEnd_cut there
  refine ⟨{ removed with network := w }.depart n, ?_, ?_⟩
  · unfold retire
    rw [run_then (changeRoster_run leaves), run_then relieves, run_then (changeRoster_run second),
      ← ended]
    rfl
  · exact
      { settings := waits.settings
        running := waits.running
        departed := congrArg (· ++ [n.index]) waits.departed
        port := waits.port
        members := (congrArg Roster.members cut.roster).trans members
        number := (congrArg Roster.nextUpNumber cut.roster).trans number
        registry := cut.registry.trans (congrArg (·.unregister n.address) waits.network.registry)
        addresses := cut.addresses.trans waits.network.addresses }

/-- **A node can crash.** -/
theorem fail_takesOut : TakesOut fail := by
  rintro c n ⟨ordered, ⟨x, mem, same, up⟩, here⟩
  obtain ⟨left, gone, downs, removes, members, number⟩ := ordered.parts mem up (Or.inr rfl)
  rw [same] at downs removes members
  let dead : Cluster := { c with network := c.network.kill n.index }
  have cut : c.network.Cut n.address dead.network := Network.kill_cut here
  have first : dead.network.roster.down n.address = .ok left := by
    rw [cut.roster]
    exact downs
  obtain ⟨later, waits, sleeps⟩ :=
    modify_waits (fun (c : Cluster) => c.sleep_waits c.settings.failureMargin) (dead.setRoster left)
  have second : later.network.roster.remove n.address = .ok gone := by
    rw [waits.network.roster]
    exact removes
  refine ⟨(later.setRoster gone).depart n, ?_, ?_⟩
  · unfold fail
    refine (run_then (d := dead) rfl).trans ?_
    rw [run_then (changeRoster_run first), run_then sleeps, run_then (changeRoster_run second)]
    rfl
  · exact
      { settings := waits.settings
        running := waits.running
        departed := congrArg (· ++ [n.index]) waits.departed
        port := waits.port
        members := members
        number := number
        registry := waits.network.registry.trans cut.registry
        addresses := waits.network.addresses.trans cut.addresses }

end Cluster

end ClusterSingleton
