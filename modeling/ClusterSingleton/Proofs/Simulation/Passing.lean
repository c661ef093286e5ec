import ClusterSingleton.Cluster
import ClusterSingleton.Proofs.Coordinator.Units

/-!
# What the course of time leaves alone

Coordinators, units, timers and messages keep a network busy while time passes. Who is a member, which
mailbox belongs to which address and at which addresses there are nodes is changed from outside only:
`Unmoved` says so of a network, and `Waits` of a cluster.
-/

namespace ClusterSingleton

namespace Coordinator

/-- Nothing that happens to a coordinator moves it to another address. -/
theorem apply_address (c : Coordinator) (act : Act) : (c.apply act).address = c.address :=
  congrArg (fun s => s.node.address) (apply_settings c act)

end Coordinator

namespace Network

/-- The addresses of all nodes in the order of their starts, also of those that were stopped. -/
def addresses (w : Network) : List Address := w.nodes.map fun n => n.coordinator.address

/-- The second network has the membership, the mailboxes and the addresses of the first. -/
structure Unmoved (w w' : Network) : Prop where
  roster : w'.roster = w.roster
  registry : w'.registry = w.registry
  addresses : w'.addresses = w.addresses

variable {w w' w'' : Network} {i : Nat} {f : Node → Node}

theorem Unmoved.refl (w : Network) : w.Unmoved w := ⟨rfl, rfl, rfl⟩

theorem Unmoved.trans (h : w.Unmoved w') (h' : w'.Unmoved w'') : w.Unmoved w'' :=
  ⟨h'.roster.trans h.roster, h'.registry.trans h.registry, h'.addresses.trans h.addresses⟩

/-! ## One node -/

theorem addresses_modifyNode
    (same : ∀ n, w.nodes[i]? = some n → (f n).coordinator.address = n.coordinator.address) :
    (w.modifyNode i f).addresses = w.addresses := by
  refine List.ext_getElem? fun j => ?_
  simp only [addresses, modifyNode, List.getElem?_map, List.getElem?_modify]
  cases found : w.nodes[j]? with
  | none => rfl
  | some n =>
      by_cases here : i = j
      · subst here
        simp [same n found]
      · simp [here]

/-- A change at a node that stays at its address. -/
theorem modifyNode_unmoved
    (same : ∀ n, w.nodes[i]? = some n → (f n).coordinator.address = n.coordinator.address) :
    w.Unmoved (w.modifyNode i f) :=
  ⟨rfl, rfl, addresses_modifyNode same⟩

theorem drop_unmoved (w : Network) (mailbox : Mailbox) (item : Item) :
    w.Unmoved (w.drop mailbox item) := by
  cases mailbox with
  | node i => exact modifyNode_unmoved fun _ _ => rfl
  | box i => exact ⟨rfl, rfl, rfl⟩

theorem deliver_unmoved (w : Network) (sender target : Address) (message : Message) :
    w.Unmoved (w.deliver sender target message) := by
  unfold deliver
  split
  · exact drop_unmoved ..
  · exact .refl w

theorem heed_address (n : Node) (m : Roster) (r : Request) :
    (n.heed m r).coordinator.address = n.coordinator.address := by
  cases r <;> rfl

theorem heed_unmoved (w : Network) (i : Nat) (self : Address) (r : Request) :
    w.Unmoved (w.heed i self r) := by
  cases r with
  | deliver target message => exact deliver_unmoved ..
  | startNotifier | requestNext | dropNotifier =>
      exact modifyNode_unmoved fun n _ => heed_address n _ _

theorem heedAll_unmoved (w : Network) (i : Nat) (self : Address) (rs : List Request) :
    w.Unmoved (rs.foldl (fun w r => w.heed i self r) w) := by
  induction rs generalizing w with
  | nil => exact .refl w
  | cons r rs ih => exact (heed_unmoved w i self r).trans (ih _)

/-! ## Tasks -/

theorem runCoordinator_unmoved (w : Network) (i : Nat) : w.Unmoved (w.runCoordinator i) := by
  unfold runCoordinator
  split
  next => exact .refl w
  next n found =>
    refine Unmoved.trans (modifyNode_unmoved ?_) (heedAll_unmoved ..)
    intro m here
    obtain rfl := Option.some.inj (found.symm.trans here)
    exact n.coordinator.apply_address (.turn _)

theorem runUnit_unmoved (w : Network) (i : Nat) (id : UnitId) : w.Unmoved (w.runUnit i id) := by
  unfold runUnit
  split
  next => exact .refl w
  next n found =>
    refine ⟨rfl, rfl, addresses_modifyNode ?_⟩
    intro m here
    obtain rfl := Option.some.inj (found.symm.trans here)
    rfl

/-- **No task moves anything.** -/
theorem runTask_unmoved (w : Network) (t : Task) : w.Unmoved (w.runTask t) := by
  cases t with
  | unit i id => exact runUnit_unmoved w i id
  | coordinator i => exact runCoordinator_unmoved w i
  | report i id | timers i => exact modifyNode_unmoved fun _ _ => rfl
  | forwarder i | notifier i =>
      refine modifyNode_unmoved fun n _ => ?_
      split <;> rfl

/-! ## Time -/

theorem step?_unmoved (h : w.step? = some w') : w.Unmoved w' := by
  unfold step? at h
  split at h
  next => cases h
  next t rest ready =>
    obtain rfl := Option.some.inj h
    have same : w.Unmoved { w with queue := t :: rest } := ⟨rfl, rfl, rfl⟩
    exact same.trans (runTask_unmoved _ t)

theorem settleWithin_unmoved (w : Network) (fuel : Nat) : w.Unmoved (w.settleWithin fuel) := by
  induction fuel generalizing w with
  | zero => exact .refl w
  | succ fuel ih =>
      unfold settleWithin
      split
      next next step => exact (step?_unmoved step).trans (ih next)
      next => exact ⟨rfl, rfl, rfl⟩

theorem settle_unmoved (w : Network) : w.Unmoved w.settle := settleWithin_unmoved ..

theorem runUntil_unmoved (w : Network) (done : Network → Bool) (target : Nat) :
    w.Unmoved (w.runUntil done target) := by
  fun_induction runUntil w done target with
  | case1 w idle => exact .refl w
  | case2 w going here ends => exact settle_unmoved w
  | case3 w going here next going' between ih =>
      have later : here.Unmoved { here with now := next } := ⟨rfl, rfl, rfl⟩
      exact ((settle_unmoved w).trans later).trans ih
  | case4 w going here next going' last =>
      have later : here.Unmoved { here with now := target } := ⟨rfl, rfl, rfl⟩
      exact (settle_unmoved w).trans later

theorem sleepUntil_unmoved (w : Network) (target : Nat) : w.Unmoved (w.sleepUntil target) :=
  runUntil_unmoved ..

end Network

namespace Cluster

/-- The second cluster is the first one some time later. -/
structure Waits (c c' : Cluster) : Prop where
  settings : c'.settings = c.settings
  network : c.network.Unmoved c'.network
  running : c'.running = c.running
  departed : c'.departed = c.departed
  port : c'.nextPort = c.nextPort

variable {c c' c'' : Cluster}

theorem Waits.refl (c : Cluster) : c.Waits c := ⟨rfl, .refl c.network, rfl, rfl, rfl⟩

theorem Waits.trans (h : c.Waits c') (h' : c'.Waits c'') : c.Waits c'' :=
  ⟨h'.settings.trans h.settings, h.network.trans h'.network, h'.running.trans h.running,
    h'.departed.trans h.departed, h'.port.trans h.port⟩

theorem sleepUntil_waits (c : Cluster) (target : Nat) : c.Waits (c.sleepUntil target) :=
  ⟨rfl, c.network.sleepUntil_unmoved target, rfl, rfl, rfl⟩

theorem sleep_waits (c : Cluster) (d : Nat) : c.Waits (c.sleep d) := sleepUntil_waits ..

theorem poll_waits (c : Cluster) (holds : Cluster → Bool) (deadline looks : Nat) :
    c.Waits (c.poll holds deadline looks).1 := by
  induction looks generalizing c with
  | zero =>
      unfold poll
      split
      · exact .refl c
      · exact sleepUntil_waits c deadline
  | succ looks ih =>
      unfold poll
      split
      · exact .refl c
      · exact (sleepUntil_waits c _).trans (ih _)

theorem waitFor_waits (c : Cluster) (holds : Cluster → Bool) : c.Waits (c.waitFor holds).1 :=
  poll_waits ..

end Cluster

end ClusterSingleton
