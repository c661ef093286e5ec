import Mathlib.Data.List.Nodup
import Mathlib.Data.List.Perm.Basic
import ClusterSingleton.Proofs.Simulation.Changes
import ClusterSingleton.Proofs.Wire.Address

/-!
# The books of a simulated cluster

A cluster keeps its nodes in several places: a list of those that run and one of those that have gone,
the membership, the mailboxes, and the network itself. `Books` says how these belong together when the
nodes of a list were started, one after the other. A start adds a node to all of them (`Books.begins`),
and a departure takes it out of all but the network (`Books.departs`).
-/

namespace ClusterSingleton

namespace RunningNode

/-- The member that a node is: nodes come up under the numbers of their starts. -/
def member (n : RunningNode) : Member := ⟨n.address, n.index + 1, .up, .empty⟩

/-- The mailbox of a node, at its address. -/
def mailbox (n : RunningNode) : Address × Mailbox := (n.address, .node n.index)

end RunningNode

namespace Cluster

/-- A node that was started. -/
structure Start : Type where
  name : String
  address : Address
deriving DecidableEq, Repr

/-- Whether a node of that name runs. -/
def Runs (c : Cluster) (name : String) : Prop := ∃ n ∈ c.running, n.name = name

/-- The books of a cluster in which the nodes of a list were started and some of them have gone. -/
structure Books (past : List Start) (c : Cluster) : Prop where
  valid : c.settings.Valid
  port : c.nextPort = .ofNat (2552 + past.length)
  /-- No two starts get the same port. -/
  given : ∀ i (x : Start), past[i]? = some x → x.address = .ofParts "sim" x.name (.ofNat (2552 + i))
  number : c.network.roster.nextUpNumber = past.length + 1
  /-- The network keeps the nodes that have gone. -/
  addresses : c.network.addresses = past.map Start.address
  named : (c.running.map RunningNode.name).Nodup
  rising : (c.running.map RunningNode.index).Pairwise (· < ·)
  started : ∀ n ∈ c.running, past[n.index]? = some ⟨n.name, n.address⟩
  members : c.network.roster.members = c.running.map RunningNode.member
  mailboxes : c.network.registry.peers.Perm (c.running.map RunningNode.mailbox)
  reachable : c.network.registry.blocked = []
  /-- Each node runs or has gone. -/
  places : (c.running.map RunningNode.index ++ c.departed).Perm (List.range past.length)

theorem books_create {settings : ClusterSettings} (valid : settings.Valid) :
    (create settings).Books [] where
  valid := valid
  port := rfl
  given := by simp
  number := rfl
  addresses := rfl
  named := .nil
  rising := .nil
  started := List.forall_mem_nil _
  members := rfl
  mailboxes := .nil
  reachable := rfl
  places := .nil

variable {past : List Start} {c c' : Cluster} {n m : RunningNode} {name : String}

/-! ## Reading the books -/

/-- As long as the ports last, a start is told from its address. -/
theorem start_of_address {name other : String} {i j : Nat} (hi : i < 62984) (hj : j < 62984)
    (same : Address.ofParts "sim" name (.ofNat (2552 + i)) =
      .ofParts "sim" other (.ofNat (2552 + j))) : i = j := by
  have ports := congrArg UInt16.toNat (Address.port_of_parts same)
  simp only [UInt16.toNat_ofNat'] at ports
  omega

/-- **No address is given twice.** -/
theorem Books.nodup_addresses (h : c.Books past) (few : past.length ≤ 62984) :
    (past.map Start.address).Nodup := by
  refine List.pairwise_iff_getElem.mpr fun i j hi hj before same => ?_
  rw [List.length_map] at hi hj
  rw [List.getElem_map, List.getElem_map, h.given i _ (List.getElem?_eq_getElem hi),
    h.given j _ (List.getElem?_eq_getElem hj)] at same
  exact Nat.ne_of_lt before
    (start_of_address (Nat.lt_of_lt_of_le hi few) (Nat.lt_of_lt_of_le hj few) same)

theorem Books.address_at (h : c.Books past) (mem : n ∈ c.running) :
    c.network.addresses[n.index]? = some n.address := by
  rw [h.addresses, List.getElem?_map, h.started n mem]
  rfl

theorem Books.index_lt (h : c.Books past) (mem : n ∈ c.running) : n.index < past.length :=
  (List.getElem?_eq_some_iff.mp (h.started n mem)).1

/-- Nodes that run have addresses of their own. -/
theorem Books.distinct (h : c.Books past) (few : past.length ≤ 62984) :
    (c.running.map RunningNode.address).Nodup := by
  refine List.pairwise_map.mpr ((List.pairwise_map.mp h.rising).imp_of_mem ?_)
  intro n m hn hm before same
  have place : (past.map Start.address)[n.index]? = (past.map Start.address)[m.index]? := by
    rw [← h.addresses, h.address_at hn, h.address_at hm, same]
  have bound : n.index < (past.map Start.address).length := by
    rw [List.length_map]
    exact h.index_lt hn
  exact Nat.ne_of_lt before ((List.getElem?_inj bound (h.nodup_addresses few)).mp place)

theorem Books.ordered (h : c.Books past) (few : past.length ≤ 62984) :
    c.network.roster.InOrder where
  distinct := by
    unfold Member.Distinct
    rw [h.members, List.map_map]
    exact h.distinct few
  rising := by
    rw [h.members, List.map_map, List.pairwise_map]
    exact (List.pairwise_map.mp h.rising).imp Nat.succ_lt_succ
  below := by
    rw [h.members, h.number]
    intro x mem
    obtain ⟨n, running, rfl⟩ := List.mem_map.mp mem
    exact Nat.succ_lt_succ (h.index_lt running)
  settled := by
    rw [h.members]
    intro x mem
    obtain ⟨n, -, rfl⟩ := List.mem_map.mp mem
    exact Or.inl rfl

/-- Looked up place by place, a list is found as it is. -/
theorem filterMap_range_getElem? {α β : Type} (f : α → β) (xs : List α) :
    (List.range xs.length).filterMap (fun i => xs[i]?.map f) = xs.map f := by
  induction xs using List.reverseRecOn with
  | nil => rfl
  | append_singleton xs x ih =>
      have before : ∀ i ∈ List.range xs.length, (xs ++ [x])[i]?.map f = xs[i]?.map f := by
        intro i mem
        rw [List.getElem?_append_left (List.mem_range.mp mem)]
      rw [List.length_append, List.length_singleton, List.range_succ, List.filterMap_append,
        List.filterMap_congr before, ih, List.map_append]
      simp

theorem Books.length_nodes (h : c.Books past) : c.network.nodes.length = past.length := by
  simpa [Network.addresses] using congrArg List.length h.addresses

/-- **Each coordinator, past and present, shows its metrics once.** -/
theorem Books.metrics_perm (h : c.Books past) :
    c.metrics.Perm (c.network.nodes.map fun n => n.coordinator.metrics) := by
  rw [← filterMap_range_getElem?, h.length_nodes]
  exact h.places.filterMap _

theorem Books.waits (h : c.Books past) (waits : c.Waits c') : c'.Books past where
  valid := waits.settings ▸ h.valid
  port := waits.port.trans h.port
  given := h.given
  number := (congrArg Roster.nextUpNumber waits.network.roster).trans h.number
  addresses := waits.network.addresses.trans h.addresses
  named := waits.running ▸ h.named
  rising := waits.running ▸ h.rising
  started := waits.running ▸ h.started
  members := by
    rw [waits.network.roster, waits.running]
    exact h.members
  mailboxes := by
    rw [waits.network.registry, waits.running]
    exact h.mailboxes
  reachable := (congrArg PeerRegistry.blocked waits.network.registry).trans h.reachable
  places := by
    rw [waits.running, waits.departed]
    exact h.places

theorem Waits.runs_iff (waits : c.Waits c') : c'.Runs name ↔ c.Runs name := by
  unfold Runs
  rw [waits.running]

/-! ## Finding a node -/

theorem runs_of_find? (found : c.find? name = some n) : n ∈ c.running ∧ n.name = name :=
  ⟨List.mem_of_find?_eq_some found, by simpa using List.find?_some found⟩

theorem not_runs_iff : ¬ c.Runs name ↔ c.find? name = none := by
  simp [Runs, find?]

theorem mem_names_iff : name ∈ c.names ↔ c.Runs name := by
  unfold names Runs
  rw [(List.mergeSort_perm ..).mem_iff, List.mem_map]

theorem length_names (c : Cluster) : c.names.length = c.size := by
  unfold names size
  rw [List.length_mergeSort, List.length_map]

/-- The oldest node is found as long as any node runs. -/
theorem Books.oldest_cases (h : c.Books past) :
    c.running = [] ∧ c.oldest = none ∨ ∃ node, c.Runs node ∧ c.oldest = some node := by
  cases found : c.oldest with
  | some node =>
      obtain ⟨x, -, named⟩ := List.exists_of_findSome?_eq_some found
      obtain ⟨n, at_x, rfl⟩ := Option.map_eq_some_iff.mp named
      exact Or.inr ⟨n.name, ⟨n, List.mem_of_find?_eq_some at_x, rfl⟩, rfl⟩
  | none =>
      refine Or.inl ⟨List.eq_nil_iff_forall_not_mem.mpr fun n mem => ?_, rfl⟩
      have up : n.member ∈ Member.sortByAge (c.network.roster.members.filter (·.status = .up)) := by
        rw [Member.mem_sortByAge, List.mem_filter, h.members]
        exact ⟨List.mem_map_of_mem mem, rfl⟩
      have missing := List.findSome?_eq_none_iff.mp found n.member up
      rw [Option.map_eq_none_iff, List.find?_eq_none] at missing
      exact missing n mem (decide_eq_true rfl)

/-- Nothing is taken out by a property that nothing has. -/
theorem filter_ne_of_not_mem {α β : Type} [DecidableEq β] {f : α → β} {b : β} {ys : List α}
    (missing : b ∉ ys.map f) : ys.filter (fun y => f y ≠ b) = ys := by
  refine List.filter_eq_self.mpr fun y mem => decide_eq_true fun same => ?_
  exact missing (same ▸ List.mem_map_of_mem mem)

/-! ## Starts -/

theorem Begins.runs_iff {a : Address} {other : String} (begun : c.Begins name a c') :
    c'.Runs other ↔ c.Runs other ∨ other = name := by
  unfold Runs
  rw [begun.running]
  simp only [List.mem_append, List.mem_singleton, or_and_right, exists_or, exists_eq_left,
    eq_comm (b := other)]

/-- The next start gets an address that no node has. -/
theorem Books.fresh (h : c.Books past) (few : past.length < 62984) (name : String) :
    Address.ofParts "sim" name c.nextPort ∉ c.running.map RunningNode.address := by
  intro used
  obtain ⟨n, mem, same⟩ := List.mem_map.mp used
  have own : n.address = .ofParts "sim" n.name (.ofNat (2552 + n.index)) :=
    h.given _ _ (h.started n mem)
  have before := h.index_lt mem
  rw [own, h.port] at same
  exact Nat.ne_of_lt before (start_of_address (Nat.lt_trans before few) few same)

theorem Books.given_next (h : c.Books past) (name : String) {i : Nat} {x : Start}
    (found : (past ++ [⟨name, .ofParts "sim" name c.nextPort⟩])[i]? = some x) :
    x.address = .ofParts "sim" x.name (.ofNat (2552 + i)) := by
  rw [List.getElem?_append] at found
  split at found
  next => exact h.given i x found
  next late =>
    obtain ⟨one, rfl⟩ := List.getElem?_eq_some_iff.mp found
    have last : i = past.length := by
      rw [List.length_singleton] at one
      omega
    rw [List.getElem_singleton, h.port, last]

/-- **A start is entered everywhere.** -/
theorem Books.begins (h : c.Books past) (few : past.length < 62984) (new : ¬ c.Runs name)
    (begun : c.Begins name (.ofParts "sim" name c.nextPort) c') :
    c'.Books (past ++ [⟨name, .ofParts "sim" name c.nextPort⟩]) := by
  have given := fun i x => h.given_next name (i := i) (x := x)
  have fresh := h.fresh few name
  generalize Address.ofParts "sim" name c.nextPort = a at begun given fresh ⊢
  have length : (past ++ [Start.mk name a]).length = past.length + 1 := List.length_append
  have running := begun.running
  rw [h.length_nodes] at running
  exact
    { valid := begun.settings ▸ h.valid
      port := by
        rw [begun.port, h.port, length, ← Nat.add_assoc]
        exact (UInt16.ofNat_add ..).symm
      given := given
      number := by rw [begun.number, h.number, length]
      addresses := by
        rw [begun.addresses, h.addresses, List.map_append]
        rfl
      named := by
        rw [running, List.map_append, List.nodup_append]
        refine ⟨h.named, List.nodup_singleton name, ?_⟩
        intro x old y last same
        obtain ⟨n, mem, rfl⟩ := List.mem_map.mp old
        exact new ⟨n, mem, same.trans (List.mem_singleton.mp last)⟩
      rising := by
        rw [running, List.map_append, List.pairwise_append]
        refine ⟨h.rising, List.pairwise_singleton .., ?_⟩
        intro i old j last
        obtain ⟨n, mem, rfl⟩ := List.mem_map.mp old
        obtain rfl := List.mem_singleton.mp last
        exact h.index_lt mem
      started := by
        rw [running]
        intro n mem
        rcases List.mem_append.mp mem with old | last
        · rw [List.getElem?_append_left (h.index_lt old)]
          exact h.started n old
        · obtain rfl := List.mem_singleton.mp last
          exact List.getElem?_concat_length
      members := by
        -- the newcomer displaces nobody
        have kept : Member.without c.network.roster.members a = c.network.roster.members := by
          refine filter_ne_of_not_mem ?_
          rw [h.members, List.map_map]
          exact fresh
        rw [begun.members, kept, h.members, running, List.map_append]
        simp only [Roster.newcomer, h.number]
        rfl
      mailboxes := by
        have kept : (c.running.map RunningNode.mailbox).filter (fun p => p.1 ≠ a) =
            c.running.map RunningNode.mailbox := by
          refine filter_ne_of_not_mem ?_
          rw [List.map_map]
          exact fresh
        have others := h.mailboxes.filter fun p => p.1 ≠ a
        rw [kept] at others
        rw [begun.registry, running, h.length_nodes, List.map_append]
        exact (others.cons _).trans (List.perm_append_singleton ..).symm
      reachable := (congrArg PeerRegistry.blocked begun.registry).trans h.reachable
      places := by
        rw [running, begun.departed, List.map_append, List.append_assoc, length, List.range_succ]
        refine (List.perm_append_comm.append_left _).trans ?_
        rw [← List.append_assoc]
        exact h.places.append_right _ }

/-! ## Departures -/

/-- Only one of several elements is taken out by a property of its own. -/
theorem filter_ne_of_nodup {α β : Type} [DecidableEq β] {f : α → β} {l r : List α} {x : α}
    (once : ((l ++ x :: r).map f).Nodup) : (l ++ x :: r).filter (fun y => f y ≠ f x) = l ++ r := by
  rw [List.map_append, List.map_cons, List.nodup_middle, List.nodup_cons, List.mem_append,
    not_or] at once
  rw [List.filter_append, List.filter_cons_of_neg (by simp), filter_ne_of_not_mem once.1.1,
    filter_ne_of_not_mem once.1.2]

/-- The node that goes is the only one that does not run any more. -/
theorem Books.departs_split (h : c.Books past) (mem : n ∈ c.running)
    (gone : (c.take n).Departs n c') :
    ∃ l r, c.running = l ++ n :: r ∧ c'.running = l ++ r := by
  obtain ⟨l, r, split⟩ := List.append_of_mem mem
  refine ⟨l, r, split, ?_⟩
  have named := h.named
  rw [split] at named
  rw [gone.running, take, split]
  exact filter_ne_of_nodup named

theorem Books.length_departs (h : c.Books past) (mem : n ∈ c.running)
    (gone : (c.take n).Departs n c') : c.running.length = c'.running.length + 1 := by
  obtain ⟨l, r, before, after⟩ := h.departs_split mem gone
  rw [before, after, List.length_append, List.length_append, List.length_cons, Nat.add_assoc]

theorem Departs.runs_iff (gone : (c.take n).Departs n c') :
    c'.Runs name ↔ c.Runs name ∧ name ≠ n.name := by
  unfold Runs
  rw [gone.running, take]
  simp only [List.mem_filter, decide_eq_true_eq]
  constructor
  · rintro ⟨m, ⟨mem, other⟩, rfl⟩
    exact ⟨⟨m, mem, rfl⟩, other⟩
  · rintro ⟨⟨m, mem, rfl⟩, other⟩
    exact ⟨m, ⟨mem, other⟩, rfl⟩

/-- **A node that goes is taken out everywhere**, and only its place in the network is left. -/
theorem Books.departs (h : c.Books past) (few : past.length ≤ 62984) (mem : n ∈ c.running)
    (gone : (c.take n).Departs n c') : c'.Books past := by
  obtain ⟨l, r, split, running⟩ := h.departs_split mem gone
  have distinct := h.distinct few
  rw [split] at distinct
  have fewer : (l ++ r).Sublist c.running := by
    rw [split]
    exact (List.Sublist.refl l).append (List.sublist_cons_self n r)
  exact
    { valid := gone.settings ▸ h.valid
      port := gone.port.trans h.port
      given := h.given
      number := gone.number.trans h.number
      addresses := gone.addresses.trans h.addresses
      named := running ▸ h.named.sublist (fewer.map _)
      rising := running ▸ h.rising.sublist (fewer.map _)
      started := running ▸ fun m there => h.started m (fewer.subset there)
      members := by
        rw [gone.members]
        show Member.without c.network.roster.members n.address = _
        rw [h.members, running, split, List.map_append, List.map_cons, List.map_append]
        refine filter_ne_of_nodup (f := Member.address) (x := n.member) ?_
        rw [← List.map_cons, ← List.map_append, List.map_map]
        exact distinct
      mailboxes := by
        rw [gone.registry, running]
        refine (h.mailboxes.filter _).trans (List.Perm.of_eq ?_)
        rw [split, List.map_append, List.map_cons, List.map_append]
        refine filter_ne_of_nodup (f := Prod.fst) (x := n.mailbox) ?_
        rw [← List.map_cons, ← List.map_append, List.map_map]
        exact distinct
      reachable := (congrArg PeerRegistry.blocked gone.registry).trans h.reachable
      places := by
        -- the place of the node moves from the one list to the other
        have places := h.places
        rw [split, List.map_append, List.map_cons, List.append_assoc, List.cons_append] at places
        rw [running, gone.departed, List.map_append, List.append_assoc,
          ← List.append_assoc _ _ [n.index]]
        refine List.Perm.trans ?_ places
        exact (List.perm_append_singleton ..).append_left _ }

theorem Books.present (h : c.Books past) (few : past.length ≤ 62984) (mem : n ∈ c.running) :
    (c.take n).Present n where
  ordered := h.ordered few
  member := by
    refine ⟨n.member, ?_, rfl, rfl⟩
    show n.member ∈ c.network.roster.members
    rw [h.members]
    exact List.mem_map_of_mem mem
  place := h.address_at mem

/-- **Whoever runs can go**, and nobody else. -/
theorem Books.withoutNode {f : RunningNode → Procedure Unit} (takes : TakesOut f) (h : c.Books past)
    (few : past.length ≤ 62984) (runs : c.Runs name) :
    ∃ n c', n ∈ c.running ∧ n.name = name ∧ c.withoutNode name f = (c', .ok ()) ∧
      (c.take n).Departs n c' := by
  cases found : c.find? name with
  | none => exact absurd runs (not_runs_iff.mpr found)
  | some n =>
      obtain ⟨mem, same⟩ := runs_of_find? found
      obtain ⟨c', done, gone⟩ := takes _ n (h.present few mem)
      refine ⟨n, c', mem, same, ?_, gone⟩
      unfold Cluster.withoutNode
      simp only [found, done]

theorem withoutNode_unknown {f : RunningNode → Procedure Unit} (missing : ¬ c.Runs name) :
    c.withoutNode name f = (c, .error (.unknownNode name)) := by
  unfold withoutNode
  rw [not_runs_iff.mp missing]

end Cluster

end ClusterSingleton
