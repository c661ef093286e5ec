import ClusterSingleton.Address

/-!
# Cluster members

A member is a node with the number under which it came up, its status and its roles. Members are
ordered by age: the lower number is older, and the address decides between equal ones.
-/

namespace ClusterSingleton

/-! ## Status -/

inductive MemberStatus : Type where
  | joining
  | up
  | leaving
  | exiting
  | down
  | removed
deriving DecidableEq, Repr

namespace MemberStatus

/-- The statuses that may follow, in the order in which they are listed. -/
def successors : MemberStatus → List MemberStatus
  | joining => [up, down, removed]
  | up => [leaving, down]
  | leaving => [exiting, down]
  | exiting => [removed, down]
  | down => [removed]
  | removed => []

def canBecome (s t : MemberStatus) : Bool := s.successors.contains t

/-- No status follows the final one. -/
def isFinal (s : MemberStatus) : Bool := s == removed

/-- The name as it stands in messages. -/
def tag : MemberStatus → String
  | joining => "JOINING"
  | up => "UP"
  | leaving => "LEAVING"
  | exiting => "EXITING"
  | down => "DOWN"
  | removed => "REMOVED"

/-- The name as it stands in error texts. -/
def label : MemberStatus → String
  | joining => "Joining"
  | up => "Up"
  | leaving => "Leaving"
  | exiting => "Exiting"
  | down => "Down"
  | removed => "Removed"

def all : List MemberStatus := [joining, up, leaving, exiting, down, removed]

def ofTag? (s : String) : Option MemberStatus := all.find? (fun m => m.tag == s)

end MemberStatus

/-! ## Roles -/

/-- A set of role names, listed in order and once each. -/
structure RoleSet : Type where
  names : List String
  sorted : names.Pairwise (· < ·)
deriving DecidableEq, Repr

namespace RoleSet

/-- Puts a name at its place in a sorted list, unless it is there already. -/
def place (r : String) : List String → List String
  | [] => [r]
  | x :: xs => if r < x then r :: x :: xs else if x < r then x :: place r xs else x :: xs

theorem mem_place {r s : String} {xs : List String} : s ∈ place r xs ↔ s = r ∨ s ∈ xs := by
  induction xs with
  | nil => simp [place]
  | cons x xs ih =>
    simp only [place]
    split
    · simp
    · split
      · simp only [List.mem_cons, ih]
        grind
      · rename_i h₁ h₂
        have : r = x := String.le_antisymm (String.not_lt.1 h₂) (String.not_lt.1 h₁)
        simp [this]

theorem pairwise_place {r : String} {xs : List String} (h : xs.Pairwise (· < ·)) :
    (place r xs).Pairwise (· < ·) := by
  induction xs with
  | nil => simp [place]
  | cons x xs ih =>
    rw [List.pairwise_cons] at h
    simp only [place]
    split
    · rename_i hr
      exact List.pairwise_cons.2 ⟨fun y hy => by
        rcases List.mem_cons.1 hy with rfl | hy
        · exact hr
        · exact String.lt_trans hr (h.1 y hy), List.pairwise_cons.2 h⟩
    · split
      · rename_i hx
        refine List.pairwise_cons.2 ⟨fun y hy => ?_, ih h.2⟩
        rcases mem_place.1 hy with rfl | hy
        · exact hx
        · exact h.1 y hy
      · exact List.pairwise_cons.2 h

def empty : RoleSet := ⟨[], .nil⟩

def insert (rs : RoleSet) (r : String) : RoleSet := ⟨place r rs.names, pairwise_place rs.sorted⟩

def ofList (rs : List String) : RoleSet := rs.foldl insert empty

def contains (rs : RoleSet) (r : String) : Bool := rs.names.contains r

/-- Whether the roles satisfy a restriction; without one every set does. -/
def satisfies (rs : RoleSet) (role : Option String) : Bool :=
  match role with
  | some r => rs.contains r
  | none => true

instance : Inhabited RoleSet := ⟨empty⟩

end RoleSet

/-! ## Members -/

structure Member : Type where
  address : Address
  upNumber : Nat
  status : MemberStatus
  roles : RoleSet
deriving DecidableEq, Repr

namespace Member

def hasRole (m : Member) (role : Option String) : Bool := m.roles.satisfies role

/-- Oldest first: by number, then by address. -/
def ageOrder (a b : Member) : Ordering :=
  (compare a.upNumber b.upNumber).then (a.address.order b.address)

def isOlderThan (a b : Member) : Bool := a.ageOrder b == .lt

/-- Members in the order of age; members of one age keep their order. -/
def sortByAge (ms : List Member) : List Member :=
  ms.mergeSort (fun a b => (a.ageOrder b).isLE)

end Member

/-- What the cluster looks like at one moment. -/
structure ClusterState : Type where
  members : List Member
deriving DecidableEq, Repr

def ClusterState.find? (c : ClusterState) (a : Address) : Option Member :=
  c.members.find? (fun m => m.address == a)

/-- What a subscriber to the membership hears. -/
inductive ClusterEvent : Type where
  | memberUp (m : Member)
  | memberExited (m : Member)
  | memberRemoved (m : Member)
  | currentState (c : ClusterState)
deriving DecidableEq, Repr

/-- The node that the event is about. -/
def ClusterEvent.address? : ClusterEvent → Option Address
  | .memberUp m => some m.address
  | .memberExited m => some m.address
  | .memberRemoved m => some m.address
  | .currentState _ => none

end ClusterSingleton
