import ClusterSingleton.Envelope
import ClusterSingleton.Member
import ClusterSingleton.Phase

/-!
# JSON forms of members and states

Members, snapshots of the cluster and its events as they stand in messages, and the names of
statuses and states.
-/

namespace ClusterSingleton

open Json (Value)

/-- The largest number under which a member comes up. -/
def Member.maxUpNumber : Nat := 4294967295

namespace Json.Value

def status? (v : Value) : Option MemberStatus := v.name?.bind MemberStatus.ofTag?

def state? (v : Value) : Option State := v.name?.bind State.ofTag?

def roles? (v : Value) : Option RoleSet :=
  (v.items?.bind (fun vs => vs.mapM text?)).map RoleSet.ofList

end Json.Value

def Member.toValue (m : Member) : Value :=
  .ofFields
    [ ("address", .ofString m.address.text),
      ("up_number", .ofNat m.upNumber),
      ("status", .ofString m.status.tag),
      ("roles", .array (m.roles.names.map .ofString)) ]

def Member.ofValue? (v : Value) : Option Member :=
  match v.record? ["address", "up_number", "status", "roles"] with
  | some [address, upNumber, status, roles] => do
      pure ⟨← address.address?, ← upNumber.nat? maxUpNumber, ← status.status?, ← roles.roles?⟩
  | _ => none

def ClusterState.toValue (c : ClusterState) : Value :=
  .ofFields [("members", .array (c.members.map Member.toValue))]

def ClusterState.ofValue? (v : Value) : Option ClusterState :=
  ((v.single? "members").bind Value.items?).bind (fun vs =>
    (vs.mapM Member.ofValue?).map ClusterState.mk)

def ClusterEvent.toValue : ClusterEvent → Value
  | memberUp m => .ofFields [("MemberUp", m.toValue)]
  | memberExited m => .ofFields [("MemberExited", m.toValue)]
  | memberRemoved m => .ofFields [("MemberRemoved", m.toValue)]
  | currentState c => .ofFields [("CurrentClusterState", c.toValue)]

def ClusterEvent.ofValue? (v : Value) : Option ClusterEvent :=
  match v.choice? with
  | some ("MemberUp", some v) => (Member.ofValue? v).map memberUp
  | some ("MemberExited", some v) => (Member.ofValue? v).map memberExited
  | some ("MemberRemoved", some v) => (Member.ofValue? v).map memberRemoved
  | some ("CurrentClusterState", some v) => (ClusterState.ofValue? v).map currentState
  | _ => none

end ClusterSingleton
