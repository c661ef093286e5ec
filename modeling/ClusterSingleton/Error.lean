import ClusterSingleton.Address
import ClusterSingleton.Uuid

/-!
# Errors

What can go wrong in a coordinator and around it, with the text and the code of each error.
-/

namespace ClusterSingleton

inductive Error : Type where
  /-- The settings are unusable; found before a coordinator starts. -/
  | configuration (reason : String)
  /-- The node lacks the role that the singleton is restricted to. -/
  | missingRole (address : Address) (role : String)
  /-- A hand-over or take-over ran out of retries. -/
  | stuck (reason : String)
  /-- No coordinator was found at the address. -/
  | peerUnreachable (address : Address)
  /-- An envelope could not be read. -/
  | codec (reason : String)
  /-- The managed unit ended with an error. -/
  | unitFailed (unit : UnitId) (reason : String)
  /-- What should have been delivered has nowhere to go. -/
  | channelClosed (reason : String)
  | internal (reason : String)
deriving DecidableEq, Repr

namespace Error

def message : Error → String
  | configuration reason => "Configuration error: " ++ reason
  | missingRole address role =>
      "This cluster member [" ++ address.text ++ "] doesn't have the role [" ++ role ++ "]"
  | stuck reason => "Coordinator is stuck: " ++ reason
  | peerUnreachable address => "Peer unreachable: " ++ address.text
  | codec reason => "Codec error: " ++ reason
  | unitFailed unit reason => "Managed unit " ++ unit.uuid.text ++ " failed: " ++ reason
  | channelClosed reason => "Channel closed: " ++ reason
  | internal reason => "Internal error: " ++ reason

def code : Error → String
  | configuration _ => "CONFIGURATION_ERROR"
  | missingRole _ _ => "MISSING_ROLE"
  | stuck _ => "COORDINATOR_IS_STUCK"
  | peerUnreachable _ => "PEER_UNREACHABLE"
  | codec _ => "CODEC_ERROR"
  | unitFailed _ _ => "UNIT_FAILED"
  | channelClosed _ => "CHANNEL_CLOSED"
  | internal _ => "INTERNAL_ERROR"

/-- Whether the error ends the coordinator that meets it. -/
def isFatal : Error → Bool
  | stuck _ => true
  | configuration _ => true
  | missingRole _ _ => true
  | _ => false

def isStuck : Error → Bool
  | stuck _ => true
  | _ => false

end Error

end ClusterSingleton
