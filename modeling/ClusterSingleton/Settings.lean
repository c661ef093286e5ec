import ClusterSingleton.Error
import ClusterSingleton.Member
import ClusterSingleton.Text.Blank
import ClusterSingleton.Text.Quoted
import ClusterSingleton.Time

/-!
# Settings

What a coordinator is told about its node and its unit, when these settings are usable, how they are
read from the environment, and the retry limits that follow from them.
-/

namespace ClusterSingleton

/-- How a managed unit is asked to end. -/
inductive TerminationSignal : Type where
  /-- It is stopped at once. -/
  | stopNow
  /-- It is sent this text and ends by itself. -/
  | graceful (text : String)
deriving DecidableEq, Repr

/-- The signal as error texts show it. -/
def TerminationSignal.label : TerminationSignal → String
  | stopNow => "StopNow"
  | graceful text => "Graceful(" ++ Text.quoted text ++ ")"

structure NodeSettings : Type where
  address : Address
  roles : RoleSet
  /-- The removal margin of the failure detector. -/
  downRemovalMargin : Nat
deriving DecidableEq, Repr

structure SingletonSettings : Type where
  unitName : String
  /-- Only members with this role take part. -/
  role : Option String
  retryInterval : Nat
  /-- How long a removal is not yet trusted; zero leaves it to the node's settings. -/
  removalMargin : Nat
  minHandOverRetries : UInt32
  terminationSignal : TerminationSignal
  cleanupInterval : Nat
  removedTtl : Nat
  inboxCapacity : Nat
deriving DecidableEq, Repr

structure Settings : Type where
  node : NodeSettings
  singleton : SingletonSettings
deriving DecidableEq, Repr

/-! ## Retry limits -/

/-- How often a request is sent again before its sender gives up. -/
structure RetryLimits : Type where
  handOver : UInt32
  takeOver : UInt32
deriving DecidableEq, Repr

namespace Error

def tooFewRetries : Error := configuration "min-number-of-hand-over-retries must be >= 1"

def zeroRetryInterval : Error := configuration "Hand-over retry interval cannot be zero"

def zeroCleanupInterval : Error := configuration "Cleanup interval cannot be zero"

def zeroInboxCapacity : Error := configuration "Mailbox capacity cannot be zero"

end Error

namespace RetryLimits

/-- The largest limit. -/
def bound : Nat := 4294967295

/-- The requests that fit into the removal margin and a few more, but no fewer than the minimum;
a take-over gives up that many few earlier. -/
def derive (margin interval : Nat) (minimum : UInt32) : RetryLimits :=
  let covering := min (margin / interval) bound
  let handOver := max minimum.toNat (min (covering + Defaults.handOverHeadroom.toNat) bound)
  ⟨UInt32.ofNat handOver, UInt32.ofNat (max (handOver - Defaults.handOverHeadroom.toNat) 1)⟩

def create (margin interval : Nat) (minimum : UInt32) : Except Error RetryLimits :=
  if minimum = 0 then .error .tooFewRetries
  else if interval = 0 then .error .zeroRetryInterval
  else .ok (derive margin interval minimum)

end RetryLimits

/-! ## Usable settings -/

namespace Settings

def default : Settings where
  node :=
    { address := Address.ofParts "baton" "127.0.0.1" 2552
      roles := .empty
      downRemovalMargin := 0 }
  singleton :=
    { unitName := "singleton"
      role := none
      retryInterval := Defaults.retryInterval
      removalMargin := 0
      minHandOverRetries := Defaults.minHandOverRetries
      terminationSignal := .stopNow
      cleanupInterval := Defaults.cleanupInterval
      removedTtl := Defaults.removedTtl
      inboxCapacity := 1024 }

def forNode (address : Address) : Settings :=
  { default with node := { default.node with address := address } }

/-- Refuses unusable settings; the first fault decides the error. -/
def validate (s : Settings) : Except Error Unit :=
  if s.singleton.minHandOverRetries = 0 then .error .tooFewRetries
  else if s.singleton.retryInterval = 0 then .error .zeroRetryInterval
  else if s.singleton.cleanupInterval = 0 then .error .zeroCleanupInterval
  else if s.singleton.inboxCapacity = 0 then .error .zeroInboxCapacity
  else
    match s.singleton.role with
    | none => .ok ()
    | some role =>
      if s.node.roles.contains role then .ok () else .error (.missingRole s.node.address role)

/-- The removal margin that applies. -/
def removalMargin (s : Settings) : Nat :=
  if s.singleton.removalMargin = 0 then s.node.downRemovalMargin else s.singleton.removalMargin

def retryLimits (s : Settings) : Except Error RetryLimits :=
  RetryLimits.create s.removalMargin s.singleton.retryInterval s.singleton.minHandOverRetries

/-! ## The environment -/

/-- A list of roles between commas, without blanks around them; empty ones do not count. -/
def rolesOfText (text : String) : RoleSet :=
  .ofList (((Text.splitAll ',' text.toList).map Text.trim).filter (fun r => r ≠ [])
    |>.map String.ofList)

/-- A number of milliseconds as a duration. -/
def millisOfText? (text : String) : Option Nat :=
  (Text.parseDecimal? 18446744073709551615 text.toList).map Duration.ofMillis

/-- The default settings with what the environment's variables say; a number that cannot be read
leaves the default. -/
def ofEnvironment (env : String → Option String) : Settings where
  node :=
    { address := ((env "BATON_SELF_ADDRESS").map Address.mk).getD default.node.address
      roles := ((env "BATON_ROLES").map rolesOfText).getD default.node.roles
      downRemovalMargin :=
        ((env "BATON_DOWN_REMOVAL_MARGIN_MS").bind millisOfText?).getD
          default.node.downRemovalMargin }
  singleton :=
    { default.singleton with
      unitName := (env "BATON_SINGLETON_NAME").getD default.singleton.unitName
      role := (env "BATON_SINGLETON_ROLE").bind (fun r => if r = "" then none else some r)
      retryInterval :=
        ((env "BATON_HAND_OVER_RETRY_INTERVAL_MS").bind millisOfText?).getD
          default.singleton.retryInterval
      removalMargin :=
        ((env "BATON_REMOVAL_MARGIN_MS").bind millisOfText?).getD default.singleton.removalMargin
      minHandOverRetries :=
        ((env "BATON_MIN_HAND_OVER_RETRIES").bind (fun t =>
          (Text.parseDecimal? RetryLimits.bound t.toList).map UInt32.ofNat)).getD
          default.singleton.minHandOverRetries }

end Settings

end ClusterSingleton
