/-!
# Messages between coordinators

The four messages of the hand-over between the node that hosts the unit and the node that is to
host it next.
-/

namespace ClusterSingleton

inductive Message : Type where
  /-- A new oldest asks the previous one for the unit. -/
  | handOverToMe
  /-- The previous oldest is stopping its unit. -/
  | handOverInProgress
  /-- The unit of the previous oldest has ended. -/
  | handOverDone
  /-- The previous oldest asks the new one to take over. -/
  | takeOverFromMe
deriving DecidableEq, Repr

namespace Message

def all : List Message := [handOverToMe, handOverInProgress, handOverDone, takeOverFromMe]

/-- The two requests are sent again until they are answered. -/
def isRetried : Message → Bool
  | handOverToMe => true
  | takeOverFromMe => true
  | _ => false

/-- The name on the wire. -/
def tag : Message → String
  | handOverToMe => "HAND_OVER_TO_ME"
  | handOverInProgress => "HAND_OVER_IN_PROGRESS"
  | handOverDone => "HAND_OVER_DONE"
  | takeOverFromMe => "TAKE_OVER_FROM_ME"

/-- The name of the event that the message becomes. -/
def label : Message → String
  | handOverToMe => "HandOverToMe"
  | handOverInProgress => "HandOverInProgress"
  | handOverDone => "HandOverDone"
  | takeOverFromMe => "TakeOverFromMe"

def ofTag? (s : String) : Option Message := all.find? (fun m => m.tag == s)

end Message

end ClusterSingleton
