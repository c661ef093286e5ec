import ClusterSingleton.Phase

/-!
# Metrics of a coordinator

Eleven counters and a gauge of the state, with the text in which they are exposed to a monitor.
-/

namespace ClusterSingleton

structure Metrics : Type where
  transitionsTotal : Nat
  unitsStarted : Nat
  unitsTerminated : Nat
  handOversCompleted : Nat
  handOverRetries : Nat
  takeOverRetries : Nat
  messagesSent : Nat
  messagesReceived : Nat
  messagesDropped : Nat
  stuckTotal : Nat
  restartsTotal : Nat
  state : Nat
deriving DecidableEq, Repr

namespace Metrics

def zero : Metrics := ⟨0, 0, 0, 0, 0, 0, 0, 0, 0, 0, 0, State.start.code⟩

/-- One figure of several coordinators together. -/
def total (figure : Metrics → Nat) (all : List Metrics) : Nat :=
  all.foldr (fun m rest => figure m + rest) 0

/-- Shows another state without counting a transition. -/
def setState (m : Metrics) (s : State) : Metrics := { m with state := s.code }

def transition (m : Metrics) (s : State) : Metrics :=
  { m with transitionsTotal := m.transitionsTotal + 1, state := s.code }

def unitStarted (m : Metrics) : Metrics := { m with unitsStarted := m.unitsStarted + 1 }

def unitTerminated (m : Metrics) : Metrics := { m with unitsTerminated := m.unitsTerminated + 1 }

def handOverCompleted (m : Metrics) : Metrics :=
  { m with handOversCompleted := m.handOversCompleted + 1 }

def handOverRetry (m : Metrics) : Metrics := { m with handOverRetries := m.handOverRetries + 1 }

def takeOverRetry (m : Metrics) : Metrics := { m with takeOverRetries := m.takeOverRetries + 1 }

def messageSent (m : Metrics) : Metrics := { m with messagesSent := m.messagesSent + 1 }

def messageReceived (m : Metrics) : Metrics :=
  { m with messagesReceived := m.messagesReceived + 1 }

def messageDropped (m : Metrics) : Metrics := { m with messagesDropped := m.messagesDropped + 1 }

def stuck (m : Metrics) : Metrics := { m with stuckTotal := m.stuckTotal + 1 }

def restarted (m : Metrics) : Metrics := { m with restartsTotal := m.restartsTotal + 1 }

/-! ## Exposition -/

/-- One line of the exposition: a counter unless it is a gauge. -/
structure Series : Type where
  name : String
  help : String
  isGauge : Bool
  value : Nat
deriving DecidableEq, Repr

def series (m : Metrics) : List Series :=
  [ ⟨"transitions_total", "Total singleton state transitions", false, m.transitionsTotal⟩,
    ⟨"units_started", "Total managed unit incarnations started", false, m.unitsStarted⟩,
    ⟨"units_terminated", "Total managed unit incarnations terminated", false, m.unitsTerminated⟩,
    ⟨"hand_overs_completed", "Total completed hand-overs", false, m.handOversCompleted⟩,
    ⟨"hand_over_retries", "Total hand-over retries", false, m.handOverRetries⟩,
    ⟨"take_over_retries", "Total take-over retries", false, m.takeOverRetries⟩,
    ⟨"messages_sent", "Total peer messages sent", false, m.messagesSent⟩,
    ⟨"messages_received", "Total peer messages received", false, m.messagesReceived⟩,
    ⟨"messages_dropped", "Total peer messages dropped", false, m.messagesDropped⟩,
    ⟨"stuck_total", "Total stuck conditions", false, m.stuckTotal⟩,
    ⟨"restarts_total", "Total coordinator re-creations", false, m.restartsTotal⟩,
    ⟨"state", "Current singleton state code", true, m.state⟩ ]

/-- Help, kind and value of a series, one line each. -/
def Series.lines (s : Series) : String :=
  let name := "baton_" ++ s.name
  "# HELP " ++ name ++ " " ++ s.help ++ "\n# TYPE " ++ name ++ " "
    ++ (if s.isGauge then "gauge" else "counter") ++ "\n" ++ name ++ " " ++ toString s.value ++ "\n"

/-- All series, with an empty line between two of them. -/
def exposition (m : Metrics) : String := "\n".intercalate (m.series.map Series.lines)

end Metrics

end ClusterSingleton
