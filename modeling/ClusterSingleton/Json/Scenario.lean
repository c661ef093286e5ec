import ClusterSingleton.Json.Cluster
import ClusterSingleton.Scenario

/-!
# JSON forms of scenarios

How scenarios stand in files, and how one is found by its name: a built-in one, or the file of that
name.
-/

namespace ClusterSingleton

open Json (Value)

/-- A 64-bit number. -/
def Json.Value.word? (v : Value) : Option UInt64 :=
  (v.nat? 18446744073709551615).map UInt64.ofNat

namespace NodeTarget

def toValue : NodeTarget → Value
  | named node => .ofFields [("Named", .ofString node)]
  | oldest => .ofString "Oldest"
  | random => .ofString "Random"

def ofValue? (v : Value) : Option NodeTarget :=
  match v.choice? with
  | some ("Named", some v) => v.text?.map named
  | _ =>
    match v.name? with
    | some "Oldest" => some oldest
    | some "Random" => some random
    | _ => none

end NodeTarget

namespace Condition

def toValue : Condition → Value
  | singletonOn node => .ofFields [("SingletonOn", .ofFields [("node", .ofString node)])]
  | singletonHosted => .ofString "SingletonHosted"
  | atMostOneUnit => .ofString "AtMostOneUnit"
  | handOversAtLeast count =>
      .ofFields [("HandOversAtLeast", .ofFields [("count", .ofNat count.toNat)])]
  | stateIs node state =>
      .ofFields
        [("StateIs", .ofFields [("node", .ofString node), ("state", .ofString state.tag)])]

def ofValue? (v : Value) : Option Condition :=
  match v.choice? with
  | some ("SingletonOn", some v) => ((v.single? "node").bind Value.text?).map singletonOn
  | some ("HandOversAtLeast", some v) =>
      ((v.single? "count").bind Value.word?).map handOversAtLeast
  | some ("StateIs", some v) =>
      match v.record? ["node", "state"] with
      | some [node, state] => do pure (stateIs (← node.text?) (← state.state?))
      | _ => none
  | _ =>
    match v.name? with
    | some "SingletonHosted" => some singletonHosted
    | some "AtMostOneUnit" => some atMostOneUnit
    | _ => none

end Condition

namespace ScenarioStep

def toValue : ScenarioStep → Value
  | join node => .ofFields [("Join", .ofFields [("node", .ofString node)])]
  | leave node => .ofFields [("Leave", .ofFields [("node", .ofString node)])]
  | crash target => .ofFields [("Crash", .ofFields [("target", target.toValue)])]
  | wait millis => .ofFields [("Wait", .ofFields [("millis", .ofNat millis.toNat)])]
  | assert condition => .ofFields [("Assert", .ofFields [("condition", condition.toValue)])]

def ofValue? (v : Value) : Option ScenarioStep :=
  match v.choice? with
  | some ("Join", some v) => ((v.single? "node").bind Value.text?).map join
  | some ("Leave", some v) => ((v.single? "node").bind Value.text?).map leave
  | some ("Crash", some v) => ((v.single? "target").bind NodeTarget.ofValue?).map crash
  | some ("Wait", some v) => ((v.single? "millis").bind Value.word?).map wait
  | some ("Assert", some v) => ((v.single? "condition").bind Condition.ofValue?).map assert
  | _ => none

end ScenarioStep

namespace Scenario

def toValue (s : Scenario) : Value :=
  .ofFields
    [ ("name", .ofString s.name),
      ("description", .ofString s.description),
      ("min_nodes", .ofNat s.minNodes.toNat),
      ("steps", .array (s.steps.map ScenarioStep.toValue)) ]

def ofValue? (v : Value) : Option Scenario :=
  match v.record? ["name", "description", "min_nodes", "steps"] with
  | some [name, description, minNodes, steps] => do
      pure ⟨← name.text?, ← description.text?, ← minNodes.word?,
        ← (← steps.items?).mapM ScenarioStep.ofValue?⟩
  | _ => none

def encode (s : Scenario) : String := s.toValue.render

def decode? (text : String) : Option Scenario := (Json.ofText? text).bind ofValue?

/-! ## Finding a scenario -/

inductive LoadError : Type where
  | unknown (name : String)
  /-- The file cannot be read. -/
  | unreadable (reason : String)
  /-- The file holds no scenario. -/
  | malformed (reason : String)
deriving DecidableEq, Repr

def LoadError.message : LoadError → String
  | unknown name => "Unknown scenario: " ++ name
  | unreadable reason => reason
  | malformed reason => reason

/-- The built-in scenario of a name, or the one in the file of that name; `file` gives the text of a
file, or why there is none, and `complaint` the words for a text that is no scenario. -/
def load (file : String → Except String String) (complaint : String → String) (name : String) :
    Except LoadError Scenario :=
  match builtIn.find? (fun s => s.name == name) with
  | some s => .ok s
  | none =>
    if name.endsWith ".json" then
      match file name with
      | .error reason => .error (.unreadable reason)
      | .ok text =>
        match decode? text with
        | some s => .ok s
        | none => .error (.malformed (complaint text))
    else .error (.unknown name)

end Scenario

end ClusterSingleton
