import ClusterSingleton.Json.Scenario
import ClusterSingleton.Proofs.Json.Records
import ClusterSingleton.Proofs.Json.RoundTrip

/-!
# Scenarios are read back

Each kind of step, target and condition has its own form, a name or an object with the name as its
only key, and no two have the same. So a step is read from the value that was written for it, a
scenario from its steps, and a file that holds the text of a scenario gives that scenario.
-/

namespace ClusterSingleton

namespace Json.Value

theorem word?_ofNat (w : UInt64) : (ofNat w.toNat).word? = some w := by
  have small : w.toNat ≤ 18446744073709551615 := Nat.le_of_lt_succ w.toNat_lt
  simp only [word?, ofNat, nat?, if_pos small, Option.map_some, UInt64.ofNat_toNat]

theorem state?_tag (s : State) : (ofString s.tag).state? = some s := by
  cases s <;> decide

end Json.Value

open Json.Value

/-! ## Steps -/

theorem NodeTarget.ofValue?_toValue (t : NodeTarget) : ofValue? t.toValue = some t := by
  cases t with
  | named node => rfl
  | oldest => decide
  | random => decide

theorem Condition.ofValue?_toValue (c : Condition) : ofValue? c.toValue = some c := by
  cases c with
  | singletonOn node =>
      simp only [ofValue?, toValue, choice?_ofFields, single?_ofFields, Option.bind_some,
        text?_ofString, Option.map_some]
  | singletonHosted => decide
  | atMostOneUnit => decide
  | handOversAtLeast count =>
      simp only [ofValue?, toValue, choice?_ofFields, single?_ofFields, Option.bind_some,
        word?_ofNat, Option.map_some]
  | stateIs node state =>
      let fields := [("node", ofString node), ("state", ofString state.tag)]
      have once : (fields.map Prod.fst).Nodup := by simp [fields]
      have read : (Json.Value.ofFields fields).record? ["node", "state"] =
          some [ofString node, ofString state.tag] := record?_ofFields once
      simp only [ofValue?, toValue, choice?_ofFields, read, fields, text?_ofString, state?_tag]
      rfl

/-- **A step is read back**, of whatever kind. -/
theorem ScenarioStep.ofValue?_toValue (s : ScenarioStep) : ofValue? s.toValue = some s := by
  cases s with
  | join node =>
      simp only [ofValue?, toValue, choice?_ofFields, single?_ofFields, Option.bind_some,
        text?_ofString, Option.map_some]
  | leave node =>
      simp only [ofValue?, toValue, choice?_ofFields, single?_ofFields, Option.bind_some,
        text?_ofString, Option.map_some]
  | crash target =>
      simp only [ofValue?, toValue, choice?_ofFields, single?_ofFields, Option.bind_some,
        target.ofValue?_toValue, Option.map_some]
  | wait millis =>
      simp only [ofValue?, toValue, choice?_ofFields, single?_ofFields, Option.bind_some,
        word?_ofNat, Option.map_some]
  | assert condition =>
      simp only [ofValue?, toValue, choice?_ofFields, single?_ofFields, Option.bind_some,
        condition.ofValue?_toValue, Option.map_some]

/-! ## Scenarios -/

namespace Scenario

theorem record?_toValue (s : Scenario) :
    s.toValue.record? ["name", "description", "min_nodes", "steps"] =
      some [ofString s.name, ofString s.description, ofNat s.minNodes.toNat,
        .array (s.steps.map ScenarioStep.toValue)] := by
  have once : ["name", "description", "min_nodes", "steps"].Nodup := by decide
  exact record?_ofFields once

theorem ofValue?_toValue (s : Scenario) : ofValue? s.toValue = some s := by
  have steps : (s.steps.map ScenarioStep.toValue).mapM ScenarioStep.ofValue? = some s.steps := by
    have each := mapM_map_eq_some (h := id) fun step (_ : step ∈ s.steps) => step.ofValue?_toValue
    rwa [List.map_id] at each
  simp only [ofValue?, record?_toValue, text?_ofString, word?_ofNat, items?, Option.bind_eq_bind,
    Option.bind_some, steps]
  rfl

theorem decode?_encode (s : Scenario) : decode? s.encode = some s := by
  rw [decode?, encode, Json.ofText?_render, Option.bind_some, ofValue?_toValue]

/-- No scenario is built in under the name of a file. -/
theorem find?_builtIn {name : String} (file : name.endsWith ".json" = true) :
    builtIn.find? (fun s => s.name == name) = none := by
  rw [List.find?_eq_none]
  have each : ∀ s ∈ builtIn, s.name.endsWith ".json" = false := by decide +kernel
  intro s mem same
  have apart := each s mem
  rw [eq_of_beq same, file] at apart
  cases apart

/-- **Nothing is lost in a file.** A scenario is read from the text that was written for it, with the
same steps in the same order; and so it is when that text is the content of a file. -/
theorem file_roundTrip (s : Scenario) :
    decode? s.encode = some s ∧
      ∀ (file : String → Except String String) (complaint : String → String) (name : String),
        name.endsWith ".json" = true → file name = .ok s.encode →
          load file complaint name = .ok s := by
  refine ⟨decode?_encode s, ?_⟩
  intro file complaint name ending content
  rw [load, find?_builtIn ending]
  simp only [ending, if_true, content, decode?_encode]

/-- All kinds of steps, targets and conditions, with odd names and the largest numbers. -/
def everything : Scenario where
  name := "a\"\\\n\u0007é😀"
  description := ""
  minNodes := 18446744073709551615
  steps :=
    [ .join "", .leave "\u0000", .crash (.named "Oldest"), .crash .oldest, .crash .random, .wait 0,
      .wait 18446744073709551615, .assert (.singletonOn "n"), .assert .singletonHosted,
      .assert .atMostOneUnit, .assert (.handOversAtLeast 18446744073709551615),
      .assert (.stateIs "n" .ended) ]

theorem file_roundTrip_everything :
    let file : String → Except String String := fun name =>
      if name = "everything.json" then .ok everything.encode
      else .error "No such file or directory (os error 2)"
    let complaint : String → String := fun _ => "expected value at line 1 column 1"
    "everything.json".endsWith ".json" = true ∧ file "everything.json" = .ok everything.encode ∧
      load file complaint "everything.json" = .ok everything := by
  intro file complaint
  have ending : "everything.json".endsWith ".json" = true := by decide +kernel
  have content : file "everything.json" = .ok everything.encode := if_pos rfl
  exact ⟨ending, content,
    (file_roundTrip everything).2 file complaint "everything.json" ending content⟩

end Scenario

end ClusterSingleton
