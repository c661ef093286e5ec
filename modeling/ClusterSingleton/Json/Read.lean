import ClusterSingleton.Json.Value

/-!
# Reading data from JSON values

The rules by which a value stands for data: a record is an object with each of its fields once,
whatever else it holds, or an array of the fields in order; a choice is its name, or an object with
the name as its only key.
-/

namespace ClusterSingleton.Json.Value

def text? : Value → Option String
  | .text s => s
  | _ => none

/-- A natural number of at most `max`. -/
def nat? (max : Nat) : Value → Option Nat
  | .number (some n) => if n ≤ max then some n else none
  | _ => none

def items? : Value → Option (List Value)
  | .array vs => some vs
  | _ => none

/-- The value of a field that the members hold exactly once. -/
def field? (members : List (Option String × Value)) (name : String) : Option Value :=
  match members.filter (fun m => m.1 == some name) with
  | [m] => some m.2
  | _ => none

/-- The fields of a record, in order. The keys of an object must all be texts. -/
def record? (names : List String) : Value → Option (List Value)
  | .array vs => if vs.length = names.length then some vs else none
  | .object ms => if ms.all (fun m => m.1.isSome) then names.mapM (field? ms) else none
  | _ => none

/-- The field of a record that has no other. -/
def single? (name : String) (v : Value) : Option Value :=
  match v.record? [name] with
  | some [v] => some v
  | _ => none

/-- The name of a choice and what comes with it, `none` if it is a name alone. -/
def choice? : Value → Option (String × Option Value)
  | .text (some s) => some (s, none)
  | .object [(some s, v)] => some (s, some v)
  | _ => none

/-- A choice that brings nothing: its name alone, or with `null`. -/
def name? (v : Value) : Option String :=
  match v.choice? with
  | some (s, none) => some s
  | some (s, some .null) => some s
  | _ => none

end ClusterSingleton.Json.Value
