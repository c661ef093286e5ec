/-!
# JSON values

A value keeps what a reader of messages and scenarios needs and no more: of the numbers only the
natural ones written without sign, fraction and exponent, and of the texts only those that are
sequences of characters. Any other number or text is known to be there, but not what it is.
-/

namespace ClusterSingleton.Json

inductive Value : Type where
  | null
  | bool (b : Bool)
  /-- `none` is a number that is not a plain natural one. -/
  | number (n : Option Nat)
  /-- `none` is a text with a lone surrogate or a broken encoding. -/
  | text (s : Option String)
  | array (items : List Value)
  /-- The members in the order in which they are written, with repetitions. -/
  | object (members : List (Option String × Value))
deriving Repr, Inhabited

namespace Value

def ofString (s : String) : Value := .text (some s)

def ofNat (n : Nat) : Value := .number (some n)

/-- An object with the given members. -/
def ofFields (fields : List (String × Value)) : Value :=
  .object (fields.map (fun f => (some f.1, f.2)))

end Value

end ClusterSingleton.Json
