import ClusterSingleton.Text.Cut

/-!
# Natural numbers in text

A number is read from one or more ASCII digits, after an optional plus sign and with any number of
leading zeros, and refused beyond a bound.
-/

namespace ClusterSingleton.Text

def isDigit (c : Char) : Bool := decide ('0' ≤ c ∧ c ≤ '9')

/-- The value of a digit. -/
def digitValue (c : Char) : Nat := c.toNat - 48

/-- The value of a run of digits, most significant first. -/
def decimalValue (cs : List Char) : Nat := cs.foldl (fun n c => 10 * n + digitValue c) 0

/-- The digits of a number as it is read: a leading plus sign is no part of them. -/
def dropPlus : List Char → List Char
  | '+' :: cs => cs
  | cs => cs

/-- Reads a number of at most `max`. -/
def parseDecimal? (max : Nat) (cs : List Char) : Option Nat :=
  let ds := dropPlus cs
  if ds ≠ [] ∧ ds.all isDigit = true ∧ decimalValue ds ≤ max then some (decimalValue ds) else none

end ClusterSingleton.Text
