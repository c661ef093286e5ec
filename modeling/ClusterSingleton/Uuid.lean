import ClusterSingleton.Text.Hex

/-!
# Universally unique identifiers

An identifier is 128 bits, written as 32 lower-case hexadecimal digits in groups of 8, 4, 4, 4 and
12. It is read in that form, without hyphens, in braces, or behind `urn:uuid:`, with letters of
either case.
-/

namespace ClusterSingleton

structure Uuid where
  bits : BitVec 128
deriving DecidableEq, Repr, Inhabited

namespace Uuid

def ofNat (n : Nat) : Uuid := ⟨BitVec.ofNat 128 n⟩

/-- Puts hyphens between the five groups of a run of digits. -/
def hyphenate (ds : List Char) : List Char :=
  ds.take 8 ++ '-' :: (ds.drop 8).take 4 ++ '-' :: (ds.drop 12).take 4
    ++ '-' :: (ds.drop 16).take 4 ++ '-' :: ds.drop 20

/-- The digits of a hyphenated text, if its hyphens stand between the groups. -/
def dropHyphens? (cs : List Char) : Option (List Char) :=
  if cs.length = 36 ∧ cs[8]? = some '-' ∧ cs[13]? = some '-' ∧ cs[18]? = some '-'
      ∧ cs[23]? = some '-' then
    some (cs.take 8 ++ (cs.drop 9).take 4 ++ (cs.drop 14).take 4 ++ (cs.drop 19).take 4
      ++ cs.drop 24)
  else none

def chars (u : Uuid) : List Char := hyphenate (Text.hexDigits 32 u.bits.toNat)

def text (u : Uuid) : String := String.ofList u.chars

/-- What is left of a text in braces or behind `urn:uuid:`. -/
def unwrap (cs : List Char) : List Char :=
  if (cs.take 9).map Char.toLower = "urn:uuid:".toList then cs.drop 9
  else
    match cs with
    | '{' :: rest => if rest.getLast? = some '}' then rest.dropLast else cs
    | _ => cs

def parse? (cs : List Char) : Option Uuid :=
  let digits? := if cs.length = 32 then some cs else dropHyphens? (unwrap cs)
  digits?.bind (fun ds => (Text.hexNumber? ds).map ofNat)

end Uuid

/-- The identifier of one incarnation of the managed unit. -/
structure UnitId where
  uuid : Uuid
deriving DecidableEq, Repr, Inhabited

/-- The `n`-th identifier of a supply of pairwise different ones. -/
def UnitId.nth (n : Nat) : UnitId := ⟨Uuid.ofNat n⟩

/-- The identifier of one message. -/
structure MessageId where
  uuid : Uuid
deriving DecidableEq, Repr, Inhabited

end ClusterSingleton
