import ClusterSingleton.Text.Decimal

/-!
# Node addresses

An address is any text, ordered by code point. Its canonical form is
`baton://<system>@<host>:<port>`; `isValid` accepts exactly the texts of that form, where the system
ends at the first at sign and the port begins after the last colon.
-/

namespace ClusterSingleton

structure Address where
  text : String
deriving DecidableEq, Repr, Inhabited

namespace Address

/-- What every canonical address begins with. -/
def scheme : List Char := "baton://".toList

/-- The largest port. -/
def maxPort : Nat := 65535

/-- The canonical address of a node. -/
def ofParts (system host : String) (port : UInt16) : Address :=
  ⟨"baton://" ++ system ++ "@" ++ host ++ ":" ++ toString port.toNat⟩

/-- Whether a text is `<host>:<port>`. -/
def isAuthority (cs : List Char) : Bool :=
  match Text.cutLast ':' cs with
  | some (host, port) => !host.isEmpty && (Text.parseDecimal? maxPort port).isSome
  | none => false

/-- Whether the address has the canonical form. -/
def isValid (a : Address) : Bool :=
  match Text.dropStart scheme a.text.toList with
  | none => false
  | some rest =>
    match Text.cutFirst '@' rest with
    | some (system, authority) => !system.isEmpty && isAuthority authority
    | none => false

/-- Addresses are ordered by the code points of their texts. -/
def order (a b : Address) : Ordering := compare a.text b.text

end Address

end ClusterSingleton
