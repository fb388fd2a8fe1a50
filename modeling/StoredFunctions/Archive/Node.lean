/-
# Archived nodes

An archive is a Json text in which every node -- a statement, a parameter, a kind -- carries an
identifier made from its content.  The identifier is a digest of the **preimage**: the node without
any identifiers, at any depth, in the compact layout with sorted members.

The preimage is a function of its own, apart from the digest, because it is the part that
determines the node.

`_hash_payload` is `identifier` of `preimage`, and `_strip_ids` is `Json.without` at `idName`.
-/
import StoredFunctions.Digest.Sha256
import StoredFunctions.Json.Printer
import StoredFunctions.Text.Utf8

namespace StoredFunctions.Archive

/-- The name of the member that holds a node's identifier. -/
def idName : Text := "id"

/-- The text that a node's identifier is made from. -/
def preimage (node : Json) : Text := ((node.without idName).sorted).compact false

/-- How many bytes of a digest an identifier shows. -/
def idBytes : Nat := 8

/-- The identifier made from a preimage: the first hexadecimal digits of its digest. -/
def identifier (preimage : Text) : Text :=
  ((Sha256.digest (Utf8.encode preimage)).take idBytes).flatMap fun b => Text.hex 2 b.toNat

/-- The node with these members and its identifier behind them. -/
def sealed (members : List (Text × Json)) : Json :=
  .object (members ++ [(idName, .string (identifier (preimage (.object members))))])

end StoredFunctions.Archive
