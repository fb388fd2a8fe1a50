/-
# Writing archives

Each node names its type, then its content, then its identifier.  An archive is the list of its
statements in the indented layout.

`to_json` is `Archive.write`, and `_serialize_statement`, `_serialize_parameter` and
`_serialize_kind` are `Statement.node`, `Parameter.node` and `Kind.node`.
-/
import StoredFunctions.Archive.Node
import StoredFunctions.Statement.Basic

namespace StoredFunctions

/-! ## 1. Nodes -/

/-- A limit, or nothing. -/
def Archive.limitNode : Option Nat → Json
  | none => .null
  | some n => .int (Int.ofNat n)

mutual

/-- The node of a kind. -/
def Kind.node : Kind → Json
  | .primitive p => Archive.sealed [("type", .string "Primitive"), ("value", .string p.text)]
  | .geometry first more =>
    Archive.sealed
      [("type", .string "Geometry"), ("subtypes", Json.ofTexts ((first :: more).map Shape.text))]
  | .record tables =>
    Archive.sealed [("type", .string "Record"), ("tables", Json.ofTexts (tables.map Table.name))]
  | .option inner => Archive.sealed [("type", .string "Option"), ("inner", inner.node)]
  | .array inner limit =>
    Archive.sealed
      [("type", .string "Array"), ("inner", inner.node), ("limit", Archive.limitNode limit)]
  | .set inner limit =>
    Archive.sealed
      [("type", .string "Set"), ("inner", inner.node), ("limit", Archive.limitNode limit)]
  | .either first second more =>
    Archive.sealed
      [("type", .string "Either"), ("kinds", .array (first.node :: second.node :: nodes more))]

/-- The nodes of kinds. -/
def Kind.nodes : List Kind → List Json
  | [] => []
  | k :: more => k.node :: nodes more

end

/-- The node of a parameter. -/
def Parameter.node (p : Parameter) : Json :=
  Archive.sealed [("name", .string p.ident.name), ("kind", p.kind.node)]

/-- The node of a statement. -/
def Statement.node (s : Statement) : Json :=
  Archive.sealed
    [("type", .string "FunctionStatement"), ("path", Json.ofTexts s.path),
     ("comments", Json.ofTexts s.comments),
     ("parameters", .array (s.parameters.map Parameter.node))]

/-! ## 2. Archives -/

/-- The value of an archive. -/
def Archive.value (statements : List Statement) : Json := .array (statements.map Statement.node)

/-- The text of an archive. -/
def Archive.write (asciiOnly : Bool) (statements : List Statement) : Text :=
  (Archive.value statements).indented asciiOnly 0

/-- The identifier of a statement. -/
def Statement.identifier (s : Statement) : Text :=
  match s.node with
  | .object members =>
    match Json.find? Archive.idName members with
    | some (.string t) => t
    | _ => []
  | _ => []

end StoredFunctions
