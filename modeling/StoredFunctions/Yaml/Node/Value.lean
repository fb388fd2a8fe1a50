/-
# Values of nodes

The value of a node is read off its tag.  A table has the entries of the tables that it merges in
front of its own, so that its own count.

Of several faults in a document the one that is met first counts when containers are filled one
after the other, each after the containers in front of it and around it: the one with the fewest
containers around it, and of those the one in front.
-/
import StoredFunctions.Yaml.Node.Word

namespace StoredFunctions.Yaml

/-! ## 1. Faults -/

/-- An error in a value, and how many containers are around it. -/
structure Fault where
  depth : Nat
  error : Error

/-- A value or a fault. -/
abbrev Built (α : Type) := Except Fault α

/-- All values, or the fault that counts. -/
def Built.all {α : Type} : List (Built α) → Built (List α)
  | [] => .ok []
  | first :: more =>
    match first, Built.all more with
    | .ok a, .ok rest => .ok (a :: rest)
    | .ok _, .error f => .error f
    | .error e, .ok _ => .error e
    | .error e, .error f => .error (if f.depth < e.depth then f else e)

/-- What a reader that knows no depths returns, as something at a depth. -/
def Built.at {α : Type} (depth : Nat) : Except Error α → Built α
  | .ok a => .ok a
  | .error e => .error ⟨depth, e⟩

/-! ## 2. Merging -/

namespace Node

/-- What was being read in a table. -/
def tableContext : Text := "while constructing a mapping"

/-- Whether a node is the key of merged tables. -/
def isMerge (n : Node) : Bool := n.tag == .merge

/-- The key of a default value as a key like others. -/
def asKey : Node → Node
  | word .default t start => word .text t start
  | n => n

mutual

/-- The entries of a table that begins at a mark, with merged ones in front.  Every table around
another one takes a unit of fuel. -/
def mergedEntries : Nat → Mark → List (Node × Node) → Except Error (List (Node × Node))
  | 0, _, _ => .ok []
  | fuel + 1, start, entries => do
    let merges := entries.filter fun e => e.1.isMerge
    let own := entries.filter fun e => !e.1.isMerge
    let fronts ← merges.mapM fun e => entriesToMerge fuel start e.2
    pure (fronts.flatten ++ own.map fun (k, v) => (k.asKey, v))

/-- The entries of a node that is merged into a table that begins at a mark: a table, or a list of
tables, of which earlier ones count. -/
def entriesToMerge : Nat → Mark → Node → Except Error (List (Node × Node))
  | 0, _, _ => .ok []
  | fuel + 1, start, n =>
    match n with
    | table _ entries own => mergedEntries fuel own entries
    | list _ items _ => do
      let parts ← items.mapM fun item =>
        match item with
        | table _ entries own => mergedEntries fuel own entries
        | enclosing true _ => .ok []
        | other =>
          .error (.within tableContext start (.expectedSort "a mapping for merging" other.sort)
            other.start)
      pure parts.reverse.flatten
    | enclosing _ _ => .ok []
    | word _ _ _ =>
      .error (.within tableContext start
        (.expectedSort "a mapping or list of mappings for merging" n.sort) n.start)

end

/-! ## 3. Values -/

/-- The error of a node of another sort than its tag wants. -/
def wrongSort (n : Node) (wanted : Text) : Error :=
  .at (.expectedSort ("a " ++ wanted ++ " node") n.sort) n.start

/-- The error of a node whose tag has no values. -/
def unknownTag (n : Node) : Error := .at (.unknownTag n.tag.name) n.start

/-- The text where a word is wanted: that of the node, or that of a table's default value.  Every
table around another one takes a unit of fuel. -/
def wordIn : Nat → Node → Except Error Text
  | 0, n => .error (n.wrongSort "scalar")
  | fuel + 1, n =>
    match n with
    | word _ t _ => .ok t
    | table _ entries _ =>
      match entries.find? fun e => e.1.tag == .default with
      | some (_, v) => wordIn fuel v
      | none => .error (n.wrongSort "scalar")
    | n => .error (n.wrongSort "scalar")

/-- The value of a text under the tag of a node. -/
def valueOfText (n : Node) (t : Text) : Except Error Value :=
  match n.tag, n with
  | .binary, _ =>
    match Base64.decode t with
    | .ok bytes => .ok (.bytes bytes)
    | .error e => .error (.at (.notBase64 e) n.start)
  | .timestamp, table _ _ _ => .error (.word .dateInTable)
  | tag, _ =>
    match valueOfWord? tag t with
    | some (.ok v) => .ok v
    | some (.error e) => .error (.word e)
    | none => .error n.unknownTag

/-- What was being read in a list of pairs. -/
def pairsContext (tag : Tag) : Text :=
  if tag = .pairs then "while constructing pairs" else "while constructing an ordered map"

/-- The value of a node that is not read part by part, with containers around it. -/
def valueWithoutParts (fuel depth : Nat) (n : Node) : Built Value :=
  match n.tag with
  | .list => .error ⟨depth + 1, n.wrongSort "sequence"⟩
  | .table | .set => .error ⟨depth + 1, n.wrongSort "mapping"⟩
  | .orderedTable | .pairs =>
    .error ⟨depth + 1,
      .within (pairsContext n.tag) n.start (.expectedSort "a sequence" n.sort) n.start⟩
  | .merge | .default | .other _ => .error ⟨depth, n.unknownTag⟩
  | .null | .bool | .int | .float | .text | .binary | .timestamp =>
    Built.at depth ((wordIn fuel n).bind n.valueOfText)

/-- The key of an entry with containers around it, given its value as far as it has one: a value
that is no container.  A fault with more containers around it is one inside a container. -/
def keyOf (depth : Nat) (start : Mark) (k : Node) (built : Built Value) : Built Value :=
  let refused : Built Value :=
    .error ⟨depth, .within tableContext start .containerAsKey k.start⟩
  match built with
  | .ok v => if v.isKey then .ok v else refused
  | .error f => if f.depth ≤ depth then .error f else refused

/-- The entries of a table that begins at a mark, with containers around its parts, which `inside`
reads. -/
def entriesOf (depth : Nat) (inside : Node → Built Value) (start : Mark)
    (entries : List (Node × Node)) : Built (List (Value × Value)) :=
  (Built.all (entries.map fun (k, v) =>
    Built.all [keyOf depth start k (inside k), inside v])).map fun parts =>
      parts.filterMap fun
        | [k, v] => some (k, v)
        | _ => none

/-- The pair of an item of a list that begins at a mark, with containers around its parts, which
`inside` reads. -/
def pairOf (depth : Nat) (inside : Node → Built Value) (what : Text) (start : Mark) :
    Node → Built Value
  | table _ [(k, v)] _ =>
    (Built.all [inside k, inside v]).map fun
      | [key, value] => .pair key value
      | _ => .null
  | table _ entries own =>
    .error ⟨depth, .within what start
      (.expectedSort "a single mapping item" (Text.ofNat entries.length ++ " items")) own⟩
  | enclosing true _ => .ok (.enclosing true)
  | n =>
    .error ⟨depth, .within what start (.expectedSort "a mapping of length 1" n.sort) n.start⟩

/-- The value of a node with `depth` containers around it.  Every container around another one
takes a unit of fuel. -/
def valueAt : Nat → Nat → Node → Built Value
  | 0, _, _ => .ok .null
  | fuel + 1, depth, n =>
    let inside := valueAt fuel (depth + 1)
    let merged (start : Mark) (entries : List (Node × Node)) : Built (List (Value × Value)) := do
      let all ← Built.at (depth + 1) (mergedEntries (2 * fuel + 2) start entries)
      entriesOf (depth + 1) inside start all
    match n with
    | enclosing isTable _ => .ok (.enclosing isTable)
    | list .list items _ => (Built.all (items.map inside)).map Value.list
    | list .orderedTable items start =>
      (Built.all (items.map
        (pairOf (depth + 1) inside (pairsContext .orderedTable) start))).map Value.list
    | list .pairs items start =>
      (Built.all (items.map
        (pairOf (depth + 1) inside (pairsContext .pairs) start))).map Value.list
    | table .table entries start => (merged start entries).map Value.ofEntries
    | table .set entries start => (merged start entries).map Value.ofKeys
    | n => n.valueWithoutParts (fuel + 1) depth

/-- The value of a node. -/
def value (n : Node) : Except Error Value :=
  match n.valueAt (n.height + 1) 0 with
  | .ok v => .ok v
  | .error f => .error f.error

end Node

end StoredFunctions.Yaml
