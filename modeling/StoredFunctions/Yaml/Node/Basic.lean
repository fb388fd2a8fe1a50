/-
# Nodes

A document is a tree of **nodes**: words, lists and tables, each with its tag and the mark where it
begins.  A reference to a node that is complete stands for that node; one to a node around itself
stays in the tree.
-/
import StoredFunctions.Yaml.Token.Basic

namespace StoredFunctions.Yaml

/-! ## 1. Tags -/

/-- What a node is. -/
inductive Tag where
  | null | bool | int | float | text | binary | timestamp | list | table | set
  /-- A list of tables with one entry each, all of them together in order. -/
  | orderedTable
  /-- A list of tables with one entry each. -/
  | pairs
  /-- The key whose value is a table, or tables, with further entries. -/
  | merge
  /-- The key of a default value, which is a key like others. -/
  | default
  | other (name : Text)
  deriving DecidableEq, Repr

namespace Tag

/-- What the names of the common tags begin with. -/
def common : Text := "tag:yaml.org,2002:"

/-- The common tags by the ends of their names. -/
def named : List (Text × Tag) :=
  [("null", null), ("bool", bool), ("int", int), ("float", float), ("str", text),
   ("binary", binary), ("timestamp", timestamp), ("seq", list), ("map", table), ("set", set),
   ("omap", orderedTable), ("pairs", pairs), ("merge", merge), ("value", default)]

/-- The tag with this name. -/
def ofName (name : Text) : Tag :=
  match named.find? fun (suffix, _) => common ++ suffix == name with
  | some (_, tag) => tag
  | none => other name

/-- The name of a tag. -/
def name : Tag → Text
  | other name => name
  | tag =>
    match named.find? fun (_, t) => t == tag with
    | some (suffix, _) => common ++ suffix
    | none => []

end Tag

/-! ## 2. Nodes -/

/-- A node of a document. -/
inductive Node where
  | word (tag : Tag) (t : Text) (start : Mark)
  | list (tag : Tag) (items : List Node) (start : Mark)
  | table (tag : Tag) (entries : List (Node × Node)) (start : Mark)
  /-- A list or a table around this place. -/
  | enclosing (isTable : Bool) (start : Mark)

namespace Node

/-- Where a node begins. -/
def start : Node → Mark
  | word _ _ start | list _ _ start | table _ _ start | enclosing _ start => start

/-- What a node is; nothing is asked about one that is around its place. -/
def tag : Node → Tag
  | word tag _ _ | list tag _ _ | table tag _ _ => tag
  | enclosing isTable _ => if isTable then .table else .list

/-- How a message calls a node. -/
def sort : Node → Text
  | word _ _ _ => "scalar"
  | list _ _ _ => "sequence"
  | table _ _ _ => "mapping"
  | enclosing isTable _ => if isTable then "mapping" else "sequence"

/-- The word that stands for nothing, where nothing is written. -/
def empty (at1 : Mark) : Node := word .null [] at1

mutual

/-- How many containers a node has around one another. -/
def height : Node → Nat
  | word _ _ _ | enclosing _ _ => 0
  | list _ items _ => heightOfItems items + 1
  | table _ entries _ => heightOfEntries entries + 1

/-- The greatest height of the items. -/
def heightOfItems : List Node → Nat
  | [] => 0
  | n :: more => max n.height (heightOfItems more)

/-- The greatest height of the keys and values. -/
def heightOfEntries : List (Node × Node) → Nat
  | [] => 0
  | (k, v) :: more => max (max k.height v.height) (heightOfEntries more)

end

end Node

end StoredFunctions.Yaml
