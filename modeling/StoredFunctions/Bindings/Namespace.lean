/-
# The tree of namespaces

Statements grouped by the segments of their paths: a namespace holds the functions that stand
directly in it and the namespaces below it.  Functions keep the order of the statements, and
namespaces below come in the order of their first appearance.

`FunctionTree` is `Namespace`, with `from_statements` and `walk` as `ofStatements` and `walk`; its
length is `size`.
-/
import StoredFunctions.Statement.Basic

namespace StoredFunctions

/-- Functions, and the namespaces below by name. -/
inductive Namespace where
  | node (functions : List Statement) (modules : List (Text × Namespace))

namespace Namespace

/-- The functions that stand directly in a namespace. -/
def functions : Namespace → List Statement
  | node functions _ => functions

/-- The namespaces below. -/
def modules : Namespace → List (Text × Namespace)
  | node _ modules => modules

/-- A namespace without content. -/
def empty : Namespace := node [] []

/-! ## 1. Building -/

/-- Changes the namespace called `name`, or adds one behind the others. -/
def alter (name : Text) (change : Namespace → Namespace) :
    List (Text × Namespace) → List (Text × Namespace)
  | [] => [(name, change empty)]
  | (n, below) :: more =>
    if n = name then (n, change below) :: more else (n, below) :: alter name change more

/-- Puts a statement into the namespace with this path. -/
def insert (s : Statement) : List Text → Namespace → Namespace
  | [], node functions modules => node (functions ++ [s]) modules
  | name :: path, node functions modules =>
    node functions (alter name (insert s path) modules)

/-- The tree of a list of statements. -/
def ofStatements (statements : List Statement) : Namespace :=
  statements.foldl (fun tree s => tree.insert s s.scope) empty

/-! ## 2. Walking -/

mutual

/-- How many functions stand in a namespace and below it. -/
def size : Namespace → Nat
  | node functions modules => functions.length + sizeOfModules modules

/-- How many functions stand in namespaces and below them. -/
def sizeOfModules : List (Text × Namespace) → Nat
  | [] => 0
  | (_, below) :: more => below.size + sizeOfModules more

end

mutual

/-- The namespace and all below it with their paths, each before those below it. -/
def walk (path : List Text) : Namespace → List (List Text × Namespace)
  | node functions modules => (path, node functions modules) :: walkModules path modules

/-- The namespaces in the one with this path, and all below them. -/
def walkModules (path : List Text) : List (Text × Namespace) → List (List Text × Namespace)
  | [] => []
  | (name, below) :: more => walk (path ++ [name]) below ++ walkModules path more

end

end Namespace

end StoredFunctions
