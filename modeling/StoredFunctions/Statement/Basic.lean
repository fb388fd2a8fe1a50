/-
# Function statements

What is kept of a function definition: its documentation, its path and its typed parameters.  The
body is not kept.  A path is a namespace, possibly empty, and a name behind it, so that every
statement has a name.

Parameters keep their order, because calls bind arguments by position, and their names may repeat.

`FunctionStatement` is `Statement`, with `is_root`, `qualified_name`, `parameter_names` and
`signature` as `isRoot`, `qualifiedName`, `parameterNames` and `signature`, and `ofPath?` checks
what the class checks when one is built; `call_query` is `callQuery`.
-/
import StoredFunctions.Kind.Basic

namespace StoredFunctions

/-! ## 1. Types -/

/-- A parameter of a function. -/
structure Parameter where
  ident : Identifier
  kind : Kind
  deriving DecidableEq, Repr

/-- The definition of a stored function. -/
structure Statement where
  /-- The segments of the path before the last one. -/
  scope : List Text
  /-- The last segment of the path. -/
  name : Text
  parameters : List Parameter
  /-- The comments in front of the definition. -/
  comments : List Text
  deriving DecidableEq, Repr

namespace Statement

/-- The segments of the path. -/
def path (s : Statement) : List Text := s.scope ++ [s.name]

/-- The statement with a path given by its segments, of which there has to be one. -/
def ofPath? (path : List Text) (parameters : List Parameter) (comments : List Text) :
    Option Statement :=
  path.getLast?.map fun name => ⟨path.dropLast, name, parameters, comments⟩

/-- The statement with a path of one segment or more. -/
def ofSegments (first : Text) (more : List Text) (parameters : List Parameter)
    (comments : List Text) : Statement :=
  ⟨(first :: more).dropLast, (first :: more).getLast (List.cons_ne_nil _ _), parameters, comments⟩

@[simp] theorem path_ofSegments (first : Text) (more : List Text) (ps : List Parameter)
    (cs : List Text) : (ofSegments first more ps cs).path = first :: more := by
  exact List.dropLast_concat_getLast (List.cons_ne_nil first more)

/-! ## 2. Views -/

/-- Whether the function stands in no namespace. -/
def isRoot (s : Statement) : Bool := s.scope.isEmpty

/-- The name by which the function is called. -/
def qualifiedName (s : Statement) : Text := "fn::" ++ Text.join "::" s.path

/-- The names of the parameters. -/
def parameterNames (s : Statement) : List Text := s.parameters.map (·.ident.name)

end Statement

/-- A parameter as a header shows it. -/
def Parameter.text (p : Parameter) : Text := "$" ++ p.ident.text ++ ":" ++ " " ++ p.kind.text

/-- The header of the definition, without keywords and body. -/
def Statement.signature (s : Statement) : Text :=
  s.qualifiedName ++ "(" ++ Text.join ", " (s.parameters.map Parameter.text) ++ ")"

/-- The query that calls the function with its parameters bound by name. -/
def Statement.callQuery (s : Statement) : Text :=
  "RETURN " ++ s.qualifiedName ++ "(" ++
    Text.join ", " (s.parameters.map fun p => "$" ++ p.ident.text) ++ ")"

end StoredFunctions
