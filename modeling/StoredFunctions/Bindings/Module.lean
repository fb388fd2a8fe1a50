/-
# The generated module

A module of client code for a list of stored functions: the sources they come from, a function
that sends those to the database, and one asynchronous wrapper for each stored function, in
nested classes that follow the namespaces.

The module is a list of lines.  No scope of it binds a name twice, as far as the names are spelt
differently: a function, a class and the helpers of one scope differ, and so do the arguments of
one wrapper.  Statements for which that cannot be had are refused (`BindingError`).

`render_module` is `render`.  `_emit_define` is `defineLines`, `_emit_tree` is `treeLines`,
`_check_names` is `checkScope`, `_emit_function` is `wrapperLines`, `_parameter_names` is
`argumentNames`, `_emit_docstring` is `docLines` and `_python_name` is `usable`.
-/
import StoredFunctions.Bindings.Hint
import StoredFunctions.Bindings.Name
import StoredFunctions.Bindings.Namespace
import StoredFunctions.Bindings.NamingRule

namespace StoredFunctions

/-! ## 1. Errors -/

/-- What a name in the generated module is for. -/
inductive Role where
  | function | module | parameter
  deriving DecidableEq, Repr

/-- The word for a role. -/
def Role.text : Role → Text
  | function => "function"
  | module => "module"
  | parameter => "parameter"

/-- What owns a name in a scope of the generated module. -/
inductive Owner where
  | helper
  /-- The wrapper of the function with this qualified name. -/
  | function (qualifiedName : Text)
  /-- The class of the namespace with this path. -/
  | module (path : List Text)
  deriving DecidableEq, Repr

/-- How a message calls an owner. -/
def Owner.text : Owner → Text
  | helper => "a generated helper"
  | function qualifiedName => qualifiedName
  | module path => "module fn::" ++ Text.join "::" path

/-- Why statements have no module. -/
inductive BindingError where
  /-- A name that cannot be used. -/
  | unusable (role : Role) (name : Text)
  /-- A name that two owners want in one scope. -/
  | taken (wanting : Owner) (name : Text) (having : Owner)
  /-- A name that two arguments of one wrapper want. -/
  | argumentTaken (qualifiedName : Text) (name : Text)
  deriving DecidableEq, Repr

/-- The wording of an error. -/
def BindingError.message : BindingError → Text
  | unusable role name =>
    role.text ++ " name " ++ name.quoted ++ " is not a valid Python identifier"
  | taken wanting name having =>
    wanting.text ++ ":" ++ " Python name " ++ name.quoted ++ " is already used by " ++ having.text
  | argumentTaken qualifiedName name =>
    qualifiedName ++ ":" ++ " parameter " ++ name.quoted ++ " clashes with another argument"

namespace Bindings

/-! ## 2. Names in a scope -/

/-- The name of the connection argument. -/
def connectionName : Text := "db"

/-- The name that the sources are bound to. -/
def sourcesName : Text := "STORED_FUNCTIONS"

/-- The name from which the rule makes the name of the function that defines everything. -/
def defineBase : Text := "define_functions"

/-- A name that can be used for a role. -/
def usable (role : Role) (name : Text) : Except BindingError Text :=
  if isUsable name then .ok name else .error (.unusable role name)

/-- The first of the wanted names that is owned already, or all names with their owners. -/
def claim (owned : List (Text × Owner)) :
    List (Text × Owner) → Except BindingError (List (Text × Owner))
  | [] => .ok owned
  | (name, wanting) :: more =>
    match owned.find? fun o => o.1 == name with
    | some (_, having) => .error (.taken wanting name having)
    | none => claim (owned ++ [(name, wanting)]) more

/-- The names that the functions and the namespaces of one scope want, in order. -/
def wantedNames (rule : NamingRule) (path : List Text) (tree : Namespace) :
    Except BindingError (List (Text × Owner)) := do
  let functions ← tree.functions.mapM fun s => do
    pure (← usable .function (rule.apply s.name), Owner.function s.qualifiedName)
  let modules ← tree.modules.mapM fun (name, _) => do
    pure (← usable .module name, Owner.module (path ++ [name]))
  pure (functions ++ modules)

/-- Whether the names of one scope can be used and differ from each other and from the reserved
ones. -/
def checkScope (rule : NamingRule) (path : List Text) (reserved : List Text) (tree : Namespace) :
    Except BindingError Unit := do
  let wanted ← wantedNames rule path tree
  let _ ← claim (reserved.map fun name => (name, Owner.helper)) wanted
  pure ()

/-- The names of a wrapper's arguments behind the connection.  `seen` are those before. -/
def argumentNames (qualifiedName : Text) (seen : List Text) :
    List Text → Except BindingError (List Text)
  | [] => .ok []
  | parameter :: more => do
    let name ← usable .parameter (argumentName parameter)
    if seen.contains name then .error (.argumentTaken qualifiedName name)
    else
      let names ← argumentNames qualifiedName (name :: seen) more
      pure (name :: names)

/-! ## 3. Lines -/

/-- A line at a depth. -/
def line (depth : Nat) (t : Text) : Text := List.replicate (4 * depth) ' ' ++ t

/-- A character inside a docstring. -/
def docChar (c : Char) : Text := if c = '\\' || c = '"' then ['\\', c] else [c]

/-- The characters of a comment inside a docstring. -/
def docText (comment : Text) : Text := comment.flatMap docChar

/-- Three double quotes. -/
def docQuotes : Text := ['"', '"', '"']

/-- The docstring for the comments in front of a function. -/
def docLines (depth : Nat) : List Text → List Text
  | [] => []
  | [comment] => [line depth (docQuotes ++ docText comment ++ docQuotes)]
  | first :: more =>
    line depth (docQuotes ++ docText first) ::
      more.map (fun c => if c.isEmpty then [] else line depth (docText c)) ++
      [line depth docQuotes]

/-- The header of a wrapper. -/
def headerLine (name : Text) (arguments : List (Text × Parameter)) : Text :=
  let hinted := arguments.map fun (argument, p) => argument ++ ":" ++ " " ++ p.kind.hint
  "async def " ++ name ++ "(" ++ Text.join ", " ((connectionName ++ ":" ++ " Any") :: hinted) ++
    ") -> Any:"

/-- The statement of a wrapper that runs the query with its arguments bound. -/
def queryLine (s : Statement) (arguments : List (Text × Parameter)) : Text :=
  let bound := arguments.map fun (argument, p) => p.ident.name.quoted ++ ":" ++ " " ++ argument
  "return await " ++ connectionName ++ ".query(" ++ s.callQuery.quoted ++ ", \x7b" ++
    Text.join ", " bound ++ "\x7d)"

/-- The lines of a wrapper. -/
def wrapperLines (rule : NamingRule) (depth : Nat) (s : Statement) :
    Except BindingError (List Text) := do
  let name ← usable .function (rule.apply s.name)
  let names ← argumentNames s.qualifiedName [connectionName] s.parameterNames
  let arguments := names.zip s.parameters
  pure
    ((if depth = 0 then [] else [line depth "@staticmethod"]) ++
      [line depth (headerLine name arguments)] ++
      docLines (depth + 1) s.comments ++
      [line (depth + 1) (queryLine s arguments)])

/-- The empty lines in front of a wrapper or a class. -/
def gapLines (depth : Nat) : List Text := if depth = 0 then [[], []] else [[]]

/-- The first lines of the class for a namespace. -/
def classLines (depth : Nat) (name : Text) : List Text :=
  [line depth ("class " ++ name ++ ":"),
   line (depth + 1) (docQuotes ++ "Functions under \x60\x60fn::...::" ++ name ++ "\x60\x60." ++
     docQuotes)]

/-! ## 4. The module -/

mutual

/-- The lines for the functions of a namespace and for the namespaces below. -/
def treeLines (rule : NamingRule) (depth : Nat) (path reserved : List Text) :
    Namespace → Except BindingError (List Text)
  | .node functions modules => do
    checkScope rule path reserved (.node functions modules)
    let wrappers ← functions.mapM fun s => do
      pure (gapLines depth ++ (← wrapperLines rule depth s))
    let classes ← belowLines rule depth path modules
    pure (wrappers.flatten ++ classes)

/-- The lines of the classes for namespaces. -/
def belowLines (rule : NamingRule) (depth : Nat) (path : List Text) :
    List (Text × Namespace) → Except BindingError (List Text)
  | [] => .ok []
  | (name, below) :: more => do
    let name ← usable .module name
    let inside ← treeLines rule (depth + 1) (path ++ [name]) [] below
    let others ← belowLines rule depth path more
    pure (gapLines depth ++ classLines depth name ++ inside ++ others)

end

/-- The imports of the module. -/
def importLines : List Text :=
  ["from __future__ import annotations", "", "import datetime", "from decimal import Decimal",
   "from typing import Any, Optional", "from uuid import UUID"]

/-- The first line of the module: what the bindings were made from. -/
def titleLine (origin : Text) : Text :=
  docQuotes ++ "Bindings generated by surqlfn" ++
    (if origin.isEmpty then Text.of "." else " from " ++ origin ++ ".") ++ docQuotes

/-- The function that sends the sources to the database. -/
def defineLines (name : Text) : List Text :=
  ["async def " ++ name ++ "(" ++ connectionName ++ ":" ++ " Any) -> Any:",
   line 1 (docQuotes ++ "Define every included function on the given connection." ++ docQuotes),
   line 1 ("return await " ++ connectionName ++ ".query(" ++ sourcesName ++ ")")]

/-- The lines of the module. -/
def moduleLines (rule : NamingRule) (origin : Text) (sources : List Text)
    (statements : List Statement) : Except BindingError (List Text) := do
  let defineName ← usable .function (rule.apply defineBase)
  let wrappers ← treeLines rule 0 [] [sourcesName, defineName] (Namespace.ofStatements statements)
  pure
    ([titleLine origin, []] ++ importLines ++ [[], []] ++
      [sourcesName ++ " = " ++ (Text.join "\n" sources).quoted] ++ [[], []] ++
      defineLines defineName ++ wrappers)

/-- The text of the module, which ends with a single line feed. -/
def render (rule : NamingRule) (origin : Text) (sources : List Text) (statements : List Statement) :
    Except BindingError Text := do
  let lines ← moduleLines rule origin sources statements
  pure (Text.trimEnd (Text.join "\n" lines) ++ "\n")

end Bindings

end StoredFunctions
