/-
# Loading documents

Documents are read and parsed one by one, or as the tasks of a pool; either way the results come
in the order of the paths, and a document that fails ends the load.  A single document is never
given to a pool.

`parse_source` is `Document.load`, and `load_sources` is `Document.loadAllUnder`, for any schedules
of the pool; `load_statements` keeps its statements.  `Document.loadAll` and
`Document.loadStatements` are these for tasks which take no time.
-/
import StoredFunctions.Files.Tree
import StoredFunctions.Pool.Run
import StoredFunctions.Statement.Reader

namespace StoredFunctions

/-- A document that was read. -/
structure Document where
  path : FilePath
  text : Text
  statements : List Statement

/-- Why a document cannot be loaded. -/
inductive DocumentError where
  | unreadable (e : FileTree.ReadError)
  | unparsable (e : Fault)

/-- The wording of an error. -/
def DocumentError.message : DocumentError → Text
  | unreadable e => e.message
  | unparsable e => e.message

/-- Why documents cannot be loaded. -/
inductive LoadError where
  | document (e : DocumentError)
  | pool (e : Pool.Error DocumentError)

/-- The wording of an error. -/
def LoadError.message : LoadError → Text
  | document e => e.message
  | pool (.notRunnable index) => "task at position " ++ Text.ofNat index ++ " cannot be run"
  | pool (.setting e) => e.message
  | pool (.failed index mode cause) => Pool.failedMessage index mode cause.message
  | pool (.timedOut timeout _ _) => Pool.timedOutMessage timeout

namespace Document

/-- The document at a path. -/
def load (tree : FileTree) (path : FilePath) : Except DocumentError Document :=
  match tree.readText path with
  | .error e => .error (.unreadable e)
  | .ok text =>
    match Statement.parseAll path.text text with
    | .error e => .error (.unparsable e)
    | .ok statements => .ok ⟨path, text, statements⟩

/-- Whether documents are loaded by a pool: if that is wanted and there is more than one. -/
def inPool (parallel : Bool) (paths : List FilePath) : Bool := parallel && 2 ≤ paths.length

/-- The documents at paths, where `turns` gives the pool's schedule for a time limit. -/
def loadAllUnder (turns : Option Binary64 → List Pool.Turn) (tree : FileTree) (parallel : Bool)
    (settings : Pool.Section) (paths : List FilePath) : Except LoadError (List Document) :=
  if inPool parallel paths then
    match Pool.runUnder turns settings Pool.Request.none
        (paths.map fun p => Pool.Task.computation (load tree p)) with
    | .ok documents => .ok documents
    | .error e => .error (.pool e)
  else match paths.mapM (load tree) with
    | .ok documents => .ok documents
    | .error e => .error (.document e)

/-- The documents at paths, where loading one takes no time. -/
def loadAll (tree : FileTree) (parallel : Bool) (settings : Pool.Section)
    (paths : List FilePath) : Except LoadError (List Document) :=
  loadAllUnder Pool.schedule tree parallel settings paths

/-- The statements of the documents at paths, where loading one takes no time. -/
def loadStatements (tree : FileTree) (parallel : Bool) (settings : Pool.Section)
    (paths : List FilePath) : Except LoadError (List Statement) :=
  (loadAll tree parallel settings paths).map fun documents =>
    (documents.map Document.statements).flatten

end Document

end StoredFunctions
