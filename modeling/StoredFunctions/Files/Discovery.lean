/-
# Finding documents

Templates become paths, and paths become documents: a file with the wanted suffix is itself one,
and a directory stands for all such files below it, depth first and in the order of names.  A
document that several templates lead to counts once, where it was found first.

`expand_path` is `expand` at the entry of a path, and `resolve_sources` is `find`.
-/
import StoredFunctions.Files.PathTemplate
import StoredFunctions.Files.Tree

namespace StoredFunctions.Discovery

/-! ## 1. Below a path -/

/-- Puts named results in the order of names, equal names in the order they had. -/
def byName {α : Type} (found : List (Text × α)) : List (Text × α) :=
  found.mergeSort fun a b => a.1.le b.1

mutual

/-- The files with this suffix at and below an entry. -/
def expand (suffix : Text) (path : FilePath) : Entry → List FilePath
  | .file _ => if path.suffix = suffix then [path] else []
  | .directory entries => (byName (expandEntries suffix path entries)).flatMap Prod.snd

/-- The files with this suffix at and below each entry of a directory, with the entries' names. -/
def expandEntries (suffix : Text) (path : FilePath) :
    List (Text × Entry) → List (Text × List FilePath)
  | [] => []
  | (name, e) :: more =>
    (name, expand suffix (path.child name) e) :: expandEntries suffix path more

end

/-! ## 2. From templates -/

/-- Why templates do not lead to documents. -/
inductive Error where
  | template (e : TemplateError)
  /-- A template whose path does not exist. -/
  | missing (path : FilePath) (written : Text)
  deriving DecidableEq, Repr

/-- The wording of an error. -/
def Error.message : Error → Text
  | template e => e.message
  | missing path written =>
    "file does not exist: " ++ path.text ++ " (from " ++ written.quoted ++ ")"

/-- The files that a template leads to. -/
def expandTemplate (lookup : Text → Option Text) (suffix : Text) (tree : FileTree)
    (written : Text) : Except Error (List FilePath) :=
  match PathTemplate.resolve lookup written with
  | .error e => .error (.template e)
  | .ok resolved =>
    let path := FilePath.ofText resolved
    match tree.entry? path with
    | none => .error (.missing path written)
    | some e => .ok (expand suffix path e)

/-- The list without its later copies of equal paths. -/
def firsts : List FilePath → List FilePath
  | [] => []
  | p :: more => p :: (firsts more).filter (· != p)

/-- The files that templates lead to, each once. -/
def find (lookup : Text → Option Text) (suffix : Text) (tree : FileTree)
    (templates : List Text) : Except Error (List FilePath) := do
  let found ← templates.mapM (expandTemplate lookup suffix tree)
  pure (firsts found.flatten)

end StoredFunctions.Discovery
