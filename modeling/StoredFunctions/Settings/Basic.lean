/-
# Settings

What can be set: which files count as documents, whether they are loaded by a pool, how wrappers
are named, and how the pool works.  A settings document is a table of sections; what it does not
say keeps its default, and what it says in the wrong type is taken by its text or by whether it
counts as true.

Nothing here depends on how the text of a document is read: `loadFrom` takes the reader as it comes,
and `load` is its case for the reader of this library.

`Settings` keeps its name, and `with_overrides` is `withOverrides`; `load_config` and
`load_settings` are `ofFile` and `loadFrom`.
-/
import StoredFunctions.Files.Tree
import StoredFunctions.Pool.Defaults
import StoredFunctions.Yaml.Document

namespace StoredFunctions

/-- The settings of the program. -/
structure Settings where
  /-- The suffix of documents. -/
  suffix : Text
  /-- Whether several documents are loaded by a pool. -/
  parallel : Bool
  /-- The naming rule of wrappers, as it is written. -/
  naming : Text
  /-- The section on pools, if there is one. -/
  concurrency : Option Pool.Section

namespace Settings

/-! ## 1. Defaults and problems -/

/-- The settings that are used where a document says nothing. -/
def default : Settings := ⟨".surql", true, "is", none⟩

/-- Why there are no settings, where `ε` is why a document has no value. -/
inductive Problem (ε : Type) where
  | missing (path : FilePath)
  | unreadable (e : FileTree.ReadError)
  /-- A document without a value. -/
  | malformed (document : Text) (e : ε)
  | rootNotATable
  | sectionNotATable
  /-- An integer that is too long, where its text is wanted. -/
  | unshowable

/-- What comes before the wording of a document that breaks the rules of the format. -/
def malformedMessage : Text := "failed to parse configuration"

/-- The wording of a document without a value.  Where only something in it has none, that has a
wording of its own. -/
def failureMessage : Yaml.Failure → Text
  | .form wording => malformedMessage ++ ":" ++ " " ++ wording
  | .word wording => wording

/-- The wording of a problem, where `wording` is that of a document without a value. -/
def Problem.message {ε : Type} (wording : Text → ε → Text) : Problem ε → Text
  | missing path => "configuration file not found: " ++ path.text
  | unreadable e => e.message
  | malformed document e => wording document e
  | rootNotATable => "configuration root must be a mapping"
  | sectionNotATable => "'loader' and 'codegen' sections must be mappings"
  | unshowable => unshowableMessage

/-- The problems of documents in the format that this library reads. -/
abbrev Error := Problem Yaml.Error

/-- The wording of an error. -/
def Error.message (e : Error) : Text :=
  Problem.message (fun document e => failureMessage (e.failure document)) e

/-! ## 2. Reading -/

section

variable {ε : Type}

/-- The value of a section; one that is missing or counts as false is an empty table. -/
def sectionOf (name : Text) (entries : List (Value × Value)) : Value :=
  match Value.find? name entries with
  | some v => if v.isTruthy then v else .table []
  | none => .table []

/-- The text of an entry; the fallback if it is missing. -/
def shownOr (fallback name : Text) (entries : List (Value × Value)) : Except (Problem ε) Text :=
  match Value.find? name entries with
  | none => .ok fallback
  | some v =>
    match v.display? with
    | some t => .ok t
    | none => .error .unshowable

/-- The settings that the sections of a document give. -/
def ofEntries (entries : List (Value × Value)) : Except (Problem ε) Settings := do
  match sectionOf "loader" entries, sectionOf "codegen" entries with
  | .table loader, .table codegen =>
    let suffix ← shownOr default.suffix "suffix" loader
    let naming ← shownOr default.naming "alias" codegen
    pure
      { suffix
        parallel := ((Value.find? "parallel" loader).map Value.isTruthy).getD default.parallel
        naming
        concurrency :=
          match Value.find? "concurrency" entries with
          | some (.table own) => some own
          | _ => none }
  | _, _ => .error .sectionNotATable

/-- The settings that a document gives, as `read` has its value. -/
def ofText (read : Text → Except ε Value) (t : Text) : Except (Problem ε) Settings :=
  match read t with
  | .error e => .error (.malformed t e)
  | .ok .null => ofEntries []
  | .ok (.table entries) => ofEntries entries
  | .ok _ => .error .rootNotATable

/-- The settings of the document at a path. -/
def ofFile (read : Text → Except ε Value) (tree : FileTree) (path : FilePath) :
    Except (Problem ε) Settings :=
  match tree.entry? path with
  | none => .error (.missing path)
  | some _ =>
    match tree.readText path with
    | .error e => .error (.unreadable e)
    | .ok t => ofText read t

/-- Where the program is installed. -/
structure Installation where
  files : FileTree
  /-- Where the document would be that comes with the program. -/
  document : FilePath

/-- The settings of the document at a path.  Without a path they are those of the document that
comes with the program, and that one may be missing. -/
def loadFrom (read : Text → Except ε Value) (home : Installation) (tree : FileTree) :
    Option FilePath → Except (Problem ε) Settings
  | none =>
    match home.files.entry? home.document with
    | none => .ok default
    | some _ => ofFile read home.files home.document
  | some path => ofFile read tree path

end

/-! ## 3. The document that comes with the program -/

/-- Its text. -/
def bundledText : Text :=
  "loader:\n  suffix: .surql\n  parallel: true\n\n" ++
  "codegen:\n  alias: is\n\n" ++
  "concurrency:\n  default_mode: thread\n" ++
  "  thread:\n    max_workers: 8\n    timeout: 60\n" ++
  "  process:\n    max_workers: null\n    timeout: 120\n"

/-- An installation with it. -/
def Installation.complete : Installation where
  files := ⟨.directory
    [("configs", .directory [("default.yaml", .file (Utf8.encode bundledText))])], []⟩
  document := ⟨[], ["configs", "default.yaml"]⟩

/-- The settings of the document at a path, or of the one that comes with the program, read by this
library. -/
def load (tree : FileTree) (path : Option FilePath) : Except Error Settings :=
  loadFrom Yaml.parse .complete tree path

/-! ## 4. Changing -/

/-- What is set on top of settings. -/
structure Overrides where
  suffix : Option Text
  parallel : Option Bool
  naming : Option Text

/-- The settings with some of them replaced. -/
def withOverrides (s : Settings) (o : Overrides) : Settings :=
  { s with
    suffix := o.suffix.getD s.suffix
    parallel := o.parallel.getD s.parallel
    naming := o.naming.getD s.naming }

end Settings

end StoredFunctions
