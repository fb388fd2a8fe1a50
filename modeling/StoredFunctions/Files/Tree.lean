/-
# File trees

What the program sees of a file system: a tree of directories and files, and the working
directory in it.  There are no links, so `..` leads back to where the way came from.

Looking up a path can fail in two ways, which the system tells apart: a name is missing, or the
way leads through a file.
-/
import StoredFunctions.Files.Path
import StoredFunctions.Text.Blank
import StoredFunctions.Text.Quoted
import StoredFunctions.Text.Utf8

namespace StoredFunctions

/-! ## 1. Trees -/

/-- A file with its bytes, or a directory with its entries by name. -/
inductive Entry where
  | file (bytes : List UInt8)
  | directory (entries : List (Text × Entry))

namespace Entry

/-- Whether an entry is a directory. -/
def isDirectory : Entry → Bool
  | directory _ => true
  | file _ => false

/-- The entry of a directory with this name. -/
def find? (name : Text) (entries : List (Text × Entry)) : Option Entry :=
  (entries.find? fun e => e.1 == name).map Prod.snd

/-- The entries with the one called `name` replaced, or added behind the others. -/
def put (name : Text) (value : Entry) : List (Text × Entry) → List (Text × Entry)
  | [] => [(name, value)]
  | (n, e) :: more => if n = name then (n, value) :: more else (n, e) :: put name value more

/-- The tree with `value` at the end of the way, and with the directories that the way needs. -/
def insert (value : Entry) : List Text → Entry → Entry
  | [], _ => value
  | name :: way, directory entries =>
    directory (put name (insert value way ((find? name entries).getD (directory []))) entries)
  | name :: way, file _ => directory [(name, insert value way (directory []))]

end Entry

/-- A file system: the root directory, and the way from it to the working directory. -/
structure FileTree where
  root : Entry
  here : List Text

/-! ## 2. Errors -/

/-- Why the system refuses an operation. -/
inductive FileError where
  | missing (path : FilePath)
  | isDirectory (path : FilePath)
  | notDirectory (path : FilePath)
  | occupied (path : FilePath)
  /-- A path with the NUL character, which the system cannot be asked for. -/
  | nulInPath
  deriving DecidableEq, Repr

/-- The wording of an error that has a number. -/
def FileError.numbered (number : Nat) (reason : Text) (path : FilePath) : Text :=
  "[Errno " ++ Text.ofNat number ++ "] " ++ reason ++ ":" ++ " " ++ path.text.quoted

/-- The wording of an error. -/
def FileError.message : FileError → Text
  | missing p => numbered 2 "No such file or directory" p
  | occupied p => numbered 17 "File exists" p
  | notDirectory p => numbered 20 "Not a directory" p
  | isDirectory p => numbered 21 "Is a directory" p
  | nulInPath => "embedded null byte"

namespace FileTree

/-! ## 3. Looking up -/

/-- What stands at the end of a way. -/
inductive Found where
  /-- An entry, and the way to it without `..`. -/
  | entry (way : List Text) (e : Entry)
  | missing
  | throughFile

/-- Follows names from the entry at the top of the stack, below which are the directories on the
way to it, with their names. -/
def follow (current : Entry) (stack : List (Text × Entry)) : List Text → Found
  | [] => .entry (stack.map Prod.fst).reverse current
  | name :: more =>
    match current with
    | .file _ => .throughFile
    | .directory entries =>
      if name = ['.', '.'] then
        match stack with
        | [] => follow current [] more
        | (_, above) :: below => follow above below more
      else match Entry.find? name entries with
        | none => .missing
        | some e => follow e ((name, current) :: stack) more

/-- What stands at a path. -/
def find (t : FileTree) (p : FilePath) : Found :=
  follow t.root [] (if p.isAbsolute then p.names else t.here ++ p.names)

/-- The entry at a path. -/
def entry? (t : FileTree) (p : FilePath) : Option Entry :=
  match t.find p with
  | .entry _ e => some e
  | _ => none

/-- The bytes of the file at a path. -/
def readBytes (t : FileTree) (p : FilePath) : Except FileError (List UInt8) :=
  if p.hasNul then .error .nulInPath
  else match t.find p with
  | .entry _ (.file bytes) => .ok bytes
  | .entry _ (.directory _) => .error (.isDirectory p)
  | .missing => .error (.missing p)
  | .throughFile => .error (.notDirectory p)

/-! ## 4. Text files -/

/-- Why a text file cannot be read. -/
inductive ReadError where
  | refused (e : FileError)
  | undecodable (e : Utf8.DecodeError)
  deriving DecidableEq, Repr

/-- The wording of an error. -/
def ReadError.message : ReadError → Text
  | refused e => e.message
  | undecodable e => e.message

/-- The text of the file at a path, with unified line ends. -/
def readText (t : FileTree) (p : FilePath) : Except ReadError Text :=
  match t.readBytes p with
  | .error e => .error (.refused e)
  | .ok bytes =>
    match Utf8.decode bytes with
    | .error e => .error (.undecodable e)
    | .ok text => .ok text.unifyLines

/-! ## 5. Writing -/

/-- Makes the directory at a path, in one that has to exist.  An existing directory is left. -/
def makeOne (t : FileTree) (p : FilePath) : Except FileError FileTree :=
  if p.hasNul then .error .nulInPath
  else match t.find p with
  | .entry _ (.directory _) => .ok t
  | .entry _ (.file _) => .error (.occupied p)
  | .throughFile => .error (.notDirectory p)
  | .missing =>
    match t.find p.parent with
    | .entry way (.directory _) =>
      .ok { t with root := Entry.insert (.directory []) (way ++ [p.name]) t.root }
    | .entry _ (.file _) => .error (.notDirectory p)
    | _ => .error (.missing p)

/-- Writes the file at a path, in a directory that has to exist. -/
def writeBytes (t : FileTree) (p : FilePath) (bytes : List UInt8) : Except FileError FileTree :=
  if p.hasNul then .error .nulInPath
  else match t.find p with
  | .entry _ (.directory _) => .error (.isDirectory p)
  | .entry way (.file _) => .ok { t with root := Entry.insert (.file bytes) way t.root }
  | .throughFile => .error (.notDirectory p)
  | .missing =>
    match t.find p.parent with
    | .entry way (.directory _) =>
      .ok { t with root := Entry.insert (.file bytes) (way ++ [p.name]) t.root }
    | .entry _ (.file _) => .error (.notDirectory p)
    | _ => .error (.missing p)

/-- Writes the text file at a path, in a directory that has to exist. -/
def write (t : FileTree) (p : FilePath) (content : Text) : Except FileError FileTree :=
  t.writeBytes p (Utf8.encode content)

/-! ## 6. Operations one after another -/

/-- Operations on a tree.  What was done before an error stays done. -/
abbrev Operation := ExceptT FileError (StateM FileTree)

/-- One operation, which does nothing if it is refused. -/
def single (operation : FileTree → Except FileError FileTree) : Operation Unit := do
  match operation (← get) with
  | .ok t => set t
  | .error e => throw e

/-- Makes the directory at a path and those on the way to it, at most `depth` of them. -/
def makeDirectories : Nat → FilePath → Operation Unit
  | 0, p => throw (.missing p)
  | depth + 1, p => do
    match (← get).makeOne p with
    | .ok t => set t
    | .error (.missing q) =>
      if p.names.isEmpty then throw (.missing q)
      else
        makeDirectories depth p.parent
        single (makeOne · p)
    | .error e => throw e

/-- Makes the directory at a path and those on the way to it. -/
def makeDirectory (t : FileTree) (p : FilePath) : Except FileError FileTree :=
  match (makeDirectories (p.names.length + 1) p).run t with
  | (.ok (), made) => .ok made
  | (.error e, _) => .error e

/-- Writes the text file at a path, and makes the directories on the way first. -/
def writeWithin (p : FilePath) (content : Text) : Operation Unit := do
  makeDirectories (p.parent.names.length + 1) p.parent
  single (write · p content)

/-! ## 7. Comparing -/

mutual

/-- The files at and below an entry, with the ways to them. -/
def filesAt (way : List Text) : Entry → List (List Text × List UInt8)
  | .file bytes => [(way, bytes)]
  | .directory entries => filesIn way entries

/-- The files at and below the entries of a directory, with the ways to them. -/
def filesIn (way : List Text) : List (Text × Entry) → List (List Text × List UInt8)
  | [] => []
  | (name, e) :: more => filesAt (way ++ [name]) e ++ filesIn way more

end

/-- The path of a way from the root: relative where it leads below the working directory. -/
def pathOf (t : FileTree) (way : List Text) : FilePath :=
  if t.here.isPrefixOf way then ⟨[], way.drop t.here.length⟩ else ⟨['/'], way⟩

/-- The files of `after` that `before` does not have, or has with other bytes. -/
def changes (before after : FileTree) : List (FilePath × List UInt8) :=
  ((filesAt [] after.root).filter fun (way, bytes) =>
    match follow before.root [] way with
    | .entry _ (.file old) => old != bytes
    | _ => true).map fun (way, bytes) => (after.pathOf way, bytes)

end FileTree

end StoredFunctions
