/-
# The command line

Runs the program on the system: reads those parts of the environment and of the file system that
the arguments name, and puts the effects into practice.
-/
import StoredFunctions.Command.Run

namespace StoredFunctions.Command.Terminal

/-! ## 1. Reading the system -/

/-- A path as the system takes it. -/
def spelling (p : FilePath) : String := String.ofList p.text

/-- The values that variables have in the environment. -/
def readVariables (names : List Text) : IO (Text → Option Text) := do
  let values ← names.mapM fun name => do
    pure (name, ← IO.getEnv (String.ofList name))
  pure fun name => ((values.find? fun v => v.1 == name).bind Prod.snd).map String.toList

/-- The entry at a path, with everything below it, if there is one. -/
partial def readEntry (path : String) : IO (Option Entry) := do
  let place := (← IO.currentDir) / path
  if ← place.isDir then
    let entries ← (← place.readDir).toList.filterMapM fun item => do
      let found ← readEntry (path ++ "/" ++ item.fileName)
      pure (found.map fun e => (item.fileName.toList, e))
    pure (some (.directory entries))
  else if ← place.pathExists then
    pure (some (.file (← IO.FS.readBinFile place).toList))
  else
    pure none

/-- The way from the root to a path of a tree. -/
def wayTo (t : FileTree) (p : FilePath) : List Text :=
  (if p.isAbsolute then p.names else t.here ++ p.names).foldl
    (fun way name => if name = ['.', '.'] then way.dropLast else way ++ [name]) []

/-- The tree with what the system has at a path. -/
def withEntry (t : FileTree) (p : FilePath) : IO FileTree := do
  match ← readEntry (spelling p) with
  | none => pure t
  | some e => pure { t with root := Entry.insert e (wayTo t p) t.root }

/-- The tree with the directories on the way to a path that the system has, and the entry at its
end unless that is a directory. -/
def withWay (t : FileTree) (p : FilePath) : IO FileTree :=
  (List.range (p.names.length + 1)).foldlM
    (fun t count => do
      let p := { p with names := p.names.take count }
      if (t.entry? p).isSome then pure t
      else if ← ((← IO.currentDir) / spelling p).isDir then
        pure { t with root := Entry.insert (.directory []) (wayTo t p) t.root }
      else withEntry t p)
    t

/-- The part of the system that arguments name. -/
def readWorld (a : Arguments) : IO World := do
  let lookup ← readVariables (a.templates.flatMap PathTemplate.mentioned)
  let here := (FilePath.ofText (← IO.currentDir).toString.toList).names
  let start : FileTree := ⟨Entry.insert (.directory []) here (.directory []), here⟩
  let output := match a.verb with
    | .generate _ output => output
    | .parse _ => none
  let named ← (a.config.toList ++ output.toList).foldlM withWay start
  let sources := a.templates.filterMap fun t => (PathTemplate.resolve lookup t).toOption
  let files ← (sources.map FilePath.ofText).foldlM withEntry named
  pure ⟨lookup, files⟩

/-! ## 2. Acting on the system -/

/-- Writes the files that differ between two trees. -/
def writeChanges (before after : FileTree) : IO Unit :=
  (FileTree.changes before after).forM fun (path, bytes) => do
    IO.FS.createDirAll (spelling path.parent)
    IO.FS.writeBinFile (spelling path) (ByteArray.mk bytes.toArray)

/-- Prints and writes what the program does, and gives its exit code. -/
def carryOut (world : World) (effects : Effects) : IO UInt32 := do
  writeChanges world.files effects.files
  IO.print (String.ofList effects.stdout)
  IO.eprint (String.ofList effects.stderr)
  pure effects.code.toUInt32

/-- What arguments may look like. -/
def usage : String :=
  "usage: surqlfn [-h] [--config CONFIG] [--log-level LEVEL] parse|generate ...\n"

/-- Runs the program with these arguments. -/
def run (args : List Text) : IO UInt32 := do
  match readArguments args with
  | .error .help => IO.print usage; pure 0
  | .error .invalid => IO.eprint usage; pure refusedCode.toUInt32
  | .ok a =>
    let world ← readWorld a
    match Command.run world args with
    | .ok effects => carryOut world effects
    | .error _ => pure refusedCode.toUInt32

end StoredFunctions.Command.Terminal

/-- The program. -/
def main (args : List String) : IO UInt32 :=
  StoredFunctions.Command.Terminal.run (args.map String.toList)
