/-
# The program

What the program does with its arguments, the environment and the file system: an exit code, what
it prints, and the file system afterwards.

A command is a sequence of actions that print and write as they go, and that may fail on the way;
what an action has done stays done when a later one fails.  Printing is one of the actions that may
fail.

`runOn` is the program on any system, and `run` its case for the system of this library.

`main` is `runOn`, and its two commands are in `perform`: `_load` is `documents`, `_cmd_parse`
ends in `printStatements`, and `_cmd_generate` in `generateText` and `deliver`.
-/
import StoredFunctions.Bindings.Module
import StoredFunctions.Command.Arguments
import StoredFunctions.Command.System
import StoredFunctions.Files.Discovery
import StoredFunctions.Logging.Level
import StoredFunctions.Statement.Loading
import StoredFunctions.Statement.Printing

namespace StoredFunctions.Command

/-! ## 1. Effects -/

/-- What the program does. -/
structure Effects where
  code : Nat
  /-- What standard output has taken. -/
  stdout : Text
  /-- The message on standard error, which takes every text. -/
  stderr : Text
  /-- The file system afterwards. -/
  files : FileTree

/-- Why a command fails. -/
inductive Error where
  | logging (e : Logging.Error)
  | settings (e : Settings.Problem Yaml.Failure)
  | discovery (e : Discovery.Error)
  /-- No file with this suffix was found. -/
  | nothingFound (suffix : Text)
  | load (e : LoadError)
  /-- A number to be printed has too many digits. -/
  | oversized
  | naming (e : NamingError)
  | binding (e : BindingError)
  | output (e : FileError)
  /-- Standard output refuses a text, with this wording. -/
  | unprintable (wording : Text)

/-- The wording of an error. -/
def Error.message : Error → Text
  | logging e => e.message
  | settings e => e.message fun _ => Settings.failureMessage
  | discovery e => e.message
  | nothingFound suffix => "no " ++ suffix ++ " files found"
  | load e => e.message
  | oversized =>
    "Exceeds the limit (4300 digits) for integer string conversion; " ++
      "use sys.set_int_max_str_digits() to increase the limit"
  | naming e => e.message
  | binding e => e.message
  | output e => e.message
  | unprintable wording => wording

/-- The error of one part of the program as an error of a command. -/
def lift {ε α : Type} (wrap : ε → Error) : Except ε α → Except Error α
  | .ok a => .ok a
  | .error e => .error (wrap e)

/-! ## 2. Inputs of commands -/

/-- The settings that arguments ask for. -/
def effectiveSettings (system : System) (world : World) (a : Arguments) :
    Except Error Settings := do
  match a.logLevel with
  | some (c :: more) => let _ ← lift .logging (Logging.Loggers.start.withLevelName (c :: more))
  | _ => pure ()
  let settings ←
    lift .settings (Settings.loadFrom system.reader system.home world.files a.config)
  pure (settings.withOverrides
    ⟨a.suffix, if a.sequential then some false else none, none⟩)

/-- The documents that a command is about. -/
def documents (system : System) (world : World) (settings : Settings) (templates : List Text) :
    Except Error (List Document) := do
  let paths ←
    lift .discovery (Discovery.find world.lookup settings.suffix world.files templates)
  if paths.isEmpty then .error (.nothingFound settings.suffix)
  else
    lift .load (Document.loadAllUnder system.turns world.files settings.parallel
      (settings.concurrency.getD []) paths)

/-- The statements of documents, in order. -/
def statementsOf (documents : List Document) : List Statement :=
  documents.flatMap Document.statements

/-- The module that `generate` makes. -/
def generateText (settings : Settings) (naming : Option Text) (documents : List Document) :
    Except Error Text := do
  let written := match naming with
    | some (c :: more) => c :: more
    | _ => settings.naming
  let rule ← lift .naming (NamingRule.parse written)
  let origin := Text.join ", " (documents.map fun d => d.path.name)
  lift .binding (Bindings.render rule origin (documents.map Document.text) (statementsOf documents))

/-! ## 3. Actions -/

/-- What a command has done so far. -/
structure Progress where
  /-- What it has printed. -/
  printed : Text
  /-- The file system as it is now. -/
  files : FileTree

/-- A part of a command.  What it has done before an error stays done. -/
abbrev Action := ExceptT Error (StateM Progress)

namespace Action

/-- A result that was worked out without doing anything. -/
def result {α : Type} (outcome : Except Error α) : Action α := ExceptT.mk (pure outcome)

/-- A result that is worked out from the files as they are now. -/
def reading {α : Type} (f : FileTree → Except Error α) : Action α := do
  result (f (← get).files)

/-- Hands a text to standard output. -/
def emit (console : Console) (t : Text) : Action Unit := do
  let progress ← get
  match console.refusal? progress.printed t with
  | some wording => result (.error (.unprintable wording))
  | none => set { progress with printed := progress.printed ++ t }

/-- Hands a text and a line end to standard output, one behind the other. -/
def print (console : Console) (t : Text) : Action Unit := do
  emit console t
  emit console "\n"

/-- Carries out operations on the files. -/
def operate (operation : FileTree.Operation Unit) : Action Unit := do
  let progress ← get
  let (outcome, files) := operation.run progress.files
  set { progress with files }
  result (lift .output outcome)

end Action

/-! ## 4. Commands -/

open Command.Action

/-- A text to be printed, if it has one. -/
def printable (t : Option Text) : Except Error Text := t.elim (.error .oversized) .ok

/-- Prints statements: as an archive, or their headers one after another. -/
def printStatements (console : Console) (json : Bool) (statements : List Statement) :
    Action Unit := do
  if json then print console (← result (printable (Archive.write? true statements)))
  else statements.forM fun s => do print console (← result (printable s.signature?))

/-- Puts a module where it is wanted. -/
def deliver (console : Console) (text : Text) : Option FilePath → Action Unit
  | none => emit console text
  | some path => operate (FileTree.writeWithin path text)

/-- Carries out arguments. -/
def perform (system : System) (lookup : Text → Option Text) (a : Arguments) : Action Unit := do
  let settings ← reading fun files => effectiveSettings system ⟨lookup, files⟩ a
  let found ← reading fun files => documents system ⟨lookup, files⟩ settings a.templates
  match a.verb with
  | .parse json => printStatements system.console json (statementsOf found)
  | .generate naming output =>
    let text ← result (generateText settings naming found)
    deliver system.console text output

/-! ## 5. The program -/

/-- The exit code of arguments that are refused. -/
def refusedCode : Nat := 2

/-- The text with a line end behind it. -/
def asLine (t : Text) : Text := t ++ "\n"

/-- The message of an error. -/
def errorLine (e : Error) : Text := asLine ("[surqlfn] error: " ++ e.message)

/-- What the program does on a system, unless its arguments are refused. -/
def runOn (system : System) (world : World) (args : List Text) : Except Refusal Effects :=
  match readArguments args with
  | .error refusal => .error refusal
  | .ok a =>
    match (perform system world.lookup a).run ⟨[], world.files⟩ with
    | (.ok (), progress) => .ok ⟨0, progress.printed, [], progress.files⟩
    | (.error e, progress) => .ok ⟨1, progress.printed, errorLine e, progress.files⟩

/-- What the program does, unless its arguments are refused. -/
def run (world : World) (args : List Text) : Except Refusal Effects := runOn .standard world args

end StoredFunctions.Command
