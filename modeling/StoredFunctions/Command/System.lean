/-
# What surrounds a run

A run of the program depends on more than its arguments, the environment and the files: on when
the tasks of a pool are completed and when its time has passed, on the reader of settings documents,
on the place where the program is installed, and on what standard output takes.  A `System` holds
all of that, and nothing is assumed of it.

Standard output takes a text whole, or it refuses it and takes nothing of it.  It may refuse a text
for a character that its encoding does not have, as `Console.ascii` does, or for what it has taken
before.
-/
import StoredFunctions.Pool.Run
import StoredFunctions.Settings.Basic
import StoredFunctions.Text.Quoted

namespace StoredFunctions.Command

/-! ## 1. Standard output -/

/-- A standard output. -/
structure Console where
  /-- The wording with which it refuses a text behind what it has taken, if it does. -/
  refusal? : (taken text : Text) → Option Text

namespace Console

/-- A standard output that takes every text. -/
def unlimited : Console := ⟨fun _ _ => none⟩

/-- Whether a character is one of the first 128. -/
def isAscii (c : Char) : Bool := c.toNat < 0x80

end Console

/-! ## 2. Systems -/

/-- What surrounds a run. -/
structure System where
  /-- What happens at the turns of a pool with this time limit. -/
  turns : Option Binary64 → List Pool.Turn
  /-- The reader of settings documents. -/
  reader : Yaml.DocumentReader
  /-- Where the program is installed. -/
  home : Settings.Installation
  console : Console

/-- The system that this library runs on. -/
def System.standard : System := ⟨Pool.schedule, Yaml.reader, .complete, .unlimited⟩

/-- What the program sees beside its arguments. -/
structure World where
  /-- The values of environment variables. -/
  lookup : Text → Option Text
  files : FileTree

end StoredFunctions.Command
