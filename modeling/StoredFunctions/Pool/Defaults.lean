/-
# Pool settings

How many workers a pool has, and how long it may take.  Both are read from the settings of the
pool's mode and are forgiving: what does not spell a number counts as not given.  The exceptions
are numbers too large to be used, which are reported.

`_defaults` is `defaults`, `_coerce` is `count?` and `seconds?`, and `_resolve_max_workers` is
`size`.
-/
import StoredFunctions.Numbers.Reading
import StoredFunctions.Text.LowerCase
import StoredFunctions.Value.Display

namespace StoredFunctions.Pool

/-! ## 1. Modes and errors -/

/-- How the workers of a pool are run. -/
inductive Mode where
  | thread | process
  deriving DecidableEq, Repr

/-- The word for a mode. -/
def Mode.text : Mode → Text
  | thread => "thread"
  | process => "process"

/-- The mode that a word names. -/
def Mode.ofText? (word : Text) : Option Mode := [thread, process].find? fun m => m.text == word

/-- Why settings cannot be used. -/
inductive SettingError where
  /-- A word that names no mode. -/
  | unknownMode (word : Text)
  /-- An infinite number of workers. -/
  | infiniteCount
  /-- A time limit too large for a double-precision number. -/
  | hugeTimeout
  /-- An integer too long to be shown, in place of the word for a mode. -/
  | unshowableMode
  deriving DecidableEq, Repr

/-- The wording of an error. -/
def SettingError.message : SettingError → Text
  | unknownMode word => "unknown concurrency mode " ++ word.quoted
  | infiniteCount => "cannot convert float infinity to integer"
  | hugeTimeout => "int too large to convert to float"
  | unshowableMode => unshowableMessage

/-! ## 2. Reading numbers -/

/-- The text of bytes, if all of them are ASCII. -/
def asciiText? (bytes : List UInt8) : Option Text :=
  if bytes.all (· < 128) then some (bytes.map fun b => Char.ofNat b.toNat) else none

/-- The whole number that a setting gives, if it gives one. -/
def count? : Value → Except SettingError (Option Int)
  | .bool b => .ok (some (if b then 1 else 0))
  | .int n => .ok (some n)
  | .float (.infinite _) => .error .infiniteCount
  | .float x => .ok x.truncate?
  | .text t => .ok (Numbers.readInt? t)
  | .bytes b => .ok ((asciiText? b).bind Numbers.readInt?)
  | .null | .date _ | .moment _ | .list _ | .table _ | .pair _ _ | .set _ | .enclosing _ => .ok none

/-- The number of seconds that a setting gives, if it gives one. -/
def seconds? : Value → Except SettingError (Option Binary64)
  | .bool b => .ok (Binary64.ofInt? (if b then 1 else 0))
  | .int n =>
    match Binary64.ofInt? n with
    | some x => .ok (some x)
    | none => .error .hugeTimeout
  | .float x => .ok (some x)
  | .text t => .ok (Numbers.readFloat? t)
  | .bytes b => .ok ((asciiText? b).bind Numbers.readFloat?)
  | .null | .date _ | .moment _ | .list _ | .table _ | .pair _ _ | .set _ | .enclosing _ => .ok none

/-! ## 3. Defaults -/

/-- The entries of a section of the settings. -/
abbrev Section := List (Value × Value)

/-- What the settings say about a pool. -/
structure Defaults where
  mode : Mode
  workers : Option Int
  timeout : Option Binary64
  deriving DecidableEq, Repr

/-- The word for the mode: the requested one, or else the default of the settings in lower case,
or else `thread`. -/
def modeWord (settings : Section) (requested : Option Text) : Except SettingError Text :=
  match requested with
  | some (c :: more) => .ok (c :: more)
  | _ =>
    match Value.find? "default_mode" settings with
    | none => .ok "thread"
    | some v =>
      match v.display? with
      | some word => .ok word.lower
      | none => .error .unshowableMode

/-- The settings of a mode; anything but a section counts as an empty one. -/
def modeSection (settings : Section) (mode : Mode) : Section :=
  match Value.find? mode.text settings with
  | some (.table entries) => entries
  | _ => []

/-- What the settings say about a pool in the requested mode. -/
def defaults (settings : Section) (requested : Option Text) : Except SettingError Defaults := do
  let word ← modeWord settings requested
  match Mode.ofText? word with
  | none => .error (.unknownMode word)
  | some mode =>
    let own := modeSection settings mode
    let workers ← count? ((Value.find? "max_workers" own).getD .null)
    let timeout ← seconds? ((Value.find? "timeout" own).getD .null)
    pure ⟨mode, workers, timeout⟩

/-! ## 4. Size -/

/-- How many threads a processor is given. -/
def threadsPerProcessor : Nat := 4

/-- The number of workers for `tasks` tasks on a machine with `processors` processors, if that is
known: as many as configured, and otherwise one for each processor or a few threads for each, but
never more than there are tasks and never none. -/
def size (mode : Mode) (configured : Option Int) (processors : Option Nat) (tasks : Nat) : Nat :=
  let known := match processors with
    | some (n + 1) => n + 1
    | _ => 1
  match configured with
  | some (.ofNat (n + 1)) => min (n + 1) (max 1 tasks)
  | _ =>
    match mode with
    | .process => min known (max 1 tasks)
    | .thread => max 1 (min tasks (known * threadsPerProcessor))

end StoredFunctions.Pool
