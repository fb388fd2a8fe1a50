/-
# Levels of loggers

All loggers of the program stand under one, whose level decides for those below it that have no
level of their own.  The level zero means no level: then the level of the host's root decides.

Levels are named without regard to letter case.  Names are ASCII, so of the characters beyond
ASCII only those matter whose upper-case form is ASCII.

`set_level` is `withLevel` and `withLevelName`, and `get_logger` is `levelOf`, which says what
level the logger has.
-/
import StoredFunctions.Text.Quoted

namespace StoredFunctions.Logging

/-! ## 1. Names of levels -/

/-- The level of warnings, at which loggers start. -/
def warningLevel : Int := 30

/-- The named levels. -/
def namedLevels : List (Text × Int) :=
  [("CRITICAL", 50), ("FATAL", 50), ("ERROR", 40), ("WARNING", 30), ("WARN", 30), ("INFO", 20),
   ("DEBUG", 10), ("NOTSET", 0)]

/-- The upper-case form of a character, as far as it is ASCII. -/
def upperChar (c : Char) : Text :=
  if c = 'ı' then ['I']
  else if c = 'ſ' then ['S']
  else if c = 'ß' then ['S', 'S']
  else if c = 'ﬀ' then ['F', 'F']
  else if c = 'ﬁ' then ['F', 'I']
  else if c = 'ﬂ' then ['F', 'L']
  else if c = 'ﬃ' then ['F', 'F', 'I']
  else if c = 'ﬄ' then ['F', 'F', 'L']
  else if c = 'ﬅ' || c = 'ﬆ' then ['S', 'T']
  else [c.toUpper]

/-- The level that a name stands for. -/
def level? (name : Text) : Option Int :=
  (namedLevels.find? fun l => l.1 == name.flatMap upperChar).map Prod.snd

/-! ## 2. Loggers -/

/-- What goes wrong with loggers. -/
inductive Error where
  | unknownLevel (name : Text)
  | foreignName (name : Text)
  deriving DecidableEq, Repr

/-- The name of the logger above all others. -/
def rootName : Text := "surqlfn"

/-- The wording of an error. -/
def Error.message : Error → Text
  | unknownLevel name => "unknown log level " ++ name.quoted
  | foreignName name =>
    "logger name must live under " ++ rootName.quoted ++ ", got " ++ name.quoted

/-- The loggers of the program: the level of the one above all others. -/
structure Loggers where
  level : Int
  deriving DecidableEq, Repr

namespace Loggers

/-- The loggers at the start. -/
def start : Loggers := ⟨warningLevel⟩

/-- The loggers at a level. -/
def withLevel (_ : Loggers) (level : Int) : Loggers := ⟨level⟩

/-- The loggers at a named level. -/
def withLevelName (loggers : Loggers) (name : Text) : Except Error Loggers :=
  match level? name with
  | some level => .ok (loggers.withLevel level)
  | none => .error (.unknownLevel name)

/-- The level from which on records are handled. -/
def effectiveLevel (loggers : Loggers) : Int :=
  if loggers.level = 0 then warningLevel else loggers.level

/-- Whether a logger may have this name. -/
def isOwnName (name : Text) : Bool := name == rootName || (rootName ++ ".").isPrefixOf name

/-- The effective level of the logger with this name. -/
def levelOf (loggers : Loggers) (name : Text) : Except Error Int :=
  if isOwnName name then .ok loggers.effectiveLevel else .error (.foreignName name)

end Loggers

end StoredFunctions.Logging
