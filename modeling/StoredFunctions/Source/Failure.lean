/-
# Failures

Why a document cannot be read, and where.  The reason is a value (`Cause`), the place is a cursor;
line, column, offset and file name of a message are read off that cursor, so no failure can carry
a location that disagrees with its text.

A **committed** failure is final: it was met after a character that only one production can
begin with, and no alternative is tried after it.

One condition is not a failure of the grammar at all: a collection limit with more digits than
numbers may have (`Fault.oversizedLimit`).  Choice and repetition do not recover from it.

A `DSLParseError` is a `Failure`: its `message` is `Failure.text`, and its text as a whole is
`Failure.message`.
-/
import StoredFunctions.Source.Cursor
import StoredFunctions.Text.Quoted

namespace StoredFunctions

/-! ## 1. Causes and their wording -/

/-- What was wrong with a document. -/
inductive Cause where
  /-- The literal text was expected. -/
  | expectedText (wanted : Text)
  /-- Something with this description was expected. -/
  | expected (what : Text)
  /-- A choice between no alternatives. -/
  | noAlternatives
  /-- Text was left over; the first characters of it. -/
  | trailingInput (shown : Text)
  /-- A name in backticks without its closing backtick. -/
  | unterminatedBacktick
  /-- The NUL character in a name in backticks. -/
  | nulInName
  /-- A backslash followed by this text, which is no escape: one character, or none at the end. -/
  | invalidEscape (code : Text)
  /-- Angle brackets without a name between them. -/
  | emptyBrackets
  /-- A name in angle brackets without its closing bracket. -/
  | unterminatedBrackets
  /-- A word that names no type. -/
  | unknownType (word : Text)
  /-- A word that names no geometry. -/
  | unknownShape (word : Text)
  /-- A union of fewer than two types. -/
  | lonelyUnion
  /-- A function body without its closing brace. -/
  | unclosedBody
  /-- A message of the caller's own. -/
  | note (message : Text)
  deriving DecidableEq, Repr

/-- The wording of a cause. -/
def Cause.message : Cause → Text
  | .expectedText wanted => "Expected '" ++ wanted ++ "'"
  | .expected what => "Expected " ++ what
  | .noAlternatives => "No alternatives to try"
  | .trailingInput shown => "Unexpected trailing input " ++ shown.quoted
  | .unterminatedBacktick => "Unterminated backtick identifier"
  | .nulInName => "NUL character in identifier"
  | .invalidEscape code => "Invalid escape sequence '\\" ++ code ++ "'"
  | .emptyBrackets => "Empty bracket identifier"
  | .unterminatedBrackets => "Unterminated bracket identifier"
  | .unknownType word => "Unknown type '" ++ word ++ "'"
  | .unknownShape word => "Unknown geometry subtype '" ++ word ++ "'"
  | .lonelyUnion => "either<...> requires at least two kinds"
  | .unclosedBody => "Expected '\x7d' closing the function body"
  | .note message => message

/-! ## 2. Located failures -/

/-- A cause and the place where it was met. -/
structure Failure where
  cause : Cause
  place : Cursor
  committed : Bool

namespace Failure

/-- The bare message. -/
def text (f : Failure) : Text := f.cause.message

/-- The offset of the place. -/
def offset (f : Failure) : Nat := f.place.offset

/-- The line of the place. -/
def line (f : Failure) : Nat := f.place.location.1

/-- The column of the place. -/
def column (f : Failure) : Nat := f.place.location.2

/-- The message after file name, line and column. -/
def message (f : Failure) : Text :=
  f.place.filename ++ ":" ++ Text.ofNat f.line ++ ":" ++ Text.ofNat f.column ++ ":" ++ " " ++ f.text

/-- The same failure, final. -/
def commit (f : Failure) : Failure := { f with committed := true }

/-- Of two failures the one that got further, and the second when they got equally far. -/
def further (f g : Failure) : Failure := if f.offset ≤ g.offset then g else f

end Failure

/-! ## 3. Faults -/

/-- How many digits a number may be written with. -/
def digitLimit : Nat := 4300

/-- Why a reader stopped without a value. -/
inductive Fault where
  /-- The document does not match. -/
  | failure (f : Failure)
  /-- A limit is written with this many digits, more than `digitLimit`. -/
  | oversizedLimit (digits : Nat)

/-- The wording of a number with too many digits. -/
def oversizedMessage (digits : Nat) : Text :=
  "Exceeds the limit (4300 digits) for integer string conversion: value has " ++
    Text.ofNat digits ++ " digits; use sys.set_int_max_str_digits() to increase the limit"

/-- The wording of a fault. -/
def Fault.message : Fault → Text
  | .failure f => f.message
  | .oversizedLimit digits => oversizedMessage digits

end StoredFunctions
