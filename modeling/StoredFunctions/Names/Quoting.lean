/-
# Quoting of names

A name is any text without NUL.  It is written bare when it consists of word characters and is not
a number, and otherwise between backticks, or between the angle brackets `⟨` and `⟩`.  All three
spellings read back to the same text, and the spelling itself is not kept.

Between backticks a backslash begins an escape; between angle brackets every character stands for
itself.

`escape_ident` is `escape`, and `ident_raw` is `anyName`, whose alternatives `_ident_default`,
`_ident_backtick` and `_ident_brackets` are `bare`, `quoted` and `bracketed`; `path` keeps its
name.
-/
import StoredFunctions.Source.Parser

namespace StoredFunctions.Names

open StoredFunctions.Parser

/-! ## 1. Writing -/

/-- The delimiter of quoted names. -/
def backtick : Char := '\x60'

/-- The opening angle bracket of names. -/
def bracketOpen : Char := '⟨'

/-- The closing angle bracket of names. -/
def bracketClose : Char := '⟩'

/-- Whether a text may be written without quotes. -/
def isBare (t : Text) : Bool := !t.isEmpty && t.all isWordChar && !t.all isDigit

/-- A character between backticks. -/
def escapeChar (c : Char) : Text := if c = '\\' || c = backtick then ['\\', c] else [c]

/-- The canonical spelling of a name. -/
def escape (t : Text) : Text :=
  if isBare t then t else backtick :: t.flatMap escapeChar ++ [backtick]

/-! ## 2. Reading -/

/-- What the character behind a backslash stands for. -/
def unescape? (c : Char) : Option Char :=
  if c = '\\' || c = backtick || c = '/' then some c
  else if c = 'b' then some '\x08'
  else if c = 'f' then some '\x0c'
  else if c = 'n' then some '\n'
  else if c = 'r' then some '\r'
  else if c = 't' then some '\t'
  else none

/-- A bare name. -/
def bare : Parser Text := takeWhile1 isWordChar "identifier"

/-- Why the text between backticks cannot be read: a cause, and how many characters before the
failure belong to the name; `none` stands for a text that ends before its closing backtick. -/
inductive QuoteError where
  | unterminated
  | nul (consumed : Nat)
  | badEscape (consumed : Nat) (code : Text)
  deriving DecidableEq, Repr

namespace QuoteError

/-- The error of the text that has one more unit, of `n` characters, in front. -/
def shift (n : Nat) : QuoteError → QuoteError
  | unterminated => unterminated
  | nul consumed => nul (consumed + n)
  | badEscape consumed code => badEscape (consumed + n) code

end QuoteError

/-- The name that a text spells up to its first unescaped backtick, and how many characters that
takes, the backtick included. -/
def quotedBody : Text → Except QuoteError (Text × Nat)
  | [] => .error .unterminated
  | ['\\'] => .error (.badEscape 0 [])
  | '\\' :: code :: more =>
    match unescape? code with
    | none => .error (.badEscape 0 [code])
    | some c =>
      match quotedBody more with
      | .ok (name, length) => .ok (c :: name, length + 2)
      | .error e => .error (e.shift 2)
  | c :: more =>
    if c = backtick then .ok ([], 1)
    else if c = '\x00' then .error (.nul 0)
    else match quotedBody more with
      | .ok (name, length) => .ok (c :: name, length + 1)
      | .error e => .error (e.shift 1)

/-- A name between backticks.  Behind the opening backtick every failure is final. -/
def quoted : Parser Text := fun c =>
  match tag [backtick] c with
  | .error fault => .error fault
  | .ok (_, inside) =>
    match quotedBody inside.rest with
    | .ok (name, length) => .ok (name, inside.advance length)
    | .error .unterminated => abort c .unterminatedBacktick c
    | .error (.nul n) => abort (inside.advance n) .nulInName c
    | .error (.badEscape n code) => abort (inside.advance n) (.invalidEscape code) c

/-- A name between angle brackets.  Behind the opening bracket every failure is final. -/
def bracketed : Parser Text := fun c =>
  match tag [bracketOpen] c with
  | .error fault => .error fault
  | .ok (_, inside) =>
    let (name, after) := inside.takeWhile fun x => x != bracketClose && x != '\x00'
    if name.isEmpty then abort after .emptyBrackets c
    else if after.peek 1 != [bracketClose] then abort c .unterminatedBrackets c
    else .ok (name, after.advance 1)

/-- A name in any spelling. -/
def anyName : Parser Text := firstOf [bare, quoted, bracketed]

/-- A path of bare names with `::` between them: its first segment and the others. -/
def path : Parser (Text × List Text) := do
  let first ← bare
  let more ← many do
    let _ ← tag "::"
    bare
  pure (first, more)

end StoredFunctions.Names
