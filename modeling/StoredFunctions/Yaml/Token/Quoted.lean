/-
# Quoted words

A word in single quotes holds every character as it stands; a quote inside is written twice.  A
word in double quotes has escapes as well.  In both a line end counts for a space, with the blanks
around it, and empty lines for line ends.

Characters are collected as units, because two escapes may spell one character.

The readers are given fuel, of which every step takes one unit; one unit more than there are unread
characters is enough, because every step but the last takes a character.
-/
import StoredFunctions.Text.Unit
import StoredFunctions.Yaml.Token.Basic

namespace StoredFunctions.Yaml

/-- Units and the place behind what was read for them. -/
abbrev Units := Except Error (List Nat × Place)

/-- The units of a text. -/
def unitsOf (t : Text) : List Nat := t.map Char.toNat

/-! ## 1. Escapes -/

/-- What a character behind a backslash stands for. -/
def escapeValue? (c : Char) : Option Char :=
  ([('0', '\x00'), ('a', '\x07'), ('b', '\x08'), ('t', '\t'), ('\t', '\t'), ('n', '\n'),
    ('v', '\x0b'), ('f', '\x0c'), ('r', '\r'), ('e', '\x1b'), (' ', ' '), ('"', '"'),
    ('\\', '\\'), ('/', '/'), ('N', '\u0085'), ('_', '\u00a0'), ('L', '\u2028'),
    ('P', '\u2029')] : List (Char × Char)).lookup c

/-- How many hexadecimal digits follow a letter behind a backslash. -/
def escapeDigits? (c : Char) : Option Nat :=
  ([('x', 2), ('u', 4), ('U', 8)] : List (Char × Nat)).lookup c

/-- The unit of a number, if there is a character or half a pair with that number. -/
def unitOfNumber (n : Nat) : Except Error Nat :=
  if n < 0x110000 then .ok n
  else if n < 0x80000000 then .error (.word .noCharacter)
  else .error (.word .hugeCharacter)

/-- The unit that `count` hexadecimal digits at a place spell, in a word that began at `start`. -/
def numberedUnit (start : Mark) (count : Nat) (p : Place) : Units := do
  let digits := p.rest.take count
  match digits.find? fun c => (Text.hexDigit? c).isNone with
  | none =>
    if digits.length < count then .error (wrongDigit ['\x00'])
    else
      let unit ← unitOfNumber ((Text.digitsToBase? 16 digits).getD 0)
      pure ([unit], p.advance count)
  | some c => .error (wrongDigit [c])
where
  /-- The error of a character that is no digit. -/
  wrongDigit (found : Text) : Error :=
    .within "while scanning a double-quoted scalar" start
      (.expected ("escape sequence of " ++ Text.ofNat count ++ " hexadecimal numbers") found)
      p.mark

/-! ## 2. Line ends -/

/-- What was being read in a quoted word. -/
def quotedContext : Text := "while scanning a quoted scalar"

/-- The line ends among the blanks and line ends at a place.  No separator of documents may stand
at the start of a line. -/
def quotedBreaks (start : Mark) : Nat → Place → Except Error (Text × Place)
  | 0, p => .ok ([], p)
  | fuel + 1, p =>
    if p.atSeparator then .error (.within quotedContext start .unexpectedSeparator p.mark)
    else
      let p := p.skip isBlankChar
      match p.lineBreak? with
      | none => .ok ([], p)
      | some (b, after) => do
        let (others, last) ← quotedBreaks start fuel after
        pure (b :: others, last)

/-- The blanks and line ends at a place inside a quoted word, and what they amount to. -/
def quotedSpace (start : Mark) (fuel : Nat) (p : Place) : Units :=
  let (blanks, p) := p.span isBlankChar
  if p.atEnd then .error (.within quotedContext start .unexpectedEnd p.mark)
  else match p.lineBreak? with
    | none => .ok (unitsOf blanks, p)
    | some (b, after) => do
      let (others, last) ← quotedBreaks start fuel after
      pure (unitsOf (folded b others), last)

/-! ## 3. Words -/

/-- What a backslash stands for, with the place behind it. -/
def escaped (start : Mark) (fuel : Nat) (p : Place) : Units :=
  let c := p.peek
  match escapeValue? c, escapeDigits? c, p.lineBreak? with
  | some value, _, _ => .ok ([value.toNat], p.next)
  | none, some count, _ => numberedUnit start count p.next
  | none, none, some (_, after) => do
    let (others, last) ← quotedBreaks start fuel after
    pure (unitsOf others, last)
  | none, none, none =>
    .error (.within "while scanning a double-quoted scalar" start (.unknownEscape p.shown) p.mark)

/-- Whether a character stands for itself in every quoted word. -/
def isQuotedChar (c : Char) : Bool := !isGap c && c != '\'' && c != '"' && c != '\\'

/-- The part of a quoted word up to the next gap or closing quote. -/
def quotedChunk (double : Bool) (start : Mark) : Nat → Place → Units
  | 0, p => .ok ([], p)
  | fuel + 1, p =>
    let (chunk, p) := p.span isQuotedChar
    let continued (units : List Nat) (after : Place) : Units := do
      let (more, last) ← quotedChunk double start fuel after
      pure (unitsOf chunk ++ units ++ more, last)
    let c := p.peek
    if !double && c == '\'' && p.ahead 1 == '\'' then continued [c.toNat] (p.advance 2)
    else if (double && c == '\'') || (!double && (c == '"' || c == '\\')) then
      continued [c.toNat] p.next
    else if double && c == '\\' then do
      let (units, after) ← escaped start fuel p.next
      continued units after
    else .ok (unitsOf chunk, p)

/-- The inside of a quoted word and the place of its closing quote. -/
def quotedInside (double : Bool) (start : Mark) : Nat → Place → Units
  | 0, p => .ok ([], p)
  | fuel + 1, p => do
    let (chunk, p) ← quotedChunk double start (fuel + 1) p
    if p.peek == (if double then '"' else '\'') then pure (chunk, p)
    else
      let (space, p) ← quotedSpace start fuel p
      let (more, last) ← quotedInside double start fuel p
      pure (chunk ++ space ++ more, last)

/-- The quoted word at a place. -/
def quotedWord (double : Bool) (fuel : Nat) (p : Place) : Scanned := do
  let (units, last) ← quotedInside double p.mark fuel p.next
  pure (Token.between (.word (Text.ofUnits units) .marked) p last.next)

end StoredFunctions.Yaml
