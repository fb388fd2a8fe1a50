/-
# Reading Json values

The reader takes the whole text: one value, with white space around it.  Numbers without a point
and an exponent are integers of any size up to `digitLimit` digits; the three words `NaN`,
`Infinity` and `-Infinity` are numbers too.  Strings may not hold bare controls.  Of the members
of an object with one name the last counts.

Escapes give a string its characters in units of sixteen bits, so a string is read as a list of
numbers: those of its characters, and halves of surrogate pairs that stand alone.  Such a half tears
the string, or the object that has it in a name.

A value that contains another is longer than it, so the length of the text bounds the depth.
-/
import StoredFunctions.Json.Basic
import StoredFunctions.Numbers.Reading
import StoredFunctions.Text.Unit

namespace StoredFunctions.Json

/-- Why a text is no value. -/
inductive ReadError where
  | malformed
  /-- An integer with this many digits, too many to read. -/
  | oversized (digits : Nat)
  deriving DecidableEq, Repr

/-- What a reader returns: a value and the text behind it. -/
abbrev Step (α : Type) := Except ReadError (α × Text)

/-! ## 1. Strings -/

/-- The unit that four hexadecimal digits spell. -/
def hexUnit? (a b c d : Char) : Option Nat := do
  let a ← Text.hexDigit? a
  let b ← Text.hexDigit? b
  let c ← Text.hexDigit? c
  let d ← Text.hexDigit? d
  pure (((a * 16 + b) * 16 + c) * 16 + d)

/-- What a letter behind a backslash stands for. -/
def escapeChar? (c : Char) : Option Char :=
  if c = '"' || c = '\\' || c = '/' then some c
  else if c = 'b' then some '\x08'
  else if c = 'f' then some '\x0c'
  else if c = 'n' then some '\n'
  else if c = 'r' then some '\r'
  else if c = 't' then some '\t'
  else none

/-- What a waiting first half of a surrogate pair amounts to when no second half follows. -/
def flush : Option Nat → List Nat
  | none => []
  | some high => [high]

/-- The numbers that are complete once a unit has been read behind a waiting first half, and the
first half that then waits. -/
def joinUnit (waiting : Option Nat) (unit : Nat) : List Nat × Option Nat :=
  match waiting with
  | some high =>
    if isLowSurrogate unit then ([(pairChar high unit).toNat], none)
    else if isHighSurrogate unit then ([high], some unit)
    else ([high, unit], none)
  | none => if isHighSurrogate unit then ([], some unit) else ([unit], none)

/-- Puts numbers in front of those that a reader returns. -/
def prepend (ns : List Nat) : Step (List Nat) → Step (List Nat)
  | .ok (more, rest) => .ok (ns ++ more, rest)
  | .error e => .error e

/-- The numbers of a string up to its closing quote, behind a waiting first half of a surrogate
pair. -/
def readString (waiting : Option Nat) : Text → Step (List Nat)
  | [] => .error .malformed
  | '"' :: rest => .ok (flush waiting, rest)
  | '\\' :: 'u' :: a :: b :: c :: d :: rest =>
    match hexUnit? a b c d with
    | none => .error .malformed
    | some unit => prepend (joinUnit waiting unit).1 (readString (joinUnit waiting unit).2 rest)
  | '\\' :: c :: rest =>
    match escapeChar? c with
    | none => .error .malformed
    | some d => prepend (flush waiting ++ [d.toNat]) (readString none rest)
  | c :: rest =>
    if c = '\\' || c.toNat < 0x20 then .error .malformed
    else prepend (flush waiting ++ [c.toNat]) (readString none rest)

/-- Whether half a surrogate pair stands among numbers. -/
def hasHalf (ns : List Nat) : Bool := ns.any fun n => isHighSurrogate n || isLowSurrogate n

/-- The text with these numbers, with halves of surrogate pairs replaced. -/
def textOf (ns : List Nat) : Text := ns.map unitChar

/-- The string of these numbers. -/
def ofNumbers (ns : List Nat) : Json :=
  if hasHalf ns then torn (string (textOf ns)) else string (textOf ns)

/-- The object with members whose names have these numbers. -/
def ofNumberedMembers (members : List (List Nat × Json)) : Json :=
  let named := ofMembers (members.map fun m => (textOf m.1, m.2))
  if members.any fun m => hasHalf m.1 then torn named else named

/-! ## 2. Numbers -/

/-- The digits in front of a text, and the rest. -/
def digits (t : Text) : Text × Text := (t.takeWhile isDigit, t.dropWhile isDigit)

/-- The point and the digits behind it, if there are any. -/
def fractionPart : Text → Text × Text
  | '.' :: more =>
    match digits more with
    | ([], _) => ([], '.' :: more)
    | (ds, rest) => ('.' :: ds, rest)
  | t => ([], t)

/-- The sign in front of an exponent, and the rest. -/
def exponentSign : Text → Text × Text
  | '+' :: more => (['+'], more)
  | '-' :: more => (['-'], more)
  | t => ([], t)

/-- An exponent, if there is one. -/
def exponentPart : Text → Text × Text
  | [] => ([], [])
  | e :: more =>
    if e = 'e' || e = 'E' then
      let (sign, unsigned) := exponentSign more
      match digits unsigned with
      | ([], _) => ([], e :: more)
      | (ds, rest) => (e :: sign ++ ds, rest)
    else ([], e :: more)

/-- A number whose sign has been read. -/
def readNumber (negative : Bool) (t : Text) : Step Json :=
  let (whole, rest) := match t with
    | '0' :: more => (['0'], more)
    | _ => digits t
  if whole.isEmpty then .error .malformed
  else
    let (behind, rest) := fractionPart rest
    let (power, rest) := exponentPart rest
    if behind.isEmpty && power.isEmpty then
      if digitLimit < whole.length then .error (.oversized whole.length)
      else
        let n : Int := Int.ofNat (Text.toNat whole)
        .ok (int (if negative then -n else n), rest)
    else match Numbers.readDecimal? negative (whole ++ behind ++ power) with
      | some x => .ok (float x, rest)
      | none => .error .malformed

/-! ## 3. Values -/

/-- The white space between tokens. -/
def skipSpace (t : Text) : Text := t.dropWhile isLayout

/-- The rest of a text that begins with `word`. -/
def afterWord? (word t : Text) : Option Text :=
  if word.isPrefixOf t then some (t.drop word.length) else none

/-- A word that stands for a value, or a number. -/
def readAtom (t : Text) : Step Json :=
  match afterWord? "null" t with
  | some rest => .ok (null, rest)
  | none =>
  match afterWord? "true" t with
  | some rest => .ok (bool true, rest)
  | none =>
  match afterWord? "false" t with
  | some rest => .ok (bool false, rest)
  | none =>
  match afterWord? "NaN" t with
  | some rest => .ok (float .nan, rest)
  | none =>
  match afterWord? "Infinity" t with
  | some rest => .ok (float (.infinite false), rest)
  | none =>
  match afterWord? "-Infinity" t with
  | some rest => .ok (float (.infinite true), rest)
  | none =>
  match t with
  | '-' :: more => readNumber true more
  | _ => readNumber false t

mutual

/-- A value at the start of a text, nested no deeper than `depth` readers. -/
def readValue : Nat → Text → Step Json
  | 0, _ => .error .malformed
  | depth + 1, t =>
    match t with
    | '"' :: more =>
      match readString none more with
      | .ok (ns, rest) => .ok (ofNumbers ns, rest)
      | .error e => .error e
    | '[' :: more =>
      match skipSpace more with
      | ']' :: rest => .ok (array [], rest)
      | inside =>
        match readItems depth inside with
        | .ok (items, rest) => .ok (array items, rest)
        | .error e => .error e
    | '\x7b' :: more =>
      match skipSpace more with
      | '\x7d' :: rest => .ok (object [], rest)
      | inside =>
        match readMembers depth inside with
        | .ok (members, rest) => .ok (ofNumberedMembers members, rest)
        | .error e => .error e
    | _ => readAtom t

/-- The items up to the closing bracket. -/
def readItems : Nat → Text → Step (List Json)
  | 0, _ => .error .malformed
  | depth + 1, t =>
    match readValue depth t with
    | .error e => .error e
    | .ok (v, rest) =>
      match skipSpace rest with
      | ',' :: more =>
        match readItems depth (skipSpace more) with
        | .ok (items, rest) => .ok (v :: items, rest)
        | .error e => .error e
      | ']' :: more => .ok ([v], more)
      | _ => .error .malformed

/-- The members up to the closing brace, with the numbers of their names. -/
def readMembers : Nat → Text → Step (List (List Nat × Json))
  | 0, _ => .error .malformed
  | depth + 1, t =>
    match t with
    | '"' :: more =>
      match readString none more with
      | .error e => .error e
      | .ok (name, rest) =>
        match skipSpace rest with
        | ':' :: more =>
          match readValue depth (skipSpace more) with
          | .error e => .error e
          | .ok (v, rest) =>
            match skipSpace rest with
            | ',' :: more =>
              match readMembers depth (skipSpace more) with
              | .ok (members, rest) => .ok ((name, v) :: members, rest)
              | .error e => .error e
            | '\x7d' :: more => .ok ([(name, v)], more)
            | _ => .error .malformed
        | _ => .error .malformed
    | _ => .error .malformed

end

/-- The value that a whole text spells. -/
def parse (t : Text) : Except ReadError Json :=
  match readValue (2 * t.length + 2) (skipSpace t) with
  | .error e => .error e
  | .ok (v, rest) => if (skipSpace rest).isEmpty then .ok v else .error .malformed

end StoredFunctions.Json
