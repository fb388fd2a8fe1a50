/-
# Printing Json values

Two layouts.  The **compact** one has no white space.  The **indented** one puts every item and
every member on a line of its own, two spaces deeper than its container; empty containers stay on
one line.  Strings escape the quote, the backslash and controls, and, if asked to, everything
beyond printable ASCII, in units of sixteen bits.  A torn value is printed with its halves
replaced; nothing that is printed or hashed is torn.
-/
import StoredFunctions.Json.Basic
import StoredFunctions.Numbers.Shortest

namespace StoredFunctions.Json

/-! ## 1. Strings -/

/-- The escape of a unit of sixteen bits. -/
def unitEscape (unit : Nat) : Text := '\\' :: 'u' :: Text.hex 4 unit

/-- The escape of a character by its number: one unit, or a surrogate pair. -/
def charEscape (c : Char) : Text :=
  if c.toNat < 0x10000 then unitEscape c.toNat
  else
    let n := c.toNat - 0x10000
    unitEscape (0xD800 + n / 0x400) ++ unitEscape (0xDC00 + n % 0x400)

/-- A character inside a string. -/
def stringChar (asciiOnly : Bool) (c : Char) : Text :=
  if c = '"' then ['\\', '"']
  else if c = '\\' then ['\\', '\\']
  else if c = '\n' then ['\\', 'n']
  else if c = '\r' then ['\\', 'r']
  else if c = '\t' then ['\\', 't']
  else if c = '\x0c' then ['\\', 'f']
  else if c = '\x08' then ['\\', 'b']
  else if c.toNat < 0x20 || (asciiOnly && 0x7E < c.toNat) then charEscape c
  else [c]

/-- A string with its quotes. -/
def stringText (asciiOnly : Bool) (t : Text) : Text :=
  '"' :: t.flatMap (stringChar asciiOnly) ++ ['"']

/-- The text of a number that is not an integer. -/
def floatText : Binary64 → Text
  | .nan => "NaN"
  | .infinite negative => Binary64.signText negative ++ "Infinity"
  | x => x.text

/-- The text of a value that is not a container. -/
def scalarText (asciiOnly : Bool) : Json → Text
  | null => "null"
  | bool true => "true"
  | bool false => "false"
  | int n => Text.ofInt n
  | float x => floatText x
  | string t => stringText asciiOnly t
  | array _ => []
  | object _ => []
  | torn _ => []

/-! ## 2. The compact layout -/

mutual

/-- The text of a value without white space. -/
def compact (asciiOnly : Bool) : Json → Text
  | array items => '[' :: compactItems asciiOnly items ++ [']']
  | object members => '\x7b' :: compactMembers asciiOnly members ++ ['\x7d']
  | torn v => compact asciiOnly v
  | null => scalarText asciiOnly null
  | bool b => scalarText asciiOnly (bool b)
  | int n => scalarText asciiOnly (int n)
  | float x => scalarText asciiOnly (float x)
  | string t => scalarText asciiOnly (string t)

/-- The texts of items with commas between them. -/
def compactItems (asciiOnly : Bool) : List Json → Text
  | [] => []
  | [v] => compact asciiOnly v
  | v :: w :: more => compact asciiOnly v ++ ',' :: compactItems asciiOnly (w :: more)

/-- The texts of members with commas between them. -/
def compactMembers (asciiOnly : Bool) : List (Text × Json) → Text
  | [] => []
  | [(n, v)] => stringText asciiOnly n ++ ':' :: compact asciiOnly v
  | (n, v) :: m :: more =>
    stringText asciiOnly n ++ ':' :: compact asciiOnly v ++
      ',' :: compactMembers asciiOnly (m :: more)

end

/-! ## 3. The indented layout -/

/-- A line end and the white space of the next line at a depth. -/
def newline (depth : Nat) : Text := '\n' :: List.replicate (2 * depth) ' '

mutual

/-- The text of a value, one line for every item and member, in a container of this depth. -/
def indented (asciiOnly : Bool) (depth : Nat) : Json → Text
  | array [] => ['[', ']']
  | array (v :: more) =>
    '[' :: indentedItems asciiOnly (depth + 1) (v :: more) ++ newline depth ++ [']']
  | object [] => ['\x7b', '\x7d']
  | object (m :: more) =>
    '\x7b' :: indentedMembers asciiOnly (depth + 1) (m :: more) ++ newline depth ++ ['\x7d']
  | torn v => indented asciiOnly depth v
  | null => scalarText asciiOnly null
  | bool b => scalarText asciiOnly (bool b)
  | int n => scalarText asciiOnly (int n)
  | float x => scalarText asciiOnly (float x)
  | string t => scalarText asciiOnly (string t)

/-- The lines of items. -/
def indentedItems (asciiOnly : Bool) (depth : Nat) : List Json → Text
  | [] => []
  | [v] => newline depth ++ indented asciiOnly depth v
  | v :: w :: more =>
    newline depth ++ indented asciiOnly depth v ++
      ',' :: indentedItems asciiOnly depth (w :: more)

/-- The lines of members. -/
def indentedMembers (asciiOnly : Bool) (depth : Nat) : List (Text × Json) → Text
  | [] => []
  | [(n, v)] => newline depth ++ stringText asciiOnly n ++ ": " ++ indented asciiOnly depth v
  | (n, v) :: m :: more =>
    newline depth ++ stringText asciiOnly n ++ ": " ++ indented asciiOnly depth v ++
      ',' :: indentedMembers asciiOnly depth (m :: more)

end

end StoredFunctions.Json
