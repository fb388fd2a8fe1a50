/-
# Bytes written as text

In base 64 a character out of sixty-four stands for six bits, so that four characters stand for
three bytes.  Other characters are passed over.  Equals signs fill up the last group of four where
it is not full, and what follows them is not read.
-/
import StoredFunctions.Text.Quoted

namespace StoredFunctions.Base64

/-- Why a text stands for no bytes. -/
inductive Error where
  /-- Characters beyond ASCII: where they begin, how many there are, and the first of them. -/
  | notAscii (position count : Nat) (first : Char)
  /-- So many characters that the last group of four has one of them. -/
  | lonely (count : Nat)
  /-- A last group that is not full. -/
  | notFilled
  deriving DecidableEq, Repr

/-- The wording of an error. -/
def Error.message : Error → Text
  | notAscii position count first =>
    let characters : Text :=
      if count = 1 then
        "character '" ++ Text.numericEscape first ++ "' in position " ++ Text.ofNat position
      else
        "characters in position " ++ Text.ofNat position ++ "-" ++
          Text.ofNat (position + count - 1)
    "failed to convert base64 data into ascii: 'ascii' codec can't encode " ++ characters ++
      ":" ++ " ordinal not in range(128)"
  | lonely count =>
    "failed to decode base64 data: Invalid base64-encoded string: number of data characters (" ++
      Text.ofNat count ++ ") cannot be 1 more than a multiple of 4"
  | notFilled => "failed to decode base64 data: Incorrect padding"

/-- The six bits of a character, as a number. -/
def value? (c : Char) : Option Nat :=
  if 'A' ≤ c && c ≤ 'Z' then some (c.toNat - 65)
  else if 'a' ≤ c && c ≤ 'z' then some (c.toNat - 71)
  else if isDigit c then some (c.toNat + 4)
  else if c == '+' then some 62
  else if c == '/' then some 63
  else none

/-- The values of the characters of a text up to the equals signs that fill up its last group, and
whether that group is full.  In front of the text `position` characters of a group were read, and
`signs` equals signs behind them. -/
def valuesFrom (position signs : Nat) : Text → List Nat × Bool
  | [] => ([], position == 0)
  | c :: more =>
    if c == '=' then
      if position < 2 then valuesFrom position signs more
      else if 4 ≤ position + signs + 1 then ([], true)
      else valuesFrom position (signs + 1) more
    else match value? c with
      | none => valuesFrom position signs more
      | some v =>
        let (others, isFull) := valuesFrom ((position + 1) % 4) 0 more
        (v :: others, isFull)

/-- The bytes of values.  Bits of the last group that make no byte are dropped. -/
def bytesOf : List Nat → List UInt8
  | a :: b :: c :: d :: more =>
    UInt8.ofNat (a * 4 + b / 16) :: UInt8.ofNat (b % 16 * 16 + c / 4) ::
      UInt8.ofNat (c % 4 * 64 + d) :: bytesOf more
  | [a, b, c] => [UInt8.ofNat (a * 4 + b / 16), UInt8.ofNat (b % 16 * 16 + c / 4)]
  | [a, b] => [UInt8.ofNat (a * 4 + b / 16)]
  | _ => []

/-- The bytes that a text stands for. -/
def decode (t : Text) : Except Error (List UInt8) :=
  let isAscii (c : Char) : Bool := c.toNat < 128
  match t.dropWhile isAscii with
  | c :: more =>
    .error (.notAscii (t.takeWhile isAscii).length
      ((c :: more).takeWhile (!isAscii ·)).length c)
  | [] =>
    let (values, isFull) := valuesFrom 0 0 t
    if isFull then .ok (bytesOf values)
    else if values.length % 4 = 1 then .error (.lonely values.length)
    else .error .notFilled

end StoredFunctions.Base64
