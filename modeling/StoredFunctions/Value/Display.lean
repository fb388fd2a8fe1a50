/-
# Values shown to people

Error messages and settings show values in the spelling of the generated code's language: `None`,
`True`, quoted strings, and containers with `, ` and `: ` between their parts.  Shown by itself a
text has no quotes, and a date is spelt in digits; bytes keep their quotes.

An integer with more than `digitLimit` digits cannot be shown.
-/
import StoredFunctions.Numbers.Shortest
import StoredFunctions.Source.Failure
import StoredFunctions.Value.Basic

namespace StoredFunctions

/-! ## 1. Dates and moments -/

/-- A call with numbers for its arguments. -/
def callLiteral (name : Text) (arguments : List Text) : Text :=
  name ++ "(" ++ Text.join ", " arguments ++ ")"

/-- A date inside a container. -/
def Date.literal (d : Date) : Text :=
  callLiteral "datetime.date" [Text.ofNat d.year, Text.ofNat d.month, Text.ofNat d.day]

/-- An offset inside a container. -/
def Moment.offsetLiteral (minutes : Int) : Text :=
  if minutes = 0 then "tzinfo=datetime.timezone.utc"
  else "tzinfo=" ++ callLiteral "datetime.timezone" [Moment.spanText minutes]

/-- A moment inside a container.  Microseconds that are zero are left out, and so are seconds in
front of them. -/
def Moment.literal (m : Moment) : Text :=
  let clock :=
    if m.microsecond != 0 then [m.second, m.microsecond]
    else if m.second != 0 then [m.second]
    else []
  let numbers := [m.date.year, m.date.month, m.date.day, m.hour, m.minute] ++ clock
  callLiteral "datetime.datetime"
    (numbers.map Text.ofNat ++ (m.offset.map Moment.offsetLiteral).toList)

/-! ## 2. Bytes -/

/-- A byte inside quotes: as the character of its number in ASCII, and by its number beyond. -/
def quotedByte (mark : Char) (b : UInt8) : Text :=
  let c := Char.ofNat b.toNat
  if b < 128 then Text.quotedChar mark c else Text.numericEscape c

/-- Bytes in quotes, behind a letter that tells them from a text. -/
def bytesLiteral (bytes : List UInt8) : Text :=
  let mark := Text.quoteMark (bytes.map fun b => Char.ofNat b.toNat)
  'b' :: mark :: bytes.flatMap (quotedByte mark) ++ [mark]

namespace Value

/-! ## 3. Values -/

mutual

/-- A value inside a message: texts are quoted. -/
def literal : Value → Text
  | null => "None"
  | bool true => "True"
  | bool false => "False"
  | int n => Text.ofInt n
  | float x => x.text
  | text t => t.quoted
  | bytes b => bytesLiteral b
  | date d => d.literal
  | moment m => m.literal
  | list items => "[" ++ literalItems items ++ "]"
  | table entries => "\x7b" ++ literalEntries entries ++ "\x7d"
  | pair k v => "(" ++ literal k ++ ", " ++ literal v ++ ")"
  | set [] => "set()"
  | set (k :: more) => "\x7b" ++ literalItems (k :: more) ++ "\x7d"
  | enclosing true => "\x7b...\x7d"
  | enclosing false => "[...]"

/-- Items with commas between them. -/
def literalItems : List Value → Text
  | [] => []
  | [v] => literal v
  | v :: w :: more => literal v ++ ", " ++ literalItems (w :: more)

/-- Entries with commas between them. -/
def literalEntries : List (Value × Value) → Text
  | [] => []
  | [(k, v)] => literal k ++ ":" ++ " " ++ literal v
  | (k, v) :: e :: more =>
    literal k ++ ":" ++ " " ++ literal v ++ ", " ++ literalEntries (e :: more)

end

/-- A value by itself: a text stands without quotes. -/
def display : Value → Text
  | text t => t
  | date d => d.text
  | moment m => m.text
  | v => v.literal

/-! ## 4. Integers that are too long -/

mutual

/-- Whether no integer in a value is too long to be shown. -/
def isShowable : Value → Bool
  | int n => (Text.ofNat n.natAbs).length ≤ digitLimit
  | list items | set items => areShowable items
  | table entries => entriesShowable entries
  | pair k v => isShowable k && isShowable v
  | null | bool _ | float _ | text _ | bytes _ | date _ | moment _ | enclosing _ => true

/-- Whether all items can be shown. -/
def areShowable : List Value → Bool
  | [] => true
  | v :: more => isShowable v && areShowable more

/-- Whether all keys and values can be shown. -/
def entriesShowable : List (Value × Value) → Bool
  | [] => true
  | (k, v) :: more => isShowable k && isShowable v && entriesShowable more

end

/-- A value by itself, if it can be shown. -/
def display? (v : Value) : Option Text := if v.isShowable then some v.display else none

end Value

/-- The wording of an integer that is too long to be shown. -/
def unshowableMessage : Text :=
  "Exceeds the limit (4300 digits) for integer string conversion; " ++
    "use sys.set_int_max_str_digits() to increase the limit"

end StoredFunctions
