/-
# Values of words

The value that a word has under a tag.  Underscores in numbers are ignored.  A number with colons
is written to the base sixty; with a point it is computed in double precision, place by place from
the last one.  A word whose tag was asked for need not be spelt as the tag wants it.
-/
import StoredFunctions.Numbers.Reading
import StoredFunctions.Value.Basic
import StoredFunctions.Yaml.Node.Schema

namespace StoredFunctions.Yaml

/-! ## 1. Integers -/

/-- The integer with a sign. -/
def signedInt (negative : Bool) (n : Int) : Int := if negative then -n else n

/-- Whether a number is negative by its sign, and the number without underscores and sign. -/
def splitNumber (t : Text) : Except WordError (Bool × Text) :=
  match t.filter (· != '_') with
  | [] => .error .emptyNumber
  | digits => .ok (digits.head? == some '-', unsigned digits)

/-- The integer that decimal digits spell. -/
def decimalInt (t : Text) : Except WordError Int :=
  match Numbers.readInt? t with
  | some n => .ok n
  | none =>
    let digits := unsigned t
    if isAll isDigit digits && digitLimit < digits.length then .error (.oversized digits.length)
    else .error (.notAnInteger 10 t)

/-- The integer that digits of a base spell. -/
def basedInt (base : Nat) (digits : Text) : Except WordError Int :=
  match Numbers.readBased? base digits with
  | some n => .ok n
  | none => .error (.notAnInteger base digits)

/-- The integer of a number to the base sixty, of which these are the places. -/
def sixtyInt (places : List Text) : Except WordError Int := do
  let numbers ← places.mapM decimalInt
  pure (numbers.foldl (fun n place => n * 60 + place) 0)

/-- The integer of a word. -/
def intOfWord (t : Text) : Except WordError Int := do
  let (negative, digits) ← splitNumber t
  let n ← match digits with
    | [] => .error .emptyNumber
    | ['0'] => .ok 0
    | '0' :: 'b' :: bits => basedInt 2 bits
    | '0' :: 'x' :: more => basedInt 16 more
    | '0' :: _ => basedInt 8 digits
    | _ => if digits.contains ':' then sixtyInt (colonPieces digits) else decimalInt digits
  pure (signedInt negative n)

/-! ## 2. Numbers with a point -/

/-- The number that a decimal spells. -/
def decimalFloat (t : Text) : Except WordError Binary64 :=
  match Numbers.readFloat? t with
  | some x => .ok x
  | none => .error (.notANumber t)

/-- The sum of numbers times growing powers of sixty, from `power` on. -/
def sixtySum (sum : Binary64) (power : Int) : List Binary64 → Except WordError Binary64
  | [] => .ok sum
  | place :: more =>
    match Binary64.ofInt? power with
    | none => .error .hugeNumber
    | some weight => sixtySum (sum.add (place.mul weight)) (power * 60) more

/-- The number with a point of a word. -/
def floatOfWord (t : Text) : Except WordError Binary64 := do
  let (negative, digits) ← splitNumber (Text.fold t)
  let x ←
    if digits = ".inf" then .ok (.infinite false)
    else if digits = ".nan" then .ok .nan
    else if digits.contains ':' then do
      let places ← (colonPieces digits).mapM decimalFloat
      sixtySum (.finite false 0 Binary64.minExponent) 1 places.reverse
    else decimalFloat digits
  pure (if negative then x.neg else x)

/-! ## 3. Dates and moments -/

/-- The microseconds of the digits behind a point. -/
def microseconds (digits : Text) : Nat :=
  let digits := digits.take 6
  Text.toNat (digits ++ List.replicate (6 - digits.length) '0')

/-- The minutes of an offset. -/
def offsetMinutes : Char × Text × Text → Int
  | (sign, hours, minutes) =>
    signedInt (sign == '-') (Int.ofNat (Text.toNat hours * 60 + Text.toNat minutes))

/-- The date or the moment of a timestamp. -/
def Timestamp.value (s : Timestamp) : Except CalendarError Value :=
  let (year, month, day) := (Text.toNat s.year, Text.toNat s.month, Text.toNat s.day)
  match s.time with
  | none => (Date.ofNumbers year month day).map Value.date
  | some (hour, minute, second, fraction) =>
    (Moment.ofNumbers year month day (Text.toNat hour) (Text.toNat minute) (Text.toNat second)
      (microseconds fraction) (s.zone.map offsetMinutes)).map Value.moment

/-- The date or the moment of a word. -/
def timestampOfWord (t : Text) : Except WordError Value :=
  match Timestamp.ofText? t with
  | none => .error .notADate
  | some stamp =>
    match stamp.value with
    | .ok v => .ok v
    | .error e => .error (.calendar e)

/-! ## 4. Words -/

/-- The truth value of a word, whose letters may be of either case. -/
def boolOfWord (t : Text) : Except WordError Bool :=
  let word := Text.fold t
  if trueWords.contains word then .ok true
  else if falseWords.contains word then .ok false
  else .error (.notATruthValue word)

/-- The value of a word under a tag; nothing if the tag is not one of words. -/
def valueOfWord? (tag : Tag) (t : Text) : Option (Except WordError Value) :=
  match tag with
  | .null => some (.ok .null)
  | .bool => some ((boolOfWord t).map Value.bool)
  | .int => some ((intOfWord t).map Value.int)
  | .float => some ((floatOfWord t).map Value.float)
  | .text => some (.ok (.text t))
  | .timestamp => some (timestampOfWord t)
  | .binary | .list | .table | .set | .orderedTable | .pairs | .merge | .default | .other _ => none

end StoredFunctions.Yaml
