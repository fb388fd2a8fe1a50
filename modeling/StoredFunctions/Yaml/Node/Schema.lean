/-
# Tags of plain words

What a word without quotes is shows in its spelling.  A handful of words are nothing, true or
false; a word that is spelt like a number is one, in decimal, binary, octal, hexadecimal or to the
base sixty; dates have hyphens and times of day colons; every other word is a text.
-/
import StoredFunctions.Text.Unit
import StoredFunctions.Yaml.Node.Basic

namespace StoredFunctions.Yaml

/-! ## 1. Words -/

/-- The words for nothing. -/
def nullWords : List Text := ["", "~", "null", "Null", "NULL"]

/-- The words for true. -/
def trueWords : List Text :=
  ["yes", "Yes", "YES", "true", "True", "TRUE", "on", "On", "ON"]

/-- The words for false. -/
def falseWords : List Text :=
  ["no", "No", "NO", "false", "False", "FALSE", "off", "Off", "OFF"]

/-- The signs of the format that are words of no use. -/
def signWords : List Text := ["!", "&", "*"]

/-- The words for infinity, without a sign. -/
def infinityWords : List Text := [".inf", ".Inf", ".INF"]

/-- The words for no number. -/
def nanWords : List Text := [".nan", ".NaN", ".NAN"]

/-! ## 2. Numbers -/

/-- The text without a sign in front. -/
def unsigned (t : Text) : Text :=
  match t with
  | '-' :: more | '+' :: more => more
  | t => t

/-- Whether a character may stand between the digits of a number. -/
def isDigitOrUnderscore (c : Char) : Bool := isDigit c || c == '_'

/-- Whether a text is not empty and all of its characters pass a test. -/
def isAll (ok : Char → Bool) (t : Text) : Bool := !t.isEmpty && t.all ok

/-- The pieces of a text between colons. -/
def colonPieces : Text → List Text
  | [] => [[]]
  | c :: more =>
    if c == ':' then [] :: colonPieces more
    else match colonPieces more with
      | [] => [[c]]
      | piece :: others => (c :: piece) :: others

/-- Whether a piece behind a colon is a number below sixty. -/
def isSixtieth (t : Text) : Bool :=
  match t with
  | [c] => isDigit c
  | [b, c] => '0' ≤ b && b ≤ '5' && isDigit c
  | _ => false

/-- Whether a text has digits and underscores, and begins with a digit of the given range. -/
def isDigits (least : Char) (t : Text) : Bool :=
  match t with
  | c :: more => least ≤ c && isDigit c && more.all isDigitOrUnderscore
  | [] => false

/-- Whether a word is an integer. -/
def isIntWord (t : Text) : Bool :=
  match unsigned t with
  | ['0'] => true
  | '0' :: 'b' :: digits => isAll (fun c => c == '0' || c == '1' || c == '_') digits
  | '0' :: 'x' :: digits => isAll (fun c => (Text.hexDigit? c).isSome || c == '_') digits
  | '0' :: digits => isAll (fun c => ('0' ≤ c && c ≤ '7') || c == '_') digits
  | digits =>
    match colonPieces digits with
    | whole :: parts => isDigits '1' whole && parts.all isSixtieth
    | [] => false

/-- Whether the part behind the digits of a number is no exponent or a signed one. -/
def isSignedExponent : Text → Bool
  | [] => true
  | e :: sign :: digits =>
    (e == 'e' || e == 'E') && (sign == '+' || sign == '-') && isAll isDigit digits
  | _ => false

/-- Whether a text is a point with digits behind it, and possibly an exponent. -/
def isFraction (t : Text) : Bool :=
  match t with
  | '.' :: more => isSignedExponent (more.dropWhile isDigitOrUnderscore)
  | _ => false

/-- Whether the last piece of a number to the base sixty is one with a point. -/
def isLastSixtieth (t : Text) : Bool :=
  match t.dropWhile (· != '.') with
  | '.' :: behind => isSixtieth (t.takeWhile (· != '.')) && behind.all isDigitOrUnderscore
  | _ => false

/-- Whether a word is a number with a point. -/
def isFloatWord (t : Text) : Bool :=
  let digits := unsigned t
  let whole := digits.takeWhile isDigitOrUnderscore
  let behind := digits.dropWhile isDigitOrUnderscore
  infinityWords.contains digits || nanWords.contains t ||
    (isDigits '0' whole && isFraction behind) ||
    (whole.isEmpty && t == digits && isFraction behind && isDigits '0' (fractionDigits behind)) ||
    (match colonPieces digits with
      | whole :: first :: parts =>
        isDigits '0' whole && ((first :: parts).dropLast.all isSixtieth) &&
          isLastSixtieth ((first :: parts).getLastD [])
      | _ => false)
where
  /-- The digits behind a point. -/
  fractionDigits (t : Text) : Text := (t.drop 1).takeWhile isDigitOrUnderscore

/-! ## 3. Dates and moments -/

/-- The digits in front of a text, if there are at least `least` and at most `most`, and the
rest. -/
def digitsOf? (least most : Nat) (t : Text) : Option (Text × Text) :=
  let digits := (t.take most).takeWhile isDigit
  if least ≤ digits.length then some (digits, t.drop digits.length) else none

/-- The text behind a character, if it begins with it. -/
def after? (c : Char) : Text → Option Text
  | d :: more => if d == c then some more else none
  | [] => none

/-- A date, and possibly a time of day, as they are written. -/
structure Timestamp where
  year : Text
  month : Text
  day : Text
  /-- Hours, minutes, seconds, and the digits behind the point. -/
  time : Option (Text × Text × Text × Text)
  /-- The sign, the hours and the minutes of an offset; the sign `Z` has neither. -/
  zone : Option (Char × Text × Text)

/-- The offset at the end of a timestamp, behind blanks. -/
def zone? (t : Text) : Option (Option (Char × Text × Text)) :=
  match t.dropWhile isBlankChar with
  | [] => if t.isEmpty then some none else none
  | ['Z'] => some (some ('Z', [], []))
  | c :: more =>
    if c != '+' && c != '-' then none
    else match digitsOf? 1 2 more with
      | none => none
      | some (hours, []) => some (some (c, hours, []))
      | some (hours, rest) =>
        match (after? ':' rest).bind (digitsOf? 2 2) with
        | some (minutes, []) => some (some (c, hours, minutes))
        | _ => none

/-- The time of day behind a date, with its offset. -/
def time? (t : Text) : Option ((Text × Text × Text × Text) × Option (Char × Text × Text)) := do
  let t ← match t with
    | 'T' :: more | 't' :: more => some more
    | t => if atBlank t then some (t.dropWhile isBlankChar) else none
  let (hour, t) ← digitsOf? 1 2 t
  let (minute, t) ← (after? ':' t).bind (digitsOf? 2 2)
  let (second, t) ← (after? ':' t).bind (digitsOf? 2 2)
  let (fraction, t) := match t with
    | '.' :: more => (more.takeWhile isDigit, more.dropWhile isDigit)
    | t => ([], t)
  let zone ← zone? t
  pure ((hour, minute, second, fraction), zone)
where
  /-- Whether a text begins with a space or a tab. -/
  atBlank (t : Text) : Bool :=
    match t with
    | c :: _ => isBlankChar c
    | [] => false

/-- The timestamp that a text is written as. -/
def Timestamp.ofText? (t : Text) : Option Timestamp := do
  let (year, t) ← digitsOf? 4 4 t
  let (month, t) ← (after? '-' t).bind (digitsOf? 1 2)
  let (day, t) ← (after? '-' t).bind (digitsOf? 1 2)
  if t.isEmpty then pure ⟨year, month, day, none, none⟩
  else
    let (time, zone) ← time? t
    pure ⟨year, month, day, some time, zone⟩

/-- Whether a word is a date or a moment.  Without a time of day, month and day have two digits. -/
def isTimestampWord (t : Text) : Bool :=
  match Timestamp.ofText? t with
  | some stamp => stamp.time.isSome || (stamp.month.length == 2 && stamp.day.length == 2)
  | none => false

/-! ## 4. Tags -/

/-- The tag of a plain word. -/
def Tag.ofPlain (t : Text) : Tag :=
  if nullWords.contains t then .null
  else if trueWords.contains t || falseWords.contains t then .bool
  else if t = "<<" then .merge
  else if t = "=" then .default
  else if signWords.contains t then .other (Tag.common ++ "yaml")
  else if isFloatWord t then .float
  else if isIntWord t then .int
  else if isTimestampWord t then .timestamp
  else .text

end StoredFunctions.Yaml
