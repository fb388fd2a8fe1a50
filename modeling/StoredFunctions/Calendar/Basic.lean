/-
# Dates and moments

A **date** is a day of the calendar, from the year 1 on.  A **moment** is a date with the time of
day, to the microsecond, and possibly with the **offset** of its time zone; with an offset it
names a point in time, which other offsets name too.
-/
import StoredFunctions.Text.Basic

namespace StoredFunctions

/-! ## 1. Dates -/

/-- A day of the calendar. -/
structure Date where
  year : Nat
  month : Nat
  day : Nat
  deriving DecidableEq, Repr

/-- Why numbers make no date or no moment. -/
inductive CalendarError where
  | yearOutOfRange (year : Nat)
  | monthOutOfRange
  | dayOutOfRange
  | hourOutOfRange
  | minuteOutOfRange
  | secondOutOfRange
  /-- An offset of so many minutes, a day or more. -/
  | offsetOutOfRange (minutes : Int)
  deriving DecidableEq, Repr

namespace Date

/-- Whether a year has a day more. -/
def isLeapYear (year : Nat) : Bool := year % 4 == 0 && (year % 100 != 0 || year % 400 == 0)

/-- The number of days of each month. -/
def monthLengths (year : Nat) : List Nat :=
  [31, if isLeapYear year then 29 else 28, 31, 30, 31, 30, 31, 31, 30, 31, 30, 31]

/-- How many days the month of a year has. -/
def daysInMonth (year month : Nat) : Nat := ((monthLengths year)[month - 1]?).getD 0

/-- The date of these numbers. -/
def ofNumbers (year month day : Nat) : Except CalendarError Date :=
  if year < 1 || 9999 < year then .error (.yearOutOfRange year)
  else if month < 1 || 12 < month then .error .monthOutOfRange
  else if day < 1 || daysInMonth year month < day then .error .dayOutOfRange
  else .ok ⟨year, month, day⟩

/-- How many days come before a date. -/
def dayNumber (d : Date) : Nat :=
  let before := d.year - 1
  before * 365 + before / 4 - before / 100 + before / 400 +
    ((monthLengths d.year).take (d.month - 1)).foldl Nat.add 0 + d.day - 1

end Date

/-! ## 2. Moments -/

/-- A date with the time of day. -/
structure Moment where
  date : Date
  hour : Nat
  minute : Nat
  second : Nat
  microsecond : Nat
  /-- How many minutes the clock is ahead of universal time, if that is known. -/
  offset : Option Int
  deriving DecidableEq, Repr

namespace Moment

/-- How many minutes a day has. -/
def minutesOfDay : Nat := 1440

/-- Whether an offset is less than a day. -/
def isOffset (minutes : Int) : Bool := minutes.natAbs < minutesOfDay

/-- The moment of these numbers.  The offset is looked at first, then the date, then the time. -/
def ofNumbers (year month day hour minute second microsecond : Nat) (offset : Option Int) :
    Except CalendarError Moment := do
  match offset.filter (!isOffset ·) with
  | some minutes => .error (.offsetOutOfRange minutes)
  | none =>
    let date ← Date.ofNumbers year month day
    if 23 < hour then .error .hourOutOfRange
    else if 59 < minute then .error .minuteOutOfRange
    else if 59 < second then .error .secondOutOfRange
    else .ok ⟨date, hour, minute, second, microsecond, offset⟩

/-- The microseconds of universal time up to a moment with this offset. -/
def instant (m : Moment) (offset : Int) : Int :=
  let minutes := Int.ofNat ((m.date.dayNumber * 24 + m.hour) * 60 + m.minute) - offset
  (minutes * 60 + Int.ofNat m.second) * 1000000 + Int.ofNat m.microsecond

/-- Whether two moments are the same point in time, or the same date and time where no offset is
known. -/
def same (m n : Moment) : Bool :=
  match m.offset, n.offset with
  | some a, some b => m.instant a == n.instant b
  | none, none => m == n
  | _, _ => false

end Moment

/-! ## 3. Spelling -/

/-- Year, month and day with hyphens between them. -/
def Date.text (d : Date) : Text :=
  Text.padded 4 d.year ++ "-" ++ Text.padded 2 d.month ++ "-" ++ Text.padded 2 d.day

/-- An offset as hours and minutes behind a sign. -/
def Moment.offsetText (minutes : Int) : Text :=
  (if minutes < 0 then '-' else '+') :: Text.padded 2 (minutes.natAbs / 60) ++
    ':' :: Text.padded 2 (minutes.natAbs % 60)

/-- The date, the time, the microseconds if there are any, and the offset if it is known. -/
def Moment.text (m : Moment) : Text :=
  m.date.text ++ " " ++ Text.padded 2 m.hour ++ ':' :: Text.padded 2 m.minute ++
    ':' :: Text.padded 2 m.second ++
    (if m.microsecond = 0 then [] else '.' :: Text.padded 6 m.microsecond) ++
    (match m.offset with
      | some minutes => offsetText minutes
      | none => [])

/-- A span of minutes as the generated code's language writes it: whole days, which may be
negative, and seconds from there on. -/
def Moment.spanText (minutes : Int) : Text :=
  let days := minutes.fdiv minutesOfDay
  let seconds := minutes.fmod minutesOfDay * 60
  let parts : List Text :=
    (if days = 0 then [] else [Text.of "days=" ++ Text.ofInt days]) ++
      (if seconds = 0 then [] else [Text.of "seconds=" ++ Text.ofInt seconds])
  "datetime.timedelta(" ++ (if parts.isEmpty then Text.of "0" else Text.join ", " parts) ++ ")"

/-- The wording of an error. -/
def CalendarError.message : CalendarError → Text
  | yearOutOfRange year => "year " ++ Text.ofNat year ++ " is out of range"
  | monthOutOfRange => "month must be in 1..12"
  | dayOutOfRange => "day is out of range for month"
  | hourOutOfRange => "hour must be in 0..23"
  | minuteOutOfRange => "minute must be in 0..59"
  | secondOutOfRange => "second must be in 0..59"
  | offsetOutOfRange minutes =>
    "offset must be a timedelta strictly between -timedelta(hours=24) and " ++
      "timedelta(hours=24), not " ++ Moment.spanText minutes ++ "."

end StoredFunctions
