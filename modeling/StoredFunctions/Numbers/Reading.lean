/-
# Numbers written by people

A setting may give a number as a text: with blanks around it, a sign, single underscores between
digits, and digits of any script.  An integer written so may have at most `digitLimit` digits.
Where a fraction makes sense the number may have a point and an exponent, or be one of the words
for infinity and for no number.
-/
import StoredFunctions.Numbers.Binary64
import StoredFunctions.Source.Failure
import StoredFunctions.Text.DecimalDigit
import StoredFunctions.Text.Blank
import StoredFunctions.Text.Unit

namespace StoredFunctions.Numbers

/-! ## 1. What people may add -/

/-- The blanks that may stand around a number: all but the four separator controls. -/
def isNumberBlank (c : Char) : Bool := isBlank c && !(0x1C ≤ c.toNat && c.toNat ≤ 0x1F)

/-- The text without blanks around it and with ASCII digits. -/
def plain (t : Text) : Text :=
  let inner := ((t.dropWhile isNumberBlank).reverse.dropWhile isNumberBlank).reverse
  inner.map fun c => match digitValue? c with
    | some d => Char.ofNat (48 + d)
    | none => c

/-- The text behind the character `previous` without its underscores, each of which has to stand
between two digits. -/
def withoutUnderscores? (previous : Char) : Text → Option Text
  | [] => if previous = '_' then none else some []
  | c :: more =>
    if c = '_' then
      if isDigit previous then withoutUnderscores? '_' more else none
    else if previous = '_' && !isDigit c then none
    else (withoutUnderscores? c more).map (c :: ·)

/-- Whether a number is negative by its sign, and the text behind the sign. -/
def splitSign : Text → Bool × Text
  | '-' :: more => (true, more)
  | '+' :: more => (false, more)
  | t => (false, t)

/-! ## 2. Integers -/

/-- The integer that a text spells. -/
def readInt? (t : Text) : Option Int := do
  let (negative, unsigned) := splitSign (plain t)
  let digits ← withoutUnderscores? ' ' unsigned
  if digits.isEmpty || !digits.all isDigit || digitLimit < digits.length then none
  else
    let n : Int := Int.ofNat (Text.toNat digits)
    pure (if negative then -n else n)

/-- The letter that announces a base behind a zero. -/
def baseLetter? (base : Nat) : Option Char :=
  ([(2, 'b'), (8, 'o'), (16, 'x')] : List (Nat × Char)).lookup base

/-- The digits without the announcement of their base. -/
def withoutBase (base : Nat) : Text → Text
  | '0' :: c :: more => if baseLetter? base = some c.toLower then more else '0' :: c :: more
  | t => t

/-- The integer that a text without underscores spells to a base.  Where the base is a power of two
any number of digits can be read. -/
def readBased? (base : Nat) (t : Text) : Option Int := do
  let (negative, unsigned) := splitSign (plain t)
  let n ← Text.digitsToBase? base (withoutBase base unsigned)
  pure (if negative then -Int.ofNat n else Int.ofNat n)

/-! ## 3. Decimals -/

/-- The power of ten that an exponent gives: an `e`, a sign, and digits.  No text is no power. -/
def readExponent? : Text → Option Int
  | [] => some 0
  | e :: more =>
    let (negative, digits) := splitSign more
    if (e = 'e' || e = 'E') && !digits.isEmpty && digits.all isDigit then
      let n : Int := Int.ofNat (Text.toNat digits)
      some (if negative then -n else n)
    else none

/-- The number nearest to an unsigned decimal. -/
def readDecimal? (negative : Bool) (t : Text) : Option Binary64 :=
  let whole := t.takeWhile isDigit
  let (behind, rest) := match t.dropWhile isDigit with
    | '.' :: more => (more.takeWhile isDigit, more.dropWhile isDigit)
    | rest => ([], rest)
  if (whole ++ behind).isEmpty then none
  else (readExponent? rest).map fun power =>
    Binary64.ofDecimal negative (Text.toNat (whole ++ behind)) (power - Int.ofNat behind.length)

/-- The double-precision number that a text spells. -/
def readFloat? (t : Text) : Option Binary64 := do
  let (negative, unsigned) := splitSign (plain t)
  let word := Text.fold unsigned
  if word = "inf" || word = "infinity" then pure (.infinite negative)
  else if word = "nan" then pure .nan
  else
    let digits ← withoutUnderscores? ' ' unsigned
    readDecimal? negative digits

end StoredFunctions.Numbers
