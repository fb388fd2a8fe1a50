/-
# Numbers as decimals

Two decimal spellings of a double-precision number.  The **shortest** one has the fewest digits
that still read back to the same number, and of those the nearest; it is positional from `1e-4` up
to `1e16` and has an exponent outside that range.  The **fixed** one has three places.
-/
import StoredFunctions.Numbers.Binary64
import StoredFunctions.Text.Basic

namespace StoredFunctions.Binary64

/-! ## 1. The shortest digits -/

/-- The place of the first significant digit of a positive fraction: `0` for units, `-1` for
tenths. -/
def leadingPlace (num den : Nat) : Int :=
  if den ≤ num then Int.ofNat (Nat.toDigits 10 (num / den)).length - 1
  else -Int.ofNat (Nat.toDigits 10 ((den - 1) / num)).length

/-- A fraction in units of a power of ten, as a fraction. -/
def inUnits (num den : Nat) (power : Int) : Nat × Nat :=
  match power with
  | .ofNat k => (num, den * Nat.pow 10 k)
  | .negSucc k => (num * Nat.pow 10 (k + 1), den)

/-- The multiple of `10 ^ power` that reads back to the number `x` with this magnitude, the nearer
one if both neighbours do. -/
def readsBackAt? (x : Binary64) (num den : Nat) (power : Int) : Option Nat :=
  let (n, d) := inUnits num den power
  let below := n / d
  let lower := ofDecimal false below power == x
  let upper := ofDecimal false (below + 1) power == x
  if lower && upper then some (roundHalfEven n d)
  else if lower then some below
  else if upper then some (below + 1)
  else none

/-- The digits found first when one digit after the other is allowed; seventeen always suffice. -/
def shortestFrom (x : Binary64) (num den : Nat) (place : Int) : Nat → Nat → Nat × Int
  | 0, _ => (0, 0)
  | tries + 1, count =>
    match readsBackAt? x num den (place - Int.ofNat count) with
    | some digits => (digits, place - Int.ofNat count)
    | none => shortestFrom x num den place tries (count + 1)

/-- The fewest digits that read back to a positive number, as a multiple of a power of ten. -/
def shortestDigits (mantissa : Nat) (exponent : Int) : Nat × Int :=
  let (num, den) := fraction mantissa exponent
  shortestFrom (finite false mantissa exponent) num den (leadingPlace num den) 17 0

/-! ## 2. The spelling -/

/-- The digits of a number without trailing zeros. -/
def significant (digits : Text) : Text := (digits.reverse.dropWhile (· == '0')).reverse

/-- The exponent of ten behind its letter: a sign and two digits or more. -/
def exponentText (e : Int) : Text :=
  let digits := Text.ofNat e.natAbs
  (if e < 0 then '-' else '+') :: List.replicate (2 - digits.length) '0' ++ digits

/-- The digits with the point behind `places` of them, or with an exponent. -/
def placed (digits : Text) (places : Int) : Text :=
  if places ≤ -4 ∨ 16 < places then
    digits.take 1 ++ (if digits.length ≤ 1 then [] else '.' :: digits.drop 1) ++
      'e' :: exponentText (places - 1)
  else match places with
    | .negSucc k => "0." ++ List.replicate (k + 1) '0' ++ digits
    | .ofNat 0 => "0." ++ digits
    | .ofNat k =>
      if digits.length ≤ k then digits ++ List.replicate (k - digits.length) '0' ++ ".0"
      else digits.take k ++ '.' :: digits.drop k

/-- The sign of a negative number. -/
def signText (negative : Bool) : Text := if negative then ['-'] else []

/-- The shortest spelling. -/
def text : Binary64 → Text
  | nan => "nan"
  | infinite negative => signText negative ++ "inf"
  | finite negative 0 _ => signText negative ++ "0.0"
  | finite negative m e =>
    let (digits, power) := shortestDigits m e
    let all := Text.ofNat digits
    signText negative ++ placed (significant all) (Int.ofNat all.length + power)

/-! ## 3. Three places -/

/-- The spelling with three places, halves to the even neighbour. -/
def threePlaces : Binary64 → Text
  | nan => "nan"
  | infinite negative => signText negative ++ "inf"
  | finite negative m e =>
    let (n, d) := fraction m e
    let thousandths := roundHalfEven (n * 1000) d
    let behind := Text.ofNat (thousandths % 1000)
    signText negative ++ Text.ofNat (thousandths / 1000) ++
      '.' :: List.replicate (3 - behind.length) '0' ++ behind

end StoredFunctions.Binary64
