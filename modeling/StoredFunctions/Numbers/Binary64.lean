/-
# Double-precision numbers

Settings may hold numbers with a fraction or an exponent.  They are double-precision binary
numbers, and everything asked of them -- reading a decimal, comparing with zero, cutting off the
fraction -- is computed exactly on integers: a finite number is `mantissa · 2 ^ exponent` with its
sign.
-/
namespace StoredFunctions

/-- A double-precision number.  Finite ones have a mantissa below `2 ^ 53` and an exponent between
`-1074` and `971`. -/
inductive Binary64 where
  | nan
  | infinite (negative : Bool)
  | finite (negative : Bool) (mantissa : Nat) (exponent : Int)
  deriving DecidableEq, Repr

namespace Binary64

/-! ## 1. Rounding -/

/-- The quotient rounded to the nearest integer, halves to the even one. -/
def roundHalfEven (num den : Nat) : Nat :=
  let q := num / den
  let r := num % den
  if 2 * r < den then q
  else if den < 2 * r then q + 1
  else if q % 2 = 0 then q else q + 1

/-- A fraction times a power of two, as a fraction. -/
def scale (num den : Nat) (power : Int) : Nat × Nat :=
  match power with
  | .ofNat k => (num <<< k, den)
  | .negSucc k => (num, den <<< (k + 1))

/-- The least exponent. -/
def minExponent : Int := -1074

/-- The greatest exponent. -/
def maxExponent : Int := 971

/-- The exponent at which a positive fraction has a mantissa of 53 bits, if that is not below the
least exponent. -/
def exponentOf (num den : Nat) : Int :=
  let low : Int := Int.ofNat num.log2 - Int.ofNat den.log2 - 53
  let (n, d) := scale num den (-low)
  max minExponent (if d <<< 53 ≤ n then low + 1 else low)

/-- The number nearest to a fraction. -/
def ofFraction (negative : Bool) (num den : Nat) : Binary64 :=
  if num = 0 then finite negative 0 minExponent
  else
    let e := exponentOf num den
    let (n, d) := scale num den (-e)
    let m := roundHalfEven n d
    let (m, e) := if m = 1 <<< 53 then (1 <<< 52, e + 1) else (m, e)
    if maxExponent < e then infinite negative else finite negative m e

/-- The number nearest to `digits · 10 ^ power`.  A value with more than 310 places before the
point is infinite and one with more than 400 zeros behind it is zero, so the powers stay small. -/
def ofDecimal (negative : Bool) (digits : Nat) (power : Int) : Binary64 :=
  let places : Int := Int.ofNat (Nat.toDigits 10 digits).length + power
  if digits = 0 then finite negative 0 minExponent
  else if 310 < places then infinite negative
  else if places < -400 then finite negative 0 minExponent
  else match power with
    | .ofNat k => ofFraction negative (digits * Nat.pow 10 k) 1
    | .negSucc k => ofFraction negative digits (Nat.pow 10 (k + 1))

/-- The number nearest to an integer; `none` if the integer is too large. -/
def ofInt? (n : Int) : Option Binary64 :=
  match ofFraction (n < 0) n.natAbs 1 with
  | infinite _ => none
  | x => some x

/-! ## 2. Questions -/

/-- The magnitude of a finite number as a fraction. -/
def fraction (mantissa : Nat) (exponent : Int) : Nat × Nat := scale mantissa 1 exponent

/-- The integer next to a finite number in the direction of zero. -/
def truncate? : Binary64 → Option Int
  | finite negative m e =>
    let (n, d) := fraction m e
    let whole : Int := Int.ofNat (n / d)
    some (if negative then -whole else whole)
  | _ => none

/-- Whether the number is zero. -/
def isZero : Binary64 → Bool
  | finite _ m _ => m == 0
  | _ => false

/-- Whether the number is at most zero. -/
def atMostZero : Binary64 → Bool
  | nan => false
  | infinite negative => negative
  | finite negative m _ => negative || m == 0

end Binary64

end StoredFunctions
