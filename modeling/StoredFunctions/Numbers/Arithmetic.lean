/-
# Sums and products

Sums and products of double-precision numbers.  Both are computed exactly on integers and then
rounded to the nearest number, once.
-/
import StoredFunctions.Numbers.Binary64

namespace StoredFunctions.Binary64

/-- The number nearest to `magnitude · 2 ^ power`. -/
def ofScaled (negative : Bool) (magnitude : Nat) (power : Int) : Binary64 :=
  let (num, den) := scale magnitude 1 power
  ofFraction negative num den

/-- The number with its sign changed. -/
def neg : Binary64 → Binary64
  | nan => nan
  | infinite negative => infinite (!negative)
  | finite negative m e => finite (!negative) m e

/-- A magnitude with its sign. -/
def signed (negative : Bool) (magnitude : Nat) : Int :=
  if negative then -Int.ofNat magnitude else Int.ofNat magnitude

/-- The sum, rounded.  A sum of nothing but negative zeros is negative, any other zero positive. -/
def add : Binary64 → Binary64 → Binary64
  | nan, _ => nan
  | _, nan => nan
  | infinite s, infinite t => if s = t then infinite s else nan
  | infinite s, finite _ _ _ => infinite s
  | finite _ _ _, infinite t => infinite t
  | finite s m e, finite t k f =>
    let power := min e f
    let sum := signed s (m <<< (e - power).toNat) + signed t (k <<< (f - power).toNat)
    if sum = 0 then finite (s && t) 0 minExponent
    else ofScaled (sum < 0) sum.natAbs power

/-- The product, rounded.  Zero times infinity is no number. -/
def mul : Binary64 → Binary64 → Binary64
  | nan, _ => nan
  | _, nan => nan
  | infinite s, infinite t => infinite (s != t)
  | infinite s, finite t m _ => if m = 0 then nan else infinite (s != t)
  | finite s m _, infinite t => if m = 0 then nan else infinite (s != t)
  | finite s m e, finite t k f => ofScaled (s != t) (m * k) (e + f)

/-- Whether the number is this integer. -/
def isInt (x : Binary64) (n : Int) : Bool :=
  match x with
  | finite negative m e =>
    let (num, den) := fraction m e
    signed negative num == n * Int.ofNat den
  | _ => false

/-- Whether two numbers are the same point of the line; the two zeros are. -/
def samePoint (x y : Binary64) : Bool := x == y || (x.isZero && y.isZero)

end StoredFunctions.Binary64
