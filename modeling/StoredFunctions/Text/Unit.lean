/-
# Units of sixteen bits

Escapes number characters in units of sixteen bits.  A character beyond the first 65536 takes a
**surrogate pair**, two units from ranges of their own; half a pair is no character, and a text can
only hold a replacement for one that stands alone.
-/
import StoredFunctions.Text.Basic

namespace StoredFunctions

/-- Whether a unit is the first of a surrogate pair. -/
def isHighSurrogate (unit : Nat) : Bool := 0xD800 ≤ unit && unit < 0xDC00

/-- Whether a unit is the second of a surrogate pair. -/
def isLowSurrogate (unit : Nat) : Bool := 0xDC00 ≤ unit && unit < 0xE000

/-- The character of a unit that stands alone.  Half a surrogate pair is no character and is
replaced. -/
def unitChar (unit : Nat) : Char :=
  if isHighSurrogate unit || isLowSurrogate unit then '\ufffd' else Char.ofNat unit

/-- The character of a surrogate pair. -/
def pairChar (high low : Nat) : Char :=
  Char.ofNat (0x10000 + (high - 0xD800) * 0x400 + (low - 0xDC00))

namespace Text

/-- The text that units and the numbers of whole characters spell. -/
def ofUnits : List Nat → Text
  | [] => []
  | [unit] => [unitChar unit]
  | first :: second :: more =>
    if isHighSurrogate first && isLowSurrogate second then pairChar first second :: ofUnits more
    else unitChar first :: ofUnits (second :: more)

/-- The value of a hexadecimal digit. -/
def hexDigit? (c : Char) : Option Nat :=
  if '0' ≤ c && c ≤ '9' then some (c.toNat - 48)
  else if 'a' ≤ c && c ≤ 'f' then some (c.toNat - 87)
  else if 'A' ≤ c && c ≤ 'F' then some (c.toNat - 55)
  else none

/-- The number that digits of a base up to sixteen spell. -/
def digitsToBase? (base : Nat) (digits : Text) : Option Nat :=
  if digits.isEmpty then none
  else digits.foldlM (fun n c => do
    let d ← hexDigit? c
    if d < base then some (n * base + d) else none) 0

end Text

end StoredFunctions
