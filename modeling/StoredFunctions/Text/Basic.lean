/-
# Texts

A **text** is a sequence of code points, and every offset, column and length of this library
counts code points.  Documents, names and everything that is printed are texts, so that reading
and printing can be compared by plain equality of lists.

Literals are written as strings and meet the rest of the library through `Text.of`, which is
sealed: proofs carry `Text.of "record"` around as one word and open it with `Text.of_eq` where
the letters matter.
-/
import StoredFunctions.Text.CodePointRange

namespace StoredFunctions

/-- A sequence of code points. -/
abbrev Text := List Char

namespace Text

/-! ## 1. Literals -/

/-- The characters of a literal. -/
@[irreducible] def of (literal : String) : Text := literal.toList

instance : Coe String Text := ⟨Text.of⟩

theorem of_eq (literal : String) : Text.of literal = literal.toList := by
  unfold Text.of
  rfl

@[simp] theorem of_inj {a b : String} : Text.of a = Text.of b ↔ a = b := by
  rw [of_eq, of_eq, String.toList_inj]

/-! ## 2. Joining and searching -/

/-- The given texts in order, with `separator` between neighbours. -/
def join (separator : Text) : List Text → Text
  | [] => []
  | [t] => t
  | t :: u :: more => t ++ separator ++ join separator (u :: more)

/-- How many characters of `t` come before the first occurrence of `marker`. -/
def indexOf? (t marker : Text) : Option Nat :=
  match t with
  | [] => if marker.isEmpty then some 0 else none
  | c :: more =>
    if marker.isPrefixOf (c :: more) then some 0 else (indexOf? more marker).map (· + 1)

/-- The order of texts: by code point at the first difference, a shorter text first. -/
def le : Text → Text → Bool
  | [], _ => true
  | _ :: _, [] => false
  | a :: s, b :: t => if a = b then le s t else a.toNat < b.toNat

/-- The list without its later copies of equal texts. -/
def distinct : List Text → List Text
  | [] => []
  | t :: more => t :: (distinct more).filter (· != t)

/-! ## 3. Numbers in texts -/

/-- The decimal digits of a number, without leading zeros. -/
def ofNat (n : Nat) : Text := Nat.toDigits 10 n

/-- The decimal digits of a number, after a minus sign when it is negative. -/
def ofInt : Int → Text
  | .ofNat n => ofNat n
  | .negSucc n => '-' :: ofNat (n + 1)

/-- The number that a run of decimal digits spells. -/
def toNat (digits : Text) : Nat := Nat.ofDigitChars 10 digits 0

theorem toNat_ofNat (n : Nat) : toNat (ofNat n) = n :=
  Nat.ofDigitChars_toDigits (by decide) (by decide)

/-- Digits with zeros in front up to `width`. -/
def zeroFilled (width : Nat) (digits : Text) : Text :=
  List.replicate (width - digits.length) '0' ++ digits

/-- The decimal digits of a number, padded with zeros to `width`. -/
def padded (width n : Nat) : Text := zeroFilled width (ofNat n)

/-- The lower-case hexadecimal digits of a number, padded with zeros to `width`. -/
def hex (width n : Nat) : Text := zeroFilled width (Nat.toDigits 16 n)

end Text

/-! ## 4. Letters and digits of the grammar -/

/-- The ten ASCII digits. -/
def isDigit (c : Char) : Bool := c.isDigit

/-- ASCII letters, digits and the underscore: the characters of a bare name. -/
def isWordChar (c : Char) : Bool := c.isAlphanum || c == '_'

theorem Text.ofNat_ne_nil (n : Nat) : ofNat n ≠ [] := by
  rw [ofNat, Nat.toDigits_eq_if (by decide)]
  split <;> simp

theorem Text.all_isDigit_ofNat (n : Nat) : (ofNat n).all isDigit = true :=
  List.all_eq_true.mpr fun _ h => Nat.isDigit_of_mem_toDigits (by decide) (by decide) h

/-- A word with its ASCII letters in lower case. -/
def Text.fold (word : Text) : Text := word.map Char.toLower

/-! ## 5. Pieces in a row -/

section Pieces

variable {α β γ : Type} {as : List α} {f : α → List β} {g : α → List γ}

/-- **What relates pieces relates them in a row**, if it relates the empty lists, and two lists to
two others wherever it relates their parts. -/
theorem related_flatMap {R : List β → List γ → Prop} (hnil : R [] [])
    (happend : ∀ {u v s t}, R u s → R v t → R (u ++ v) (s ++ t)) (h : ∀ a ∈ as, R (f a) (g a)) :
    R (as.flatMap f) (as.flatMap g) := by
  induction as with
  | nil => exact hnil
  | cons a as ih =>
    obtain ⟨ha, has⟩ := List.forall_mem_cons.mp h
    exact happend ha (ih has)

theorem flatMap_of_pieces {P : List β → Prop} (hnil : P [])
    (happend : ∀ {u v}, P u → P v → P (u ++ v)) (h : ∀ a ∈ as, P (f a)) : P (as.flatMap f) :=
  related_flatMap (R := fun u (_ : List β) => P u) (g := f) hnil happend h

end Pieces

end StoredFunctions
