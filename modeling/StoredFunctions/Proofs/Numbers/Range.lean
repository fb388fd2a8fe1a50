/-
# Where the double-precision numbers end

The greatest finite number is `(2 ^ 53 - 1) · 2 ^ 971`, and the next one would be `2 ^ 1024`.  An
integer is too large for a number (`ofInt?`) from the middle between the two on: the middle itself
is rounded to the even mantissa, which is the one that is too large.
-/
import Mathlib.Algebra.Group.Nat.Defs
import Mathlib.Tactic.SplitIfs
import StoredFunctions.Numbers.Binary64

namespace StoredFunctions.Binary64

variable {num den m : Nat} {negative : Bool}

/-! ## 1. Rounding -/

/-- A quotient is rounded above `m` from the middle between `m` and `m + 1` on, and there itself if
`m` is odd. -/
theorem lt_roundHalfEven_iff (hden : 0 < den) :
    m < roundHalfEven num den ↔
      2 * (den * m) + den < 2 * num ∨ 2 * (den * m) + den = 2 * num ∧ m % 2 = 1 := by
  have hnum := Nat.div_add_mod num den
  have hr := Nat.mod_lt num hden
  unfold roundHalfEven
  generalize num / den = q at *
  generalize num % den = r at *
  simp only
  rcases Nat.lt_trichotomy m q with hlt | rfl | hlt
  · have hmul : den * m + den ≤ den * q := Nat.mul_succ den m ▸ Nat.mul_le_mul_left den hlt
    split_ifs <;> omega
  · split_ifs <;> omega
  · have hmul : den * q + den ≤ den * m := Nat.mul_succ den q ▸ Nat.mul_le_mul_left den hlt
    split_ifs <;> omega

/-- The mantissa of a fraction, rounded.  It may be `2 ^ 53`, which has one bit more than there is
room for. -/
def mantissaOf (num den : Nat) : Nat :=
  roundHalfEven (scale num den (-exponentOf num den)).1 (scale num den (-exponentOf num den)).2

/-- A fraction is infinite if its exponent is too large, or is made so by its mantissa. -/
theorem exists_ofFraction_infinite_iff (h : num ≠ 0) :
    (∃ sign, ofFraction negative num den = infinite sign) ↔
      maxExponent < exponentOf num den ∨
        exponentOf num den = maxExponent ∧ mantissaOf num den = 2 ^ 53 := by
  have hbits : (1 <<< 53 : Nat) = 2 ^ 53 := rfl
  have hmantissa : roundHalfEven (scale num den (-exponentOf num den)).1
    (scale num den (-exponentOf num den)).2 = mantissaOf num den := rfl
  simp only [ofFraction, h, if_false, hbits, hmantissa]
  by_cases hm : mantissaOf num den = 2 ^ 53
  · simp only [hm, if_true, and_true]
    split_ifs <;> simp <;> omega
  · simp only [hm, if_false, and_false, or_false]
    split_ifs with he <;> simp [he]

/-! ## 2. Integers -/

theorem scale_neg {k : Nat} : scale num den (-(k : Int)) = (num, den * 2 ^ k) := by
  cases k with
  | zero => simp [scale]
  | succ k =>
    rw [show -((k + 1 : Nat) : Int) = .negSucc k from rfl, scale, Nat.shiftLeft_eq]

theorem log2_sub_log2_one :
    (Int.ofNat num.log2 - Int.ofNat (Nat.log2 1) - 53 : Int) = num.log2 - 53 := by
  have hone : Nat.log2 1 = 0 := by decide
  rw [hone]
  simp

theorem exponentOf_one_le (num : Nat) : exponentOf num 1 ≤ max minExponent (num.log2 - 52) := by
  simp only [exponentOf, log2_sub_log2_one]
  split_ifs <;> omega

theorem exponentOf_one {k : Nat} (h : num ≠ 0) (hlog : num.log2 = k + 53) :
    exponentOf num 1 = k + 1 := by
  have hself := Nat.log2_self_le h
  have hlow : (num.log2 - 53 : Int) = k := by omega
  rw [hlog, Nat.pow_add] at hself
  simp only [exponentOf, log2_sub_log2_one, hlow, scale_neg, Nat.one_mul, Nat.shiftLeft_eq, hself,
    if_true, minExponent]
  omega

theorem log2_lt_add_iff {k l : Nat} (h : num ≠ 0) : num.log2 < k + l ↔ num < 2 ^ k * 2 ^ l := by
  rw [Nat.log2_lt h, Nat.pow_add]

/-- The exponent of an integer is that of its greatest bit, and with the greatest exponent for which
there are numbers it has to be rounded to a mantissa of 54 bits. -/
theorem exists_ofFraction_one_infinite_iff (h : num ≠ 0) :
    (∃ sign, ofFraction negative num 1 = infinite sign) ↔ 2 ^ 1024 ≤ num + 2 ^ 970 := by
  have hnext : (2 : Nat) ^ 1024 = 2 ^ 54 * 2 ^ 970 := by omega
  have hunit : (2 : Nat) ^ 971 = 2 * 2 ^ 970 := by omega
  have hpos : 0 < 2 ^ 970 := by omega
  rw [exists_ofFraction_infinite_iff h, hnext]
  rcases Nat.lt_trichotomy num.log2 1023 with hlog | hlog | hlog
  · have hexp := exponentOf_one_le num
    have hlt := (log2_lt_add_iff (k := 53) (l := 970) h).mp hlog
    simp only [maxExponent, minExponent] at hexp ⊢
    generalize 2 ^ 970 = unit at *
    omega
  · have hexp : exponentOf num 1 = 971 := exponentOf_one (k := 970) h hlog
    have hscale : scale num 1 (-971) = (num, 1 * 2 ^ 971) := scale_neg (k := 971)
    have hmantissa : mantissaOf num 1 = roundHalfEven num (2 ^ 971) := by
      simp only [mantissaOf, hexp, hscale, Nat.one_mul]
    have hlt := (log2_lt_add_iff (k := 54) (l := 970) h).mp (by omega)
    have hle : ¬ 2 ^ 53 < mantissaOf num 1 := by
      rw [hmantissa, lt_roundHalfEven_iff (Nat.two_pow_pos 971)]
      simp only [hunit]
      generalize 2 ^ 970 = unit at *
      omega
    have hiff : mantissaOf num 1 = 2 ^ 53 ↔ 2 ^ 53 - 1 < mantissaOf num 1 := by omega
    rw [hiff, hmantissa, lt_roundHalfEven_iff (Nat.two_pow_pos 971), hexp]
    simp only [hunit, maxExponent, Int.lt_irrefl, false_or, true_and]
    generalize 2 ^ 970 = unit at *
    omega
  · obtain ⟨k, hk⟩ : ∃ k, num.log2 = k + 53 := ⟨num.log2 - 53, by omega⟩
    have hexp := exponentOf_one h hk
    have hle := (not_congr (log2_lt_add_iff (k := 54) (l := 970) h)).mp (by omega)
    simp only [maxExponent]
    generalize 2 ^ 970 = unit at *
    omega

/-- The middle between the greatest finite number and `2 ^ 1024`. -/
def overflow : Nat := 2 ^ 1024 - 2 ^ 970

/-- **An integer is too large for a double-precision number** from that middle on. -/
theorem ofInt?_eq_none_iff {n : Int} : ofInt? n = none ↔ overflow ≤ n.natAbs := by
  have hinfinite : ofInt? n = none ↔ ∃ sign, ofFraction (n < 0) n.natAbs 1 = infinite sign := by
    unfold ofInt?
    split
    · rename_i sign h
      simp [h]
    · rename_i x hx
      simp only [reduceCtorEq, false_iff, not_exists]
      exact hx
  have hoverflow : overflow ≤ n.natAbs ↔ 2 ^ 1024 ≤ n.natAbs + 2 ^ 970 := by
    unfold overflow
    omega
  rw [hinfinite, hoverflow]
  by_cases h : n.natAbs = 0
  · refine iff_of_false ?_ (by omega)
    rintro ⟨sign, hsign⟩
    exact absurd hsign (by simp [ofFraction, h])
  · exact exists_ofFraction_one_infinite_iff h

end StoredFunctions.Binary64
