/-
# Integers read back

A printed integer is read as that integer, if it is short enough to be read and nothing behind it
could belong to a number (`readAtom_ofInt`).  The reader tries words first; these begin with other
letters, except for the one that begins with a minus sign.
-/
import StoredFunctions.Json.Reader

namespace StoredFunctions.Json

variable {t rest : Text} {n : Nat}

/-! ## 1. What is behind a number -/

/-- Whether a text goes on with nothing that could belong to a number. -/
def EndsNumber (t : Text) : Prop :=
  ∀ x ∈ t.head?, isDigit x = false ∧ x ≠ '.' ∧ x ≠ 'e' ∧ x ≠ 'E'

theorem EndsNumber.digits (h : EndsNumber rest) (ht : t.all isDigit = true) :
    digits (t ++ rest) = (t, rest) := by
  have hrest : rest.takeWhile isDigit = [] ∧ rest.dropWhile isDigit = rest := by
    cases rest with
    | nil => exact ⟨rfl, rfl⟩
    | cons x rest => simp [(h x rfl).1]
  have hall := List.all_eq_true.mp ht
  rw [Json.digits, List.takeWhile_append_of_pos hall, List.dropWhile_append_of_pos hall, hrest.1,
    hrest.2, List.append_nil]

theorem EndsNumber.fractionPart (h : EndsNumber t) : fractionPart t = ([], t) := by
  cases t with
  | nil => rfl
  | cons x t =>
    rw [Json.fractionPart.eq_2]
    rintro u ⟨⟩
    exact (h '.' rfl).2.1 rfl

theorem EndsNumber.exponentPart (h : EndsNumber t) : exponentPart t = ([], t) := by
  cases t with
  | nil => rfl
  | cons x t => simp [Json.exponentPart, (h x rfl).2.2]

/-! ## 2. Integers -/

/-- The first digit of a number other than zero is not zero. -/
theorem head_ofNat (h : 0 < n) : ∀ x ∈ (Text.ofNat n).head?, x ≠ '0' := by
  unfold Text.ofNat
  induction n using Nat.strongRecOn with
  | ind n ih =>
    rw [Nat.toDigits_eq_if (by decide)]
    split
    · rename_i hlt
      have hdigit : ∀ d < 10, 0 < d → Nat.digitChar d ≠ '0' := by decide
      rintro x ⟨⟩
      exact hdigit n hlt h
    · have hdiv := ih (n / 10) (by omega) (by omega)
      rw [List.head?_append]
      intro x hx
      refine hdiv x ?_
      obtain ⟨y, u, hy⟩ := List.exists_cons_of_ne_nil (Text.ofNat_ne_nil (n / 10))
      rw [Text.ofNat] at hy
      rw [hy] at hx ⊢
      exact hx

theorem exists_digit (n : Nat) : ∃ x u, Text.ofNat n = x :: u ∧ isDigit x = true := by
  obtain ⟨x, u, hx⟩ := List.exists_cons_of_ne_nil (Text.ofNat_ne_nil n)
  exact ⟨x, u, hx, List.all_eq_true.mp (Text.all_isDigit_ofNat n) x (by simp [hx])⟩

/-- The digits of a number are taken as a whole, also if the number is zero. -/
theorem readNumber_ofNat (negative : Bool) (hlength : (Text.ofNat n).length ≤ digitLimit)
    (h : EndsNumber rest) : readNumber negative (Text.ofNat n ++ rest) =
      .ok (int (if negative then -Int.ofNat n else Int.ofNat n), rest) := by
  obtain ⟨x, u, hx, -⟩ := exists_digit n
  have hne : (Text.ofNat n).isEmpty = false := by simp [hx]
  unfold readNumber
  split
  rename_i whole rest' hwhole
  obtain ⟨rfl, rfl⟩ : whole = Text.ofNat n ∧ rest' = rest := by
    rcases Nat.eq_zero_or_pos n with rfl | hpos
    · obtain ⟨rfl, rfl⟩ := Prod.mk.inj hwhole
      exact ⟨rfl, rfl⟩
    · have hzero : x ≠ '0' := head_ofNat hpos x (by simp [hx])
      split at hwhole
      · rename_i heq
        rw [hx] at heq
        exact absurd (List.cons.inj heq).1 hzero
      · rw [h.digits (Text.all_isDigit_ofNat n)] at hwhole
        obtain ⟨rfl, rfl⟩ := Prod.mk.inj hwhole
        exact ⟨rfl, rfl⟩
  simp [hne, h.fractionPart, h.exponentPart, Text.toNat_ofNat, Nat.not_lt.mpr hlength]

/-- Words begin with other letters than numbers do. -/
theorem afterWord?_eq_none {word : String} {x y : Char} {u : Text} {letters : List Char}
    (hword : word.toList = y :: letters) (hne : y ≠ x) : afterWord? word (x :: u) = none := by
  rw [afterWord?, Text.of_eq, hword, if_neg]
  simp [List.isPrefixOf, hne]

theorem readAtom_ofNat (hlength : (Text.ofNat n).length ≤ digitLimit) (h : EndsNumber rest) :
    readAtom (Text.ofNat n ++ rest) = .ok (int (Int.ofNat n), rest) := by
  obtain ⟨x, u, hx, hdigit⟩ := exists_digit n
  have hnumber := readNumber_ofNat false hlength h
  rw [hx, List.cons_append] at hnumber ⊢
  have hletter : ∀ y, isDigit y = false → y ≠ x := by
    rintro y hy rfl
    rw [hdigit] at hy
    cases hy
  unfold readAtom
  rw [afterWord?_eq_none rfl (hletter _ (by decide)),
    afterWord?_eq_none rfl (hletter _ (by decide)),
    afterWord?_eq_none rfl (hletter _ (by decide)),
    afterWord?_eq_none rfl (hletter _ (by decide)),
    afterWord?_eq_none rfl (hletter _ (by decide)),
    afterWord?_eq_none rfl (hletter _ (by decide))]
  simp only
  split
  · rename_i heq
    exact absurd (List.cons.inj heq).1.symm (hletter '-' (by decide))
  · exact hnumber

theorem readAtom_neg (hlength : (Text.ofNat n).length ≤ digitLimit) (h : EndsNumber rest) :
    readAtom ('-' :: (Text.ofNat n ++ rest)) = .ok (int (-Int.ofNat n), rest) := by
  obtain ⟨x, u, hx, hdigit⟩ := exists_digit n
  have hinfinity : afterWord? "-Infinity" ('-' :: (Text.ofNat n ++ rest)) = none := by
    have hne : 'I' ≠ x := by
      rintro rfl
      exact absurd hdigit (by decide)
    rw [afterWord?, Text.of_eq, hx, if_neg]
    simp [List.isPrefixOf, hne]
  unfold readAtom
  rw [afterWord?_eq_none rfl (by decide), afterWord?_eq_none rfl (by decide),
    afterWord?_eq_none rfl (by decide), afterWord?_eq_none rfl (by decide),
    afterWord?_eq_none rfl (by decide), hinfinity]
  exact readNumber_ofNat true hlength h

/-- **A printed integer is read as that integer.** -/
theorem readAtom_ofInt {i : Int} (hlength : (Text.ofNat i.natAbs).length ≤ digitLimit)
    (h : EndsNumber rest) : readAtom (Text.ofInt i ++ rest) = .ok (int i, rest) := by
  cases i with
  | ofNat n => exact readAtom_ofNat hlength h
  | negSucc n => exact readAtom_neg hlength h

/-- A printed integer begins with a digit or a minus sign. -/
theorem head_ofInt (i : Int) :
    ∀ x ∈ (Text.ofInt i).head?, x ≠ '"' ∧ x ≠ '[' ∧ x ≠ '\x7b' := by
  cases i with
  | ofNat n =>
    obtain ⟨y, u, hy, hdigit⟩ := exists_digit n
    rw [Text.ofInt, hy]
    rintro x ⟨⟩
    refine ⟨?_, ?_, ?_⟩
    all_goals
      rintro rfl
      exact absurd hdigit (by decide)
  | negSucc n =>
    rintro x ⟨⟩
    decide

end StoredFunctions.Json
