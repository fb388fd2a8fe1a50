/-
# Strings read back

A string that was printed is read as the text it was printed for, whichever characters it was
asked to escape (`readString_stringText`, `ofNumbers_numbers`).  The proof goes character by
character: each one is printed as itself, as a letter behind a backslash, as one unit or as a
surrogate pair, and all of these are read as the number of the character, with nothing left waiting
for a second half.  The number of a character is no half of a pair, so nothing is torn.
-/
import StoredFunctions.Json.Printer
import StoredFunctions.Json.Reader

namespace StoredFunctions

variable {n width : Nat}

/-! ## 1. Hexadecimal digits -/

namespace Text

theorem hexDigit?_digitChar : ∀ d < 16, hexDigit? (Nat.digitChar d) = some d := by decide

/-- The last digit of a number is what is left of it modulo sixteen. -/
theorem hex_succ : hex (width + 2) n = hex (width + 1) (n / 16) ++ [Nat.digitChar (n % 16)] := by
  unfold hex zeroFilled
  rw [Nat.toDigits_eq_if (n := n) (by decide)]
  split
  · rename_i h
    have hzero : Nat.toDigits 16 0 = ['0'] := rfl
    rw [Nat.div_eq_of_lt h, Nat.mod_eq_of_lt h, hzero]
    simp [List.replicate_succ']
  · simp [Nat.succ_sub_succ]

theorem hex_one (h : n < 16) : hex 1 n = [Nat.digitChar n] := by
  unfold hex zeroFilled
  rw [Nat.toDigits_eq_if (by decide), if_pos h]
  rfl

end Text

namespace Json

/-- The four digits of a unit spell it. -/
theorem exists_hex (h : n < 0x10000) :
    ∃ a b c d, Text.hex 4 n = [a, b, c, d] ∧ hexUnit? a b c d = some n := by
  have hlast : n / 16 / 16 / 16 < 16 := by omega
  have hhex : Text.hex 4 n = [Nat.digitChar (n / 16 / 16 / 16), Nat.digitChar (n / 16 / 16 % 16),
      Nat.digitChar (n / 16 % 16), Nat.digitChar (n % 16)] := by
    rw [Text.hex_succ, Text.hex_succ, Text.hex_succ, Text.hex_one hlast]
    rfl
  refine ⟨_, _, _, _, hhex, ?_⟩
  have hmod : ∀ m, m % 16 < 16 := fun m => Nat.mod_lt m (by decide)
  unfold hexUnit?
  rw [Text.hexDigit?_digitChar _ hlast, Text.hexDigit?_digitChar _ (hmod _),
    Text.hexDigit?_digitChar _ (hmod _), Text.hexDigit?_digitChar _ (hmod _)]
  refine congrArg some ?_
  omega

/-! ## 2. One character -/

variable {t rest : Text} {c d : Char} {waiting : Option Nat} {asciiOnly : Bool}

theorem prepend_prepend {ms ns : List Nat} {step : Step (List Nat)} :
    prepend ms (prepend ns step) = prepend (ms ++ ns) step := by
  cases step with
  | error e => rfl
  | ok x => simp [prepend]

theorem readString_quote : readString waiting ('"' :: rest) = .ok (flush waiting, rest) := by
  rw [readString]

theorem readString_escape (h : escapeChar? c = some d) :
    readString none ('\\' :: c :: rest) = prepend [d.toNat] (readString none rest) := by
  have hu : c ≠ 'u' := by
    rintro rfl
    exact absurd h (by simp [escapeChar?])
  rw [readString.eq_4 _ _ _ (by simp [hu]), h]
  rfl

theorem readString_plain (hq : c ≠ '"') (hb : c ≠ '\\') (hc : ¬ c.toNat < 0x20) :
    readString none (c :: rest) = prepend [c.toNat] (readString none rest) := by
  rw [readString.eq_5 _ _ _ (by simp [hq]) (by simp [hb]) (by simp [hb])]
  simp [hb, hc, flush]

theorem readString_unit (h : n < 0x10000) : readString waiting (unitEscape n ++ rest) =
    prepend (joinUnit waiting n).1 (readString (joinUnit waiting n).2 rest) := by
  obtain ⟨a, b, c, d, hhex, hunit⟩ := exists_hex h
  rw [unitEscape, hhex]
  simp only [List.cons_append, List.nil_append]
  rw [readString, hunit]

/-- A character is no half of a surrogate pair. -/
theorem not_surrogate (c : Char) : ¬ (0xD800 ≤ c.toNat ∧ c.toNat < 0xE000) := by
  have hvalid := c.valid
  intro h
  rcases hvalid with hlow | hhigh
  · have : c.toNat < 0xD800 := hlow
    omega
  · have : 0xDFFF < c.toNat := hhigh.1
    omega

theorem isHighSurrogate_toNat (c : Char) : isHighSurrogate c.toNat = false := by
  have := not_surrogate c
  simp only [isHighSurrogate, Bool.and_eq_false_iff, decide_eq_false_iff_not]
  omega

theorem isLowSurrogate_toNat (c : Char) : isLowSurrogate c.toNat = false := by
  have := not_surrogate c
  simp only [isLowSurrogate, Bool.and_eq_false_iff, decide_eq_false_iff_not]
  omega

theorem char_toNat_lt (c : Char) : c.toNat < 0x110000 := by
  rcases c.valid with h | h
  · have : c.toNat < 0xD800 := h
    omega
  · exact h.2

/-- The two halves for a character beyond one unit are halves, and belong together. -/
theorem pair_of_large (h : ¬ c.toNat < 0x10000) :
    isHighSurrogate (0xD800 + (c.toNat - 0x10000) / 0x400) = true ∧
      isLowSurrogate (0xDC00 + (c.toNat - 0x10000) % 0x400) = true ∧
      pairChar (0xD800 + (c.toNat - 0x10000) / 0x400)
        (0xDC00 + (c.toNat - 0x10000) % 0x400) = c := by
  have hmax := char_toNat_lt c
  refine ⟨?_, ?_, ?_⟩
  · simp only [isHighSurrogate, Bool.and_eq_true, decide_eq_true_eq]
    omega
  · simp only [isLowSurrogate, Bool.and_eq_true, decide_eq_true_eq]
    omega
  · have hsum : 0x10000 + (0xD800 + (c.toNat - 0x10000) / 0x400 - 0xD800) * 0x400 +
        (0xDC00 + (c.toNat - 0x10000) % 0x400 - 0xDC00) = c.toNat := by omega
    rw [pairChar, hsum, Char.ofNat_toNat]

/-- A character is read back from one unit or from two. -/
theorem readString_charEscape (c : Char) :
    readString none (charEscape c ++ rest) = prepend [c.toNat] (readString none rest) := by
  unfold charEscape
  split
  · rename_i hsmall
    rw [readString_unit hsmall]
    simp [joinUnit, isHighSurrogate_toNat]
  · rename_i hlarge
    have hmax := char_toNat_lt c
    obtain ⟨hhigh, hlow, hpair⟩ := pair_of_large hlarge
    simp only [List.append_assoc]
    rw [readString_unit (by omega)]
    simp only [joinUnit, hhigh, if_true]
    rw [readString_unit (by omega)]
    simp only [joinUnit, hlow, if_true, hpair, prepend_prepend, List.nil_append]

/-- **A printed character is read as that character.** -/
theorem readString_stringChar (asciiOnly : Bool) (c : Char) :
    readString none (stringChar asciiOnly c ++ rest) =
      prepend [c.toNat] (readString none rest) := by
  unfold stringChar
  -- seven characters have a letter of their own
  iterate 7
    split
    · rename_i h
      exact readString_escape (by rw [h]; decide)
  split
  · exact readString_charEscape c
  · rename_i hq hb _ _ _ _ _ hplain
    refine readString_plain hq hb fun hc => hplain ?_
    simp [hc]

/-! ## 3. Strings -/

/-- The numbers of the characters of a text. -/
def numbers (t : Text) : List Nat := t.map Char.toNat

/-- **A printed string is read as the numbers of its text**, and the reader stops behind its closing
quote. -/
theorem readString_stringText (asciiOnly : Bool) (t : Text) :
    readString none (t.flatMap (stringChar asciiOnly) ++ '"' :: rest) = .ok (numbers t, rest) := by
  induction t with
  | nil => exact readString_quote
  | cons c t ih =>
    rw [List.flatMap_cons, List.append_assoc, readString_stringChar, ih]
    rfl

/-! ## 4. Numbers of characters -/

theorem hasHalf_numbers (t : Text) : hasHalf (numbers t) = false := by
  induction t with
  | nil => rfl
  | cons c t ih =>
    have hcons : hasHalf (numbers (c :: t)) =
        ((isHighSurrogate c.toNat || isLowSurrogate c.toNat) || hasHalf (numbers t)) := rfl
    rw [hcons, isHighSurrogate_toNat, isLowSurrogate_toNat, ih]
    rfl

theorem textOf_numbers (t : Text) : textOf (numbers t) = t := by
  have hchar : ∀ c ∈ t, unitChar c.toNat = c := fun c _ => by
    simp [unitChar, isHighSurrogate_toNat, isLowSurrogate_toNat]
  rw [textOf, numbers, List.map_map]
  exact (List.map_congr_left hchar).trans (List.map_id t)

/-- **The numbers of a text make the string of it.** -/
theorem ofNumbers_numbers (t : Text) : ofNumbers (numbers t) = string t := by
  rw [ofNumbers, hasHalf_numbers, textOf_numbers]
  rfl

/-- Members whose names are given by the numbers of their characters. -/
def numbered (ms : List (Text × Json)) : List (List Nat × Json) :=
  ms.map fun m => (numbers m.1, m.2)

/-- **The numbers of names make the object with these names.** -/
theorem ofNumberedMembers_numbered (ms : List (Text × Json)) :
    ofNumberedMembers (numbered ms) = ofMembers ms := by
  have hnames : (numbered ms).map (fun m => (textOf m.1, m.2)) = ms := by
    rw [numbered, List.map_map]
    refine (List.map_congr_left fun m _ => ?_).trans (List.map_id ms)
    simp only [Function.comp_apply, textOf_numbers, id]
  have hwhole : (numbered ms).any (fun m => hasHalf m.1) = false := by
    simp [numbered, hasHalf_numbers]
  rw [ofNumberedMembers, hnames, hwhole]
  rfl

end Json

end StoredFunctions
