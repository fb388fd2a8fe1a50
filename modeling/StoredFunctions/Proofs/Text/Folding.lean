/-
# Keywords in any letter case

The words `DEFINE` and `FUNCTION` are compared in lower case, by the full mapping of the Unicode
standard, while a grammar says that ASCII letters may stand in either case.  The two agree for
every keyword that has no `k` in it (`lower_eq_iff`): the Kelvin sign, whose lower-case form is
`k`, is the only character outside ASCII that is mapped into it.
-/
import StoredFunctions.Text.LowerCase

namespace StoredFunctions

/-! ## 1. What lower case makes of a character -/

/-- A letter that only its two ASCII forms have as lower-case form.  NUL is left out because a
code point that is no character would become it. -/
def IsPlainLetter (x : Char) : Prop := x.toNat < 0x80 ∧ x ≠ 'k' ∧ x ≠ '\x00'

instance (x : Char) : Decidable (IsPlainLetter x) := inferInstanceAs (Decidable (_ ∧ _ ∧ _))

theorem toLower_of_not_ascii {c : Char} (h : 0x80 ≤ c.toNat) : c.toLower = c := by
  have hz : ¬ (c.val ≥ 'A'.val ∧ c.val ≤ 'Z'.val) := by
    rintro ⟨-, hz⟩
    have : c.toNat ≤ 'Z'.toNat := UInt32.le_iff_toNat_le.mp hz
    exact absurd (Nat.le_trans h this) (by decide)
  exact dif_neg hz

/-- What the table says of a code point is said by one of its runs. -/
theorem CaseRun.exists_of_lookup? {n m : Nat} :
    ∀ {runs : List CaseRun}, lookup? runs n = some m →
      ∃ run ∈ runs, run.first ≤ n ∧ n ≤ run.last ∧ m = run.lower + (n - run.first)
  | run :: more, h => by
    simp only [lookup?] at h
    split at h
    · exact absurd h (by simp)
    · split at h
      · rename_i hlt hin
        simp only [Bool.and_eq_true, decide_eq_true_eq] at hin
        exact ⟨run, by simp, by omega, hin.1, (Option.some.inj h).symm⟩
      · obtain ⟨r, hr, hrest⟩ := exists_of_lookup? h
        exact ⟨r, by simp [hr], hrest⟩

/-- **The Kelvin sign is alone**: no other run leads from outside ASCII into it. -/
theorem caseRuns_lower :
    ∀ run ∈ caseRuns, run.last < 0x80 ∨ 0x80 ≤ run.lower ∨
      (run.first = run.last ∧ run.lower = 0x6B) := by
  decide +kernel

theorem not_isPlainLetter_ofNat {n : Nat} (h : 0x80 ≤ n ∨ n = 0x6B) :
    ¬ IsPlainLetter (Char.ofNat n) := by
  rcases h with h | rfl
  · rintro ⟨hlt, -, hne⟩
    by_cases hv : n.isValidChar
    · rw [Char.ofNat, dif_pos hv] at hlt
      exact absurd (Nat.lt_of_le_of_lt h hlt) (by simp)
    · rw [Char.ofNat, dif_neg hv] at hne
      exact hne rfl
  · decide

theorem exists_not_isPlainLetter {c : Char} (h : 0x80 ≤ c.toNat) :
    ∃ y ∈ lowerChar c, ¬ IsPlainLetter y := by
  have hc : ¬ IsPlainLetter c := fun hp => absurd hp.1 (by omega)
  unfold lowerChar
  rw [if_neg (by omega)]
  split
  · exact ⟨Char.ofNat 0x307, by simp, by decide⟩
  · split
    · rename_i n hn
      obtain ⟨run, hrun, hfirst, hlast, rfl⟩ := CaseRun.exists_of_lookup? hn
      refine ⟨_, List.mem_singleton.mpr rfl, not_isPlainLetter_ofNat ?_⟩
      rcases caseRuns_lower run hrun with hlt | hge | ⟨heq, hk⟩
      · omega
      · exact .inl (by omega)
      · exact .inr (by omega)
    · exact ⟨c, by simp, hc⟩

/-! ## 2. Keywords -/

/-- A keyword of plain letters. -/
def IsPlain (k : Text) : Prop := ∀ x ∈ k, IsPlainLetter x

-- named, lest the letters be looked for among all the characters there are
instance (k : Text) : Decidable (IsPlain k) := List.decidableBAll IsPlainLetter k

theorem lowerAfter_eq_iff {k : Text} (hk : IsPlain k) :
    ∀ {before t : Text}, lowerAfter before t = k ↔ t.fold = k
  | before, [] => Iff.rfl
  | before, c :: t => by
    by_cases hc : c.toNat < 0x80
    · have hs : ¬ c.toNat = 0x3A3 := by omega
      rw [lowerAfter, if_neg hs, lowerChar, if_pos hc, List.singleton_append, Text.fold,
        List.map_cons]
      cases k with
      | nil => simp
      | cons y k =>
        have ih : lowerAfter (c :: before) t = k ↔ Text.fold t = k :=
          lowerAfter_eq_iff fun x hx => hk x (List.mem_cons_of_mem _ hx)
        rw [List.cons.injEq, List.cons.injEq, ih]
        rfl
    · -- neither text can be the keyword, for both have a letter that it has not
      have hout : ∃ y ∈ lowerAfter before (c :: t), ¬ IsPlainLetter y := by
        rw [lowerAfter]
        split
        · refine ⟨_, List.mem_append_left _ (List.mem_singleton.mpr rfl), ?_⟩
          split
          · decide
          · decide
        · obtain ⟨y, hy, hn⟩ := exists_not_isPlainLetter (Nat.le_of_not_lt hc)
          exact ⟨y, List.mem_append_left _ hy, hn⟩
      have hfold : ∃ y ∈ Text.fold (c :: t), ¬ IsPlainLetter y :=
        ⟨c, by rw [Text.fold, List.map_cons, toLower_of_not_ascii (Nat.le_of_not_lt hc)]; simp,
          fun hp => hc hp.1⟩
      constructor
      · rintro rfl
        obtain ⟨y, hy, hn⟩ := hout
        exact absurd (hk y hy) hn
      · rintro rfl
        obtain ⟨y, hy, hn⟩ := hfold
        exact absurd (hk y hy) hn

/-- **Full lower case and ASCII lower case agree on keywords.** -/
theorem Text.lower_eq_iff {k t : Text} (hk : IsPlain k) :
    t.lower = k ↔ t.fold = k :=
  lowerAfter_eq_iff hk

end StoredFunctions
