/-
# The canonical spelling of a kind

`Kind.text` writes one of the source texts of a kind (`spelling_text`), so that what is written is
read back (`text_roundTrip`).  Not every kind can be written: no spelling of a table's name stands
for NUL, and a bound has at most as many digits as the reader takes (`Writable`).  But what has
been read can be written (`writable_of_spelling`), also where a bound was read from more digits
than it is written with.
-/
import Mathlib.Algebra.Group.Nat.Defs
import StoredFunctions.Proofs.Kind.Reading
import StoredFunctions.Proofs.Outcome

namespace StoredFunctions.Kind

open Filler Punctuation

/-! ## 1. Kinds that can be written -/

/-- Whether a bound is short enough to be read. -/
def IsBound (limit : Option Nat) : Prop := ∀ n ∈ limit, (Text.ofNat n).length ≤ digitLimit

mutual

/-- The kinds that have a spelling. -/
def Writable : Kind → Prop
  | primitive _ => True
  | geometry _ _ => True
  | record tables => ∀ table ∈ tables, '\x00' ∉ table.name
  | option inner => inner.Writable
  | array inner limit => inner.Writable ∧ IsBound limit
  | set inner limit => inner.Writable ∧ IsBound limit
  | either first second more => first.Writable ∧ second.Writable ∧ AllWritable more

/-- Lists of kinds that have a spelling. -/
def AllWritable : List Kind → Prop
  | [] => True
  | k :: more => k.Writable ∧ AllWritable more

end

/-! ## 2. The parts of a spelling -/

/-- Brackets without filler. -/
theorem enclosed_text (t : Text) : Enclosed t ("<" ++ (t ++ ">")) :=
  ⟨[], [], by simp, isFiller_nil, isFiller_nil⟩

theorem following_bar {α : Type} {P : α → Text → Prop} {as : List α} (spell : α → Text)
    (h : ∀ a ∈ as, P a (spell a)) :
    Following "|" P as ((as.map spell).flatMap (Text.of " | " ++ ·)) := by
  rw [spacedBar_eq]
  exact following_flatMap isFiller_space isFiller_space h

/-- A bound as it is written. -/
theorem bound_ofNat {n : Nat} (h : IsBound (some n)) :
    Bound (some n) (Text.of ", " ++ Text.ofNat n) := by
  have hbound := Bound.some isFiller_nil isFiller_space (Text.ofNat_ne_nil n) (h n rfl)
    (Text.all_isDigit_ofNat n)
  rw [Text.toNat_ofNat] at hbound
  rw [spacedComma_eq]
  simpa using hbound

theorem eq_any_of_isAny {k : Kind} (h : k.isAny = true) : k = any := by
  cases k with
  | primitive p =>
    cases p with
    | any => rfl
    | _ => exact absurd h (by simp [isAny])
  | _ => exact absurd h (by simp [isAny])

/-- A sequence or a set is written bare, or with its element, or with element and bound; `bare`
and `full` stand for the spellings of the one or the other. -/
theorem spelling_collectionText {former : Kind → Option Nat → Kind} {keyword t : Text} {k : Kind}
    {limit : Option Nat} (bare : Spelling (former any none) keyword)
    (full : ∀ {b a : Text}, Bound limit b → Enclosed (t ++ b) a →
      Spelling (former k limit) (keyword ++ a))
    (h : IsBound limit) :
    Spelling (former k limit) (collectionText keyword k.isAny t (limit.map Text.ofNat)) := by
  cases limit with
  | none =>
    rw [Option.map_none, collectionText]
    split
    · rename_i hany
      rwa [eq_any_of_isAny hany]
    · have := full .none (enclosed_text (t ++ []))
      simpa using this
  | some n =>
    have := full (bound_ofNat h) (enclosed_text (t ++ (", " ++ Text.ofNat n)))
    simpa [collectionText] using this

/-! ## 3. Spellings -/

theorem fold_primitive (p : Primitive) : p.text.fold = p.text := by
  cases p <;> (rw [Primitive.text, Text.of_eq]; rfl)

theorem fold_shape (s : Shape) : s.text.fold = s.text := by
  cases s <;> (rw [Shape.text, Text.of_eq]; rfl)

theorem fold_former (f : Former) : f.text.fold = f.text := by
  cases f <;> (rw [Former.text, Text.of_eq]; rfl)

mutual

/-- **What is written for a kind is a spelling of it.** -/
theorem spelling_text : (k : Kind) → k.Writable → Spelling k k.text
  | primitive p, _ => .primitive (fold_primitive p)
  | geometry first more, _ => by
    have hu : Following "|" (fun (s : Shape) t => t.fold = s.text) more _ :=
      following_bar Shape.text fun s _ => fold_shape s
    have hword : Text.of "geometry<" = Former.geometry.text ++ Text.of "<" := by cbv
    rw [text, Text.join_cons, hword]
    simpa using Spelling.geometry (fold_former _) (fold_shape first) hu (enclosed_text _)
  | record [], _ => .bareRecord (fold_former .record)
  | record (table :: more), h => by
    rw [Writable] at h
    have hu : Following "|" (fun (t : Table) => Names.Spells t.name) more _ :=
      following_bar Table.text fun t ht => Names.spells_escape (h t (by simp [ht]))
    have hword : Text.of "record<" = Former.record.text ++ Text.of "<" := by cbv
    have htable : Names.Spells table.name table.text := Names.spells_escape (h table (by simp))
    rw [text, Table.listText, List.map_cons, Text.join_cons, hword]
    simpa using Spelling.record (fold_former _) htable hu (enclosed_text _)
  | option inner, h => by
    rw [Writable] at h
    have hword : Text.of "option<" = Former.option.text ++ Text.of "<" := by cbv
    rw [text, hword]
    simpa using Spelling.option (fold_former _) (spelling_text inner h) (enclosed_text _)
  | array inner limit, h => by
    rw [Writable] at h
    exact spelling_collectionText (.bareArray (fold_former .array))
      (.array (fold_former .array) (spelling_text inner h.1)) h.2
  | set inner limit, h => by
    rw [Writable] at h
    exact spelling_collectionText (.bareSet (fold_former .set))
      (.set (fold_former .set) (spelling_text inner h.1)) h.2
  | either first second more, h => by
    rw [Writable] at h
    have hmore := spelling_texts more h.2.2
    have hu : Following "|" Spelling (second :: more) _ :=
      following_bar text (List.forall_mem_cons.mpr ⟨spelling_text second h.2.1, hmore⟩)
    have hword : Text.of "either<" = Former.either.text ++ Text.of "<" := by cbv
    rw [text, Text.join_cons, hword, texts_eq_map, ← List.map_cons]
    simpa using Spelling.either (fold_former _) (spelling_text first h.1) hu (enclosed_text _)

theorem spelling_texts : (ks : List Kind) → AllWritable ks → ∀ k ∈ ks, Spelling k k.text
  | [], _ => by simp
  | k :: more, h => by
    rw [AllWritable] at h
    exact List.forall_mem_cons.mpr ⟨spelling_text k h.1, spelling_texts more h.2⟩

end

/-! ## 4. What can be read can be written -/

theorem isBound_none : IsBound none := by
  rintro n ⟨⟩

/-- A run of digits spells a number below the power of ten with as many zeros. -/
theorem toNat_lt_pow {digits : Text} (h : digits.all isDigit = true) :
    digits.toNat < 10 ^ digits.length := by
  induction digits with
  | nil => exact Nat.one_pos
  | cons c digits ih =>
    rw [List.all_cons, Bool.and_eq_true] at h
    obtain ⟨hc, hdigits⟩ := h
    have hlt := ih hdigits
    have hdigit : c.toNat - '0'.toNat ≤ 9 := by
      have hval : c.toNat ≤ '9'.toNat := by
        simp only [isDigit, Char.isDigit, Bool.and_eq_true, decide_eq_true_eq] at hc
        exact hc.2
      have hnine : '9'.toNat = '0'.toNat + 9 := by decide
      omega
    have hpow : 10 ^ digits.length * (c.toNat - '0'.toNat) ≤ 10 ^ digits.length * 9 :=
      Nat.mul_le_mul_left _ hdigit
    rw [Text.toNat] at hlt ⊢
    rw [Nat.ofDigitChars_cons, Nat.ofDigitChars_eq_ofDigitChars_zero, Nat.mul_zero, Nat.zero_add,
      List.length_cons, Nat.pow_succ]
    omega

/-- A number that is read from few enough digits is written with few enough. -/
theorem isBound_toNat {digits : Text} (hne : digits ≠ []) (hlen : digits.length ≤ digitLimit)
    (hall : digits.all isDigit = true) : IsBound (some digits.toNat) := by
  rintro n ⟨⟩
  have hpos : 0 < digits.length := List.length_pos_iff.mpr hne
  have hshort := (Nat.length_toDigits_le_iff (by decide) hpos).mpr (toNat_lt_pow hall)
  exact Nat.le_trans hshort hlen

theorem isBound_of_bound {limit : Option Nat} {t : Text} (h : Bound limit t) : IsBound limit := by
  cases h with
  | none => exact isBound_none
  | some _ _ hne hlen hall => exact isBound_toNat hne hlen hall

mutual

/-- **What a text spells can be written.** -/
theorem writable_of_spelling : (k : Kind) → (t : Text) → Spelling k t → k.Writable
  | primitive _, _, _ => trivial
  | geometry _ _, _, _ => trivial
  | record _, _, .bareRecord _ => by simp [Writable]
  | record (table :: more), _, .record _ ht hu _ =>
    List.forall_mem_cons.mpr ⟨ht.not_mem_nul, hu.forall_mem fun _ _ h => h.not_mem_nul⟩
  | option inner, _, .option _ ht _ => writable_of_spelling inner _ ht
  | array _ _, _, .bareArray _ => ⟨trivial, isBound_none⟩
  | array inner _, _, .array _ ht hb _ => ⟨writable_of_spelling inner _ ht, isBound_of_bound hb⟩
  | set _ _, _, .bareSet _ => ⟨trivial, isBound_none⟩
  | set inner _, _, .set _ ht hb _ => ⟨writable_of_spelling inner _ ht, isBound_of_bound hb⟩
  | either first second more, _, .either _ ht (.cons _ _ hs hu) _ =>
    ⟨writable_of_spelling first _ ht, writable_of_spelling second _ hs,
      allWritable_of_following more _ hu⟩

theorem allWritable_of_following :
    (ks : List Kind) → (u : Text) → Following "|" Spelling ks u → AllWritable ks
  | [], _, _ => trivial
  | k :: more, _, .cons _ _ hk hu =>
    ⟨writable_of_spelling k _ hk, allWritable_of_following more _ hu⟩

end

/-! ## 5. What is written is read back -/

/-- **The canonical spelling is read as its kind**, in front of any text that is clear. -/
theorem parser_text (filename : Text) {k : Kind} {r : Text} (hk : k.Writable) (hr : Clear r) :
    parser (.ofSource (k.text ++ r) filename) =
      .ok (k, .ofOffset (k.text ++ r) filename k.text.length) := by
  have hparsed := parser_exact.complete (c := .ofSource (k.text ++ r) filename) rfl
    ⟨spelling_text k hk, .of_clear hr⟩
  rw [hparsed, Cursor.past_ofSource]

/-- The canonical spelling of the kind at the start of a text. -/
def canonical (filename source : Text) : Except Fault Text :=
  (parser (.ofSource source filename)).map fun result => result.1.text

/-- **What is written for a kind is read back**, with any clear text behind it; so is what is
written for a kind that was read anywhere, and writing what was read changes nothing the second
time. -/
theorem text_roundTrip (filename : Text) :
    (∀ k r, Writable k → Clear r →
      parser (.ofSource (k.text ++ r) filename) =
        .ok (k, .ofOffset (k.text ++ r) filename k.text.length)) ∧
    (∀ c k d, parser c = .ok (k, d) →
      parser (.ofSource k.text filename) = .ok (k, .ofOffset k.text filename k.text.length)) ∧
    (∀ source t, canonical filename source = .ok t → canonical filename t = .ok t) := by
  have hread : ∀ c k d, parser c = .ok (k, d) →
      parser (.ofSource k.text filename) = .ok (k, .ofOffset k.text filename k.text.length) := by
    intro c k d h
    obtain ⟨t, _, -, -, hspelling, -⟩ := parser_exact.sound h
    have hclear : Clear [] := by simp [Clear]
    simpa using parser_text filename (writable_of_spelling k t hspelling) hclear
  refine ⟨fun _ _ => parser_text filename, hread, ?_⟩
  intro source t h
  obtain ⟨⟨k, d⟩, hk, rfl⟩ := except_map_ok_iff.mp h
  rw [canonical, hread _ k d hk]
  rfl

end StoredFunctions.Kind
