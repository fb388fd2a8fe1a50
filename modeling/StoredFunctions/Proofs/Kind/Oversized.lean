/-
# Bounds with too many digits

A number may be written with `digitLimit` digits.  A bound with more of them is the one thing in a
kind, and in a document, that is not answered with a failure at a place.

`ToBound t` says that `t` is the start of a kind, up to where the digits of a bound stand: a
collection with its element and a comma, inside of any number of kinds around it.  In front of
more than `digitLimit` digits the reader of kinds stops with their number, and it does so nowhere
else (`parser_oversized_iff`).  Depth is no matter, as for the spellings of kinds.
-/
import StoredFunctions.Proofs.Kind.Reading
import StoredFunctions.Proofs.Punctuation.Passing

namespace StoredFunctions.Names

open StoredFunctions.Parser

/-! ## 1. Names and words fail, or they are read -/

theorem quoted_located : Located quoted := by
  intro c n h
  unfold quoted at h
  split at h
  · rename_i fault ht
    rw [h] at ht
    exact (tag_mild _).located c n ht
  · split at h
    · exact absurd h (by simp)
    all_goals exact absurd h (by simp [abort])

theorem bracketed_located : Located bracketed := by
  intro c n h
  unfold bracketed at h
  split at h
  · rename_i fault ht
    rw [h] at ht
    exact (tag_mild _).located c n ht
  · split at h
    split at h
    · exact absurd h (by simp [abort])
    · split at h
      · exact absurd h (by simp [abort])
      · exact absurd h (by simp)

theorem anyName_located : Located anyName := by
  refine .firstOf fun p hp => ?_
  simp only [List.mem_cons, List.not_mem_nil, or_false] at hp
  rcases hp with rfl | rfl | rfl
  · exact takeWhile1_located _ _
  · exact quoted_located
  · exact bracketed_located

end StoredFunctions.Names

namespace StoredFunctions.Kind

open StoredFunctions.Parser Filler Punctuation Relation

/-! ## 2. The grammar -/

/-- `Oversized n s`: the text `s` begins with a run of `n` digits, more than a number may have. -/
def Oversized (n : Nat) (s : Text) : Prop :=
  digitLimit < n ∧ (s.takeWhile isDigit).length = n

/-- `ToBound t`: the text `t` is the start of a kind, up to the digits of a bound. -/
inductive ToBound : Text → Prop
  | here {former : Former} {inner : Kind} {w f t g h : Text} :
      former = .array ∨ former = .set → w.fold = former.text → IsFiller f → Spelling inner t →
        IsFiller g → IsFiller h → ToBound (w ++ ("<" ++ (f ++ (t ++ (g ++ ("," ++ h))))))
  | within {former : Former} {w f t : Text} :
      former = .option ∨ former = .array ∨ former = .set → w.fold = former.text → IsFiller f →
        ToBound t → ToBound (w ++ ("<" ++ (f ++ t)))
  | member {w f u t : Text} :
      w.fold = Former.either.text → IsFiller f → Preceding "|" Spelling u → ToBound t →
        ToBound (w ++ ("<" ++ (f ++ (u ++ t))))

theorem ToBound.solid {t : Text} (h : ToBound t) : Solid t := by
  cases h with
  | here _ hw | within _ hw | member hw => exact (isWord_of_former hw).solid.append

theorem Oversized.solid {n : Nat} {s : Text} (h : Oversized n s) : Solid s := by
  obtain ⟨hn, hs⟩ := h
  cases s with
  | nil =>
    rw [List.takeWhile_nil, List.length_nil] at hs
    omega
  | cons x s =>
    refine ⟨x, s, rfl, isOpener_of_isWordChar (isWordChar_of_isDigit ?_)⟩
    refine Bool.of_not_eq_false fun hx => ?_
    simp only [List.takeWhile_cons, hx, Bool.false_eq_true, if_false, List.length_nil] at hs
    omega

/-! ## 3. Bounds and arguments -/

variable {inner : Parser Kind} {start c : Cursor} {former : Former} {n d : Nat} {w s t : Text}

theorem limit_oversized_iff :
    limit c = .error (.oversizedLimit n) ↔ Oversized n c.rest := by
  unfold limit Oversized
  rw [Cursor.takeWhile_eq_past]
  split
  · rename_i hd
    obtain ⟨hd, -⟩ := Prod.mk.inj hd
    simp only [hd, List.length_nil, fail, Except.error.injEq, reduceCtorEq, false_iff]
    omega
  · rename_i digits after _ hd
    obtain ⟨rfl, -⟩ := Prod.mk.inj hd
    split
    · rename_i hlt
      simp only [Except.error.injEq, Fault.oversizedLimit.injEq]
      omega
    · simp only [reduceCtorEq, false_iff]
      omega

theorem limit?_oversized_iff :
    limit? c = .error (.oversizedLimit n) ↔
      ∃ e, comma c = .ok ((), e) ∧ Oversized n e.rest := by
  unfold limit?
  split
  · rename_i fault hc
    simp [hc]
  · rename_i u e hc
    have hmap : (some <$> limit) e = .error (.oversizedLimit n) ↔ Oversized n e.rest := by
      rw [← bind_pure_comp, bind_error_iff, limit_oversized_iff, or_iff_left]
      rintro ⟨_, _, -, h⟩
      exact pure_ne_error h
    rw [hmap, hc]
    constructor
    · exact fun h => ⟨e, rfl, h⟩
    · rintro ⟨e', he, h⟩
      obtain ⟨-, rfl⟩ := Prod.mk.inj (Except.ok.inj he)
      exact h

section Brackets

variable {α : Type} {p : Parser α} {a : α}

theorem enclosed_oversized_iff :
    enclosed p c = .error (.oversizedLimit n) ↔
      ∃ e, openChevron c = .ok ((), e) ∧ p e = .error (.oversizedLimit n) := by
  constructor
  · intro h
    rcases bind_error_iff.mp h with h | ⟨_, e, he, h⟩
    · exact absurd h (opening_located _ _ _)
    rcases bind_error_iff.mp h with h | ⟨_, _, -, h⟩
    · exact ⟨e, he, h⟩
    · exact absurd h (((closing_located _).bind fun _ => (Mild.pure _).located) _ _)
  · rintro ⟨e, he, h⟩
    exact bind_error_iff.mpr (.inr ⟨(), e, he, bind_of_error h⟩)

theorem orBare_oversized_iff :
    orBare (enclosed p) a c = .error (.oversizedLimit n) ↔
      ∃ e, openChevron c = .ok ((), e) ∧ p e = .error (.oversizedLimit n) := by
  rw [← enclosed_oversized_iff, orBare]
  split
  · exact Iff.rfl
  · rename_i hpeek
    refine ⟨fun h => absurd h (by simp), fun h => ?_⟩
    obtain ⟨e, he, -⟩ := enclosed_oversized_iff.mp h
    obtain ⟨t, r, hr, -, g, rfl, -⟩ := (opening_exact openChevron_length).sound he
    refine absurd ?_ hpeek
    rw [peek_chevron_iff, hr, Text.of_eq]
    rfl

theorem enclosed_located (hp : Located p) : Located (enclosed p) := by
  intro c n h
  obtain ⟨e, -, he⟩ := enclosed_oversized_iff.mp h
  exact hp e n he

theorem orBare_located (hp : Located p) : Located (orBare p a) := by
  intro c n h
  unfold orBare at h
  split at h
  · exact hp c n h
  · exact absurd h (by simp)

end Brackets

theorem tables_located : Located (separated1 bar Table.parser) :=
  .separated1 (surrounded_located _) Names.anyName_located.map

theorem shape_located : Located shape := by
  intro c n h
  unfold shape at h
  split at h
  split at h
  · exact fail_located _ _ _ h
  · exact absurd h (by simp)

theorem shapes_located : Located (separated1 bar shape) :=
  .separated1 (surrounded_located _) shape_located

theorem union_located (members : List Kind) : Located (union start members) := by
  intro c n h
  match members with
  | [] => exact fail_located _ _ _ h
  | [_] => exact fail_located _ _ _ h
  | first :: second :: more => exact pure_ne_error h

/-- Where an oversized bound stands in the arguments of a keyword, behind their bracket: in a kind
within, or behind the element of a collection. -/
def OversizedWithin (inner : Parser Kind) (n : Nat) : Former → Cursor → Prop
  | .option, c => inner c = .error (.oversizedLimit n)
  | .array, c | .set, c =>
    inner c = .error (.oversizedLimit n) ∨
      ∃ k e f, inner c = .ok (k, e) ∧ comma e = .ok ((), f) ∧ Oversized n f.rest
  | .either, c => separated1 bar inner c = .error (.oversizedLimit n)
  | .record, _ | .geometry, _ => False

theorem collection_oversized_iff {make : Kind → Option Nat → Kind} :
    collection make inner c = .error (.oversizedLimit n) ↔
      ∃ e, openChevron c = .ok ((), e) ∧ OversizedWithin inner n .array e := by
  rw [collection_eq, orBare_oversized_iff]
  refine exists_congr fun e => and_congr Iff.rfl ?_
  rw [bind_error_iff]
  refine or_congr Iff.rfl (exists_congr fun k => ?_)
  constructor
  · rintro ⟨a, ha, h⟩
    rcases bind_error_iff.mp h with h | ⟨_, _, -, h⟩
    · obtain ⟨f, hf, hn⟩ := limit?_oversized_iff.mp h
      exact ⟨a, f, ha, hf, hn⟩
    · exact absurd h pure_ne_error
  · rintro ⟨a, f, ha, hf, hn⟩
    exact ⟨a, ha, bind_of_error (limit?_oversized_iff.mpr ⟨f, hf, hn⟩)⟩

/-- **Arguments with an oversized bound.** -/
theorem arguments_oversized_iff :
    arguments start inner former c = .error (.oversizedLimit n) ↔
      ∃ e, openChevron c = .ok ((), e) ∧ OversizedWithin inner n former e := by
  cases former with
  | option =>
    rw [arguments, optionArguments_eq, ← bind_pure_comp, bind_error_iff, or_iff_left,
      enclosed_oversized_iff]
    · rfl
    · rintro ⟨_, _, -, h⟩
      exact pure_ne_error h
  | array => exact collection_oversized_iff
  | set => exact collection_oversized_iff
  | record =>
    rw [arguments, recordArguments_eq]
    simp only [OversizedWithin, and_false, exists_false, iff_false]
    exact orBare_located (enclosed_located tables_located).map _ _
  | either =>
    rw [arguments, eitherArguments_eq, bind_error_iff, or_iff_left, enclosed_oversized_iff]
    · rfl
    · rintro ⟨_, _, -, h⟩
      exact union_located _ _ _ h
  | geometry =>
    rw [arguments, geometryArguments_eq]
    simp only [OversizedWithin, and_false, exists_false, iff_false]
    exact (enclosed_located shapes_located).map _ _

/-! ## 4. Kinds -/

/-- A keyword of a kind with arguments passes on to these. -/
theorem nested_former (hr : c.rest = w ++ s) (hw : w.fold = former.text)
    (hs : ∀ x ∈ s.head?, isWordChar x = false) :
    nested (d + 1) c = arguments c (nested d) former (c.past w) := by
  rw [nested_eq hr (isWord_of_former hw) hs, hw, Primitive.ofText?_former,
    Former.ofText?_eq_some_iff.mpr rfl]

theorem exists_former_of_oversized (h : nested (d + 1) c = .error (.oversizedLimit n)) :
    ∃ w s former, c.rest = w ++ s ∧ w.fold = Former.text former ∧
      arguments c (nested d) former (c.past w) = .error (.oversizedLimit n) := by
  obtain ⟨w, s, hr, -, rfl, hall, hs⟩ := (takeWhile_exact isWordChar).sound
    (show takeWhile isWordChar c = .ok (c.takeWhile isWordChar) from rfl)
  by_cases hne : c.rest.takeWhile isWordChar = []
  · simp only [nested, Cursor.takeWhile_eq_past, hne, List.isEmpty_nil, if_true] at h
    exact absurd h (fail_located _ _ _)
  · rw [nested_eq hr ⟨hne, hall⟩ hs] at h
    split at h
    · exact absurd h (by simp)
    · split at h
      · rename_i former hf
        exact ⟨_, s, former, hr, Former.ofText?_eq_some_iff.mp hf, h⟩
      · exact absurd h (fail_located _ _ _)

/-- What stands between the bracket behind a keyword and something solid is filler. -/
theorem openChevron_sound {e : Cursor} (hr : c.rest = w ++ s)
    (h : openChevron (c.past w) = .ok ((), e)) (he : Solid e.rest) :
    ∃ f, s = "<" ++ (f ++ e.rest) ∧ IsFiller f := by
  obtain ⟨_, _, hs, rfl, f, rfl, hf⟩ := (opening_exact openChevron_length).sound h
  rw [Cursor.rest_past hs] at he ⊢
  rw [Cursor.rest_past hr] at hs
  exact ⟨f, by rw [hs, List.append_assoc], he.gap_iff.mp hf⟩

theorem comma_sound {e : Cursor} (h : comma c = .ok ((), e)) (he : Solid e.rest) :
    ∃ f g, c.rest = f ++ ("," ++ (g ++ e.rest)) ∧ IsFiller f ∧ IsFiller g := by
  obtain ⟨_, _, hr, rfl, f, g, rfl, hf, hg⟩ := (surrounded_exact isMark_comma).sound h
  rw [Cursor.rest_past hr] at he ⊢
  exact ⟨f, g, by rw [hr]; simp, hf, he.gap_iff.mp hg⟩

/-- **An oversized bound is met at the end of a start of a kind**, whatever the depth. -/
theorem nested_oversized_sound (d : Nat) :
    ∀ {c : Cursor}, nested d c = .error (.oversizedLimit n) →
      ∃ t s, c.rest = t ++ s ∧ ToBound t ∧ Oversized n s := by
  induction d with
  | zero => exact fun h => absurd h (fail_located _ _ _)
  | succ d ih =>
    intro c h
    obtain ⟨w, s, former, hr, hw, h⟩ := exists_former_of_oversized h
    obtain ⟨e, hopen, h⟩ := arguments_oversized_iff.mp h
    have hkind : Sound (nested d) fun k t _ => Spelling k t :=
      (nested_sound d).mono fun _ _ _ h => h.1
    -- a bound of a kind within is one of the kind around it
    have hwithin : former = .option ∨ former = .array ∨ former = .set →
        nested d e = .error (.oversizedLimit n) →
          ∃ t s, c.rest = t ++ s ∧ ToBound t ∧ Oversized n s := by
      intro hformer h
      obtain ⟨t, s', hr', ht, hs'⟩ := ih h
      obtain ⟨f, rfl, hf⟩ := openChevron_sound hr hopen (by rw [hr']; exact ht.solid.append)
      exact ⟨_, s', by rw [hr, hr']; simp, .within hformer hw hf ht, hs'⟩
    have hcollection : former = .array ∨ former = .set →
        OversizedWithin (nested d) n .array e →
          ∃ t s, c.rest = t ++ s ∧ ToBound t ∧ Oversized n s := by
      rintro hformer (h | ⟨k, a, b, ha, hb, hs'⟩)
      · exact hwithin (.inr hformer) h
      · obtain ⟨t, r, hr', rfl, hk⟩ := hkind ha
        obtain ⟨g, g', hg, hg₁, hg₂⟩ := comma_sound hb hs'.solid
        rw [Cursor.rest_past hr'] at hg
        subst hg
        obtain ⟨f, rfl, hf⟩ := openChevron_sound hr hopen (by rw [hr']; exact hk.solid.append)
        exact ⟨_, b.rest, by rw [hr, hr']; simp, .here hformer hw hf hk hg₁ hg₂, hs'⟩
    cases former with
    | option => exact hwithin (.inl rfl) h
    | array => exact hcollection (.inl rfl) h
    | set => exact hcollection (.inr rfl) h
    | record => exact h.elim
    | geometry => exact h.elim
    | either =>
      obtain ⟨a, hpasses, ha⟩ := separated1_oversized (surrounded_located _) h
      obtain ⟨t, s', hr', ht, hs'⟩ := ih ha
      have hsolid : Solid a.rest := by
        rw [hr']
        exact ht.solid.append
      obtain ⟨u, hu, -, hprec⟩ :=
        preceding_of_passes isMark_bar (fun _ _ => Spelling.solid) hkind hpasses hsolid
      obtain ⟨f, rfl, hf⟩ := openChevron_sound hr hopen (by
        rw [hu]
        exact hprec.solid (fun _ _ => Spelling.solid) hsolid)
      exact ⟨_, s', by rw [hr, hu, hr']; simp, .member hw hf hprec ht, hs'⟩

theorem openChevron_complete {f : Text} (hr : c.rest = "<" ++ (f ++ s)) (hf : IsFiller f)
    (hs : Solid s) : openChevron c = .ok ((), c.past ("<" ++ f)) :=
  (opening_exact openChevron_length).complete (by rw [hr, List.append_assoc])
    ⟨f, rfl, hs.gap_iff.mpr hf⟩

theorem not_isWordChar_chevron {u : Text} :
    ∀ x ∈ (Text.of "<" ++ u).head?, isWordChar x = false := by
  rw [Text.of_eq]
  rintro x ⟨⟩
  decide

/-- A keyword and its bracket leave a depth that suffices for what is inside. -/
theorem exists_depth (hw : w.fold = former.text) (hlen : (w ++ ("<" ++ s)).length ≤ d) :
    ∃ d', d = d' + 1 ∧ s.length ≤ d' := by
  have hpos := List.length_pos_iff.mpr (isWord_of_former hw).1
  have := openChevron_length
  simp only [List.length_append] at hlen
  exact ⟨d - 1, by omega, by omega⟩

theorem rest_inside {f : Text} (hr : c.rest = w ++ ("<" ++ (f ++ s))) :
    ((c.past w).past ("<" ++ f)).rest = s :=
  Cursor.rest_past (by rw [Cursor.rest_past hr, List.append_assoc])

/-- **A kind has the oversized bound of its arguments.** -/
theorem nested_of_oversizedWithin {f : Text} (hr : c.rest = w ++ ("<" ++ (f ++ s)))
    (hw : w.fold = former.text) (hf : IsFiller f) (hs : Solid s)
    (h : OversizedWithin (nested d) n former ((c.past w).past ("<" ++ f))) :
    nested (d + 1) c = .error (.oversizedLimit n) := by
  rw [nested_former hr hw not_isWordChar_chevron, arguments_oversized_iff]
  exact ⟨_, openChevron_complete (Cursor.rest_past hr) hf hs, h⟩

/-- Behind the element of a collection and a comma. -/
theorem oversizedWithin_behind {element : Kind} {g h : Text}
    (hr : c.rest = t ++ (g ++ ("," ++ (h ++ s)))) (hk : Spelling element t) (hlen : t.length ≤ d)
    (hg : IsFiller g) (hh : IsFiller h) (hs : Oversized n s) :
    OversizedWithin (nested d) n .array c := by
  have hclear : Clear (g ++ ("," ++ (h ++ s))) := isMark_comma.clear.filler hg
  have helement := nested_complete d hr ⟨⟨hk, hlen⟩, .of_clear hclear⟩
  have hr' : (c.past t).rest = (g ++ ("," ++ h)) ++ s := by
    rw [Cursor.rest_past hr]
    simp only [List.append_assoc]
  have hcomma : comma (c.past t) = .ok ((), (c.past t).past (g ++ ("," ++ h))) :=
    (surrounded_exact isMark_comma).complete hr' ⟨g, h, rfl, hg, hs.solid.gap_iff.mpr hh⟩
  exact .inr ⟨element, _, _, helement, hcomma, by rwa [Cursor.rest_past hr']⟩

/-- In a member of a union, behind other members. -/
theorem oversizedWithin_member {u : Text} (hr : c.rest = u ++ s) (hu : Preceding "|" Spelling u)
    (hlen : u.length ≤ d) (hs : Solid s)
    (h : nested d (c.past u) = .error (.oversizedLimit n)) :
    OversizedWithin (nested d) n .either c := by
  have hshort : Preceding "|" (fun k v => Spelling k v ∧ v.length ≤ d) u :=
    hu.mono fun _ v hv h => ⟨h, Nat.le_trans hv hlen⟩
  have hkind : Complete (nested d) fun k v r => (Spelling k v ∧ v.length ≤ d) ∧ Clear r :=
    fun _ _ _ _ hr h => nested_complete d hr ⟨h.1, .of_clear h.2⟩
  have hadvance : Advancing (do bar; nested d) :=
    (behind_sound isMark_bar (nested_sound d)).advancing fun k v r h => by
      obtain ⟨g₁, g₂, x, rfl, -⟩ := h
      simp [isMark_bar.ne_nil]
  have hpasses := passes_of_preceding isMark_bar (fun _ _ h => h.1.solid) hkind hshort hr hs
  exact separated1_of_final hadvance hpasses h trivial

/-- **In front of too many digits the reader stops**, if the depth suffices for what is in front
of these. -/
theorem nested_oversized (h : ToBound t) :
    ∀ {c : Cursor} {s : Text} {d : Nat}, c.rest = t ++ s → t.length ≤ d → Oversized n s →
      nested d c = .error (.oversizedLimit n) := by
  induction h with
  | @here former inner w f t g h hformer hw hf hk hg hh =>
    intro c s d hr hlen hs
    obtain ⟨d, rfl, hinside⟩ := exists_depth hw hlen
    have hshort : t.length ≤ d := by
      simp only [List.length_append] at hinside
      omega
    simp only [List.append_assoc] at hr
    have hwithin := oversizedWithin_behind (rest_inside hr) hk hshort hg hh hs
    refine nested_of_oversizedWithin hr hw hf hk.solid.append ?_
    rcases hformer with rfl | rfl
    · exact hwithin
    · exact hwithin
  | @within former w f t hformer hw hf ht ih =>
    intro c s d hr hlen hs
    obtain ⟨d, rfl, hinside⟩ := exists_depth hw hlen
    have hshort : t.length ≤ d := by
      simp only [List.length_append] at hinside
      omega
    simp only [List.append_assoc] at hr
    have hinner := ih (rest_inside hr) hshort hs
    refine nested_of_oversizedWithin hr hw hf ht.solid.append ?_
    rcases hformer with rfl | rfl | rfl
    · exact hinner
    · exact .inl hinner
    · exact .inl hinner
  | @member w f u t hw hf hu ht ih =>
    intro c s d hr hlen hs
    obtain ⟨d, rfl, hinside⟩ := exists_depth hw hlen
    have hshort : u.length ≤ d ∧ t.length ≤ d := by
      simp only [List.length_append] at hinside
      omega
    simp only [List.append_assoc] at hr
    have hrest := rest_inside hr
    have hsolid : Solid (t ++ s) := ht.solid.append
    have hmember := ih (Cursor.rest_past hrest) hshort.2 hs
    exact nested_of_oversizedWithin hr hw hf (hu.solid (fun _ _ => Spelling.solid) hsolid)
      (oversizedWithin_member hrest hu hshort.1 hsolid hmember)

/-- **Where the reader of kinds stops without a place.** -/
theorem parser_oversized_iff :
    parser c = .error (.oversizedLimit n) ↔
      ∃ t s, c.rest = t ++ s ∧ ToBound t ∧ Oversized n s := by
  constructor
  · exact nested_oversized_sound _
  · rintro ⟨t, s, hr, ht, hs⟩
    refine nested_oversized ht hr ?_ hs
    rw [c.left_eq, hr, List.length_append]
    omega

end StoredFunctions.Kind
