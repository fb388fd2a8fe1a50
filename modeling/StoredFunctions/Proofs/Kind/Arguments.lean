/-
# Reading the arguments of a kind

Each keyword dispatches on its arguments, so the grammar is taken apart in the same way:
`Arguments S f k a` says that `a` spells the arguments that make the kind `k` of the keyword `f`,
where `S` spells the kinds within.  The parsers of arguments are sound and complete for it
whatever reads the kinds within (`arguments_sound`, `arguments_complete`).

All of them read something between chevrons (`enclosed`), and all but two read a list with bars
there (`Listed`).  What is inside is followed by filler and a closing chevron, which is enough to
know where a list, a bound or a word ends (`Closes`).
-/
import StoredFunctions.Proofs.Kind.Spelling
import StoredFunctions.Proofs.Names.Canonical

namespace StoredFunctions.Kind

open StoredFunctions.Parser Filler Punctuation

/-! ## 1. Brackets -/

section Brackets

variable {α : Type} {p element : Parser α} {P Q : α → Text → Prop} {g : Grammar α} {c : Cursor}
  {t u r s : Text} {a : α} {as : List α}

theorem openChevron_length : (Text.of "<").length = 1 := by rw [Text.of_eq]; rfl

/-- What is read between chevrons. -/
def enclosed (p : Parser α) : Parser α := do
  openChevron
  let a ← p
  closeChevron
  pure a

/-- A text that goes on with filler and a closing chevron. -/
def Closes (r : Text) : Prop := ∃ g s, r = g ++ (">" ++ s) ∧ IsFiller g

theorem Closes.clear (h : Closes r) : Clear r := by
  obtain ⟨g, s, rfl, hg⟩ := h
  exact isMark_closeChevron.clear.filler hg

/-- No list goes on in front of a closing chevron. -/
theorem Closes.refuses {w : Text} (h : Closes c.rest) (hw : IsMark w) (hne : w ≠ ">") :
    Refuses (surrounded w) c := by
  obtain ⟨g, s, hr, hg⟩ := h
  refine surrounded_refuses hw hr hg isMark_closeChevron.solid fun hp => hne ?_
  obtain ⟨x, rfl, -⟩ := id hw
  obtain ⟨y, hy, -⟩ := id isMark_closeChevron
  rw [hy] at hp ⊢
  simpa using hp

theorem enclosed_sound (hP : ∀ a t, P a t → Solid t) (hp : Sound p fun a t _ => P a t) :
    Sound (enclosed p) (fun a t _ => ∃ u, P a u ∧ Enclosed u t) := by
  refine ((opening_exact openChevron_length).sound.bind fun _ => hp.bind fun a =>
    (closing_exact isMark_closeChevron).sound.bind fun _ => (Exact.pure a).sound).mono ?_
  rintro v t r ⟨_, _, _, rfl, ⟨f, rfl, hf⟩, a, u, _, rfl, ha, _, _, _, rfl, ⟨g, rfl, hg⟩, rfl, rfl⟩
  rw [List.append_assoc, (hP _ _ ha).append.gap_iff] at hf
  exact ⟨u, ha, f, g, by simp, hf, hg⟩

theorem enclosed_complete (hP : ∀ a t, P a t → Solid t)
    (hp : Complete p fun a t r => P a t ∧ Closes r) :
    Complete (enclosed p) (fun a t _ => ∃ u, P a u ∧ Enclosed u t) := by
  rintro c a t r hr ⟨u, ha, f, g, rfl, hf, hg⟩
  refine ((opening_exact openChevron_length).complete.bind fun _ => hp.bind fun a =>
    (closing_exact isMark_closeChevron).complete.bind fun _ => (Exact.pure a).complete) hr ?_
  have hf' := ((hP _ _ ha).append (t := g ++ (Text.of ">" ++ r))).gap_iff.mpr hf
  exact ⟨(), "<" ++ f, u ++ (g ++ ">"), by simp, ⟨f, rfl, by simpa using hf'⟩,
    a, u, g ++ ">", rfl, ⟨ha, g, r, by simp, hg⟩,
    (), g ++ ">", [], by simp, ⟨g, rfl, hg⟩, rfl, rfl⟩

/-- Elements with bars between them, one or more. -/
def Listed (P : α → Text → Prop) (as : List α) (t : Text) : Prop :=
  ∃ a more t₁ u, as = a :: more ∧ t = t₁ ++ u ∧ P a t₁ ∧ Following "|" P more u

theorem Listed.solid (hP : ∀ a t, P a t → Solid t) (h : Listed P as t) : Solid t := by
  obtain ⟨a, more, t₁, u, rfl, rfl, ha, -⟩ := h
  exact (hP _ _ ha).append

theorem listed_sound (hP : ∀ a t, P a t → Solid t) (he : Sound element fun a t _ => P a t) :
    Sound (separated1 bar element) (fun as t _ => Listed P as t) :=
  separated1_sound isMark_bar hP he

theorem listed_complete (hP : ∀ a t, P a t → Solid t)
    (he : Complete element fun a t r => P a t ∧ Clear r) :
    Complete (separated1 bar element) (fun as t r => Listed P as t ∧ Closes r) := by
  rintro c as t r hr ⟨⟨a, more, t₁, u, rfl, rfl, ha, hu⟩, hcl⟩
  rw [List.append_assoc] at hr
  refine separated1_complete isMark_bar hP he ha hu hcl.clear hr ?_
  have hrest : (c.past (t₁ ++ u)).rest = r := Cursor.rest_past (by rw [hr, List.append_assoc])
  refine Closes.refuses (by rwa [hrest]) isMark_bar ?_
  rw [Text.of_eq, Text.of_eq]
  decide

/-- Arguments that may be missing, with the value that stands for none. -/
def orBare (p : Parser α) (bare : α) : Parser α := fun c =>
  if c.peek 1 = "<" then p c else .ok (bare, c)

theorem peek_chevron_iff : c.peek 1 = "<" ↔ '<' ∈ c.rest.head? := by
  rw [Text.of_eq]
  exact Cursor.peek_one_iff

theorem orBare_sound (hp : Sound p g) :
    Sound (orBare p a) (fun v t r => g v t r ∨ v = a ∧ t = [] ∧ '<' ∉ r.head?) := by
  intro c v c' h
  unfold orBare at h
  split at h
  · obtain ⟨t, r, hr, he, hg⟩ := hp h
    exact ⟨t, r, hr, he, .inl hg⟩
  · rename_i hpeek
    obtain ⟨rfl, rfl⟩ := Prod.mk.inj (Except.ok.inj h)
    exact ⟨[], c.rest, rfl, Cursor.past_nil.symm,
      .inr ⟨rfl, rfl, fun hc => hpeek (peek_chevron_iff.mpr hc)⟩⟩

theorem orBare_complete (hp : Complete p g) (hg : ∀ v t r, g v t r → '<' ∈ t.head?) :
    Complete (orBare p a) (fun v t r => g v t r ∨ v = a ∧ t = [] ∧ '<' ∉ r.head?) := by
  rintro c v t r hr (h | ⟨rfl, rfl, hc⟩)
  · have hpeek : c.peek 1 = "<" := by
      rw [peek_chevron_iff, hr, List.head?_append, hg v t r h]
      rfl
    rw [orBare, if_pos hpeek, hp hr h]
  · have hpeek : ¬ c.peek 1 = "<" := by
      rwa [peek_chevron_iff, hr]
    rw [orBare, if_neg hpeek, Cursor.past_nil]

theorem Enclosed.head (h : Enclosed u t) : '<' ∈ t.head? := by
  obtain ⟨f, g, rfl, -, -⟩ := h
  rw [Text.of_eq]
  rfl

end Brackets

/-! ## 2. Bounds and shapes -/

section

variable {c : Cursor} {t r : Text}

theorem isWordChar_of_isDigit {x : Char} (h : isDigit x = true) : isWordChar x = true := by
  have ha : x.isAlphanum = true := by
    rw [Char.isAlphanum, show x.isDigit = true from h, Bool.or_true]
  rw [isWordChar, ha, Bool.true_or]

theorem not_isDigit_of_clear (h : Clear r) : ∀ x ∈ r.head?, isDigit x = false := by
  intro x hx
  refine Bool.eq_false_iff.mpr fun hd => ?_
  exact absurd (h x hx).1 (by simp [isWordChar_of_isDigit hd])

/-- Digits are a word, so no filler begins there. -/
theorem solid_of_digits (hne : t ≠ []) (h : t.all isDigit = true) : Solid t := by
  refine Names.IsWord.solid ⟨hne, ?_⟩
  rw [List.all_eq_true] at h ⊢
  exact fun x hx => isWordChar_of_isDigit (h x hx)

theorem limit_exact :
    Exact limit (fun n t r => n = t.toNat ∧ t ≠ [] ∧ t.length ≤ digitLimit ∧ t.all isDigit = true ∧
      ∀ x ∈ r.head?, isDigit x = false) where
  sound := by
    intro c n c' h
    unfold limit at h
    split at h
    · exact absurd h (by simp [fail])
    · rename_i digits after hne hd
      split at h
      · exact absurd h (by simp)
      · rename_i hlen
        obtain ⟨rfl, rfl⟩ := Prod.mk.inj (Except.ok.inj h)
        obtain ⟨t, r, hr, rfl, rfl, hall, hhead⟩ :=
          (takeWhile_exact isDigit).sound (congrArg Except.ok hd)
        refine ⟨digits, r, hr, rfl, rfl, ?_, Nat.le_of_not_lt hlen, hall, hhead⟩
        rintro rfl
        exact hne rfl
  complete := by
    rintro c n t r hr ⟨rfl, hne, hlen, hall, hhead⟩
    have hd := Except.ok.inj ((takeWhile_exact isDigit).complete hr ⟨rfl, hall, hhead⟩)
    obtain ⟨x, t, rfl⟩ := List.exists_cons_of_ne_nil hne
    rw [limit, hd]
    simp only [if_neg (Nat.not_lt.mpr hlen)]

theorem limit?_sound : Sound limit? (fun n t _ => Bound n t) := by
  intro c n c' h
  unfold limit? at h
  split at h
  · obtain ⟨rfl, rfl⟩ := Prod.mk.inj (Except.ok.inj h)
    exact ⟨[], c.rest, rfl, Cursor.past_nil.symm, .none⟩
  · rename_i v after hcomma
    obtain ⟨m, hm, rfl⟩ := map_ok_iff.mp h
    obtain ⟨_, s, hr, rfl, f, g, rfl, hf, hg⟩ := (surrounded_exact isMark_comma).sound hcomma
    obtain ⟨digits, r, hr', rfl, rfl, hne, hlen, hall, -⟩ := limit_exact.sound hm
    rw [Cursor.rest_past hr] at hr'
    subst hr'
    rw [(solid_of_digits hne hall).append.gap_iff] at hg
    exact ⟨f ++ ("," ++ (g ++ digits)), r, by rw [hr]; simp, by simp,
      .some hf hg hne hlen hall⟩

theorem limit?_complete : Complete limit? (fun n t r => Bound n t ∧ Closes r) := by
  rintro c n t r hr ⟨h, hcl⟩
  cases h with
  | none =>
    have hne : Text.of "," ≠ ">" := by
      rw [Text.of_eq, Text.of_eq]
      decide
    obtain ⟨e, he, -⟩ := Closes.refuses (c := c) (by rwa [hr]) isMark_comma hne
    rw [limit?, comma, he, Cursor.past_nil]
  | @some f g digits hf hg hne hlen hall =>
    have hgap := ((solid_of_digits hne hall).append (t := r)).gap_iff.mpr hg
    have hr₁ : c.rest = (f ++ ("," ++ g)) ++ (digits ++ r) := by simp [hr]
    have hcomma : comma c = .ok ((), c.past (f ++ ("," ++ g))) :=
      (surrounded_exact isMark_comma).complete hr₁ ⟨f, g, rfl, hf, hgap⟩
    have hlimit := limit_exact.complete (Cursor.rest_past hr₁)
      ⟨rfl, hne, hlen, hall, not_isDigit_of_clear hcl.clear⟩
    rw [limit?, hcomma]
    simp only
    rw [map_ok_iff]
    exact ⟨_, by rw [hlimit]; simp, rfl⟩

theorem shape_exact :
    Exact shape (fun v t r => t.fold = v.text ∧ ∀ x ∈ r.head?, isWordChar x = false) where
  sound := by
    intro c v c' h
    unfold shape at h
    split at h
    rename_i word after hword
    obtain ⟨t, r, hr, rfl, rfl, hall, hhead⟩ :=
      (takeWhile_exact isWordChar).sound (congrArg Except.ok hword)
    split at h
    · exact absurd h (by simp [fail])
    · rename_i s hs
      obtain ⟨rfl, rfl⟩ := Prod.mk.inj (Except.ok.inj h)
      exact ⟨word, r, hr, rfl, Shape.ofText?_eq_some_iff.mp hs, hhead⟩
  complete := by
    rintro c v t r hr ⟨hv, hhead⟩
    have hword := Except.ok.inj ((takeWhile_exact isWordChar).complete hr
      ⟨rfl, (isWord_of_shape hv).2, hhead⟩)
    rw [shape, hword]
    simp only [Shape.ofText?_eq_some_iff.mpr hv]

end

/-! ## 3. Arguments -/

/-- The arguments of a sequence or a set, where `S` spells its elements. -/
def CollectionArguments (S : Kind → Text → Prop) (former : Kind → Option Nat → Kind) (k : Kind)
    (a : Text) : Prop :=
  (∃ inner limit t b, k = former inner limit ∧ S inner t ∧ Bound limit b ∧ Enclosed (t ++ b) a) ∨
    k = former any none ∧ a = []

/-- The arguments that make the kind `k` of a keyword, where `S` spells the kinds within. -/
def Arguments (S : Kind → Text → Prop) : Former → Kind → Text → Prop
  | .option, k, a => ∃ inner t, k = option inner ∧ S inner t ∧ Enclosed t a
  | .array, k, a => CollectionArguments S array k a
  | .set, k, a => CollectionArguments S set k a
  | .record, k, a =>
    (∃ tables t, k = record tables ∧
      Listed (fun (table : Table) => Names.Spells table.name) tables t ∧ Enclosed t a) ∨
        k = record [] ∧ a = []
  | .either, k, a =>
    ∃ first second more t, k = either first second more ∧ Listed S (first :: second :: more) t ∧
      Enclosed t a
  | .geometry, k, a =>
    ∃ first more t, k = geometry first more ∧
      Listed (fun (shape : Shape) t => t.fold = shape.text) (first :: more) t ∧ Enclosed t a

section

variable {S T : Kind → Text → Prop} {inner : Parser Kind} {former : Kind → Option Nat → Kind}
  {start : Cursor} {f : Former} {k : Kind} {a : Text}

/-- Only kinds no longer than the arguments matter within these. -/
theorem Arguments.mono (h : Arguments S f k a)
    (hST : ∀ k t, t.length < a.length → S k t → T k t) : Arguments T f k a := by
  have hlt : ∀ {t a : Text}, Enclosed t a → t.length < a.length := by
    rintro t a ⟨g₁, g₂, rfl, -, -⟩
    have := openChevron_length
    simp only [List.length_append]
    omega
  have hcollection : ∀ {former}, CollectionArguments S former k a →
      CollectionArguments T former k a := by
    rintro former (⟨inner, limit, t, b, rfl, ht, hb, ha⟩ | h)
    · have := hlt ha
      rw [List.length_append] at this
      exact .inl ⟨inner, limit, t, b, rfl, hST _ _ (by omega) ht, hb, ha⟩
    · exact .inr h
  cases f with
  | option =>
    obtain ⟨inner, t, rfl, ht, ha⟩ := h
    exact ⟨inner, t, rfl, hST _ _ (hlt ha) ht, ha⟩
  | array => exact hcollection h
  | set => exact hcollection h
  | record => exact h
  | either =>
    obtain ⟨first, second, more, _, rfl, ⟨_, _, t, u, heq, rfl, ht, hu⟩, ha⟩ := h
    obtain ⟨rfl, rfl⟩ := List.cons.inj heq
    have := hlt ha
    rw [List.length_append] at this
    exact ⟨first, second, more, _, rfl,
      ⟨_, _, t, u, rfl, rfl, hST _ _ (by omega) ht,
        hu.mono fun b _ v hv hb => hST _ _ (by omega) hb⟩, ha⟩
  | geometry => exact h

theorem optionArguments_eq : optionArguments inner = option <$> enclosed inner := by
  simp only [optionArguments, enclosed, ← bind_pure_comp, bind_assoc, pure_bind]

theorem collection_eq :
    collection former inner =
      orBare (enclosed do
        let element ← inner
        let bound ← limit?
        pure (former element bound)) (former any none) := by
  funext c
  simp only [collection, orBare, enclosed, bind_assoc, pure_bind]

theorem recordArguments_eq :
    recordArguments = orBare (record <$> enclosed (separated1 bar Table.parser)) (record []) := by
  funext c
  simp only [recordArguments, orBare, enclosed, Table.barList, ← bind_pure_comp, bind_assoc,
    pure_bind]

/-- A union of the members of a list, which have to be two at least. -/
def union (start : Cursor) : List Kind → Parser Kind
  | first :: second :: more => pure (either first second more)
  | _ => fun _ => fail .lonelyUnion start

theorem eitherArguments_eq :
    eitherArguments start inner = enclosed (separated1 bar inner) >>= union start := by
  simp only [eitherArguments, enclosed, bind_assoc, pure_bind]
  rfl

/-- A geometry of the shapes of a list, which is not empty. -/
def geometryOf : List Shape → Kind
  | first :: more => geometry first more
  | [] => any

theorem geometryArguments_eq :
    geometryArguments = geometryOf <$> enclosed (separated1 bar shape) := by
  simp only [geometryArguments, enclosed, separated1, ← bind_pure_comp, bind_assoc, pure_bind]
  rfl

theorem union_sound (members : List Kind) :
    Sound (union start members) (fun k t _ => t = [] ∧
      ∃ first second more, members = first :: second :: more ∧ k = either first second more) := by
  intro c k c' h
  match members with
  | [] => exact absurd h (by simp [union, fail])
  | [_] => exact absurd h (by simp [union, fail])
  | first :: second :: more =>
    obtain ⟨rfl, rfl⟩ := pure_ok_iff.mp h
    exact ⟨[], c'.rest, rfl, Cursor.past_nil.symm, rfl, first, second, more, rfl, rfl⟩

theorem Enclosed.ne_nil {t : Text} (h : Enclosed t a) : a ≠ [] := by
  rintro rfl
  exact absurd h.head (by simp)

/-- An element of a collection and its bound. -/
def Element (S : Kind → Text → Prop) (former : Kind → Option Nat → Kind) (k : Kind)
    (t : Text) : Prop :=
  ∃ inner limit u b, k = former inner limit ∧ t = u ++ b ∧ S inner u ∧ Bound limit b

theorem Element.solid (hS : ∀ k t, S k t → Solid t) (k : Kind) (t : Text)
    (h : Element S former k t) : Solid t := by
  obtain ⟨inner, limit, u, b, rfl, rfl, hu, -⟩ := h
  exact (hS _ _ hu).append

theorem collection_sound (hS : ∀ k t, S k t → Solid t) (hi : Sound inner fun k t _ => S k t) :
    Sound (collection former inner)
      (fun k a r => CollectionArguments S former k a ∧ (a = [] → '<' ∉ r.head?)) := by
  have helement : Sound (do
      let element ← inner
      let bound ← limit?
      pure (former element bound)) (fun k t _ => Element S former k t) := by
    refine (hi.bind fun element => limit?_sound.bind fun bound =>
      (Exact.pure (former element bound)).sound).mono ?_
    rintro k t r ⟨inner, u, _, rfl, hu, limit, b, _, rfl, hb, rfl, rfl⟩
    exact ⟨inner, limit, u, b, rfl, by simp, hu, hb⟩
  rw [collection_eq]
  refine (orBare_sound (enclosed_sound (Element.solid hS) helement)).mono ?_
  rintro k a r (⟨_, ⟨inner, limit, u, b, rfl, rfl, hu, hb⟩, ha⟩ | ⟨rfl, rfl, hr⟩)
  · exact ⟨.inl ⟨inner, limit, u, b, rfl, hu, hb, ha⟩, fun h => absurd h ha.ne_nil⟩
  · exact ⟨.inr ⟨rfl, rfl⟩, fun _ => hr⟩

theorem collection_complete (hS : ∀ k t, S k t → Solid t)
    (hi : Complete inner fun k t r => S k t ∧ Clear r) :
    Complete (collection former inner)
      (fun k a r => CollectionArguments S former k a ∧ (a = [] → '<' ∉ r.head?)) := by
  have helement : Complete (do
      let element ← inner
      let bound ← limit?
      pure (former element bound)) (fun k t r => Element S former k t ∧ Closes r) := by
    rintro c k t r hr ⟨⟨inner, limit, u, b, rfl, rfl, hu, hb⟩, hcl⟩
    refine (hi.bind fun element => limit?_complete.bind fun bound =>
      (Exact.pure (former element bound)).complete) hr ?_
    -- behind the element there is its bound, which begins with filler or a comma
    have hclear : Clear (b ++ r) := by
      cases hb with
      | none => exact hcl.clear
      | some hf _ _ _ _ =>
        simp only [List.append_assoc]
        exact isMark_comma.clear.filler hf
    exact ⟨inner, u, b, rfl, ⟨hu, hclear⟩, limit, b, [], by simp, ⟨hb, hcl⟩, rfl, rfl⟩
  rw [collection_eq]
  rintro c k a r hr ⟨h, hbare⟩
  refine orBare_complete (enclosed_complete (Element.solid hS) helement) ?_ hr ?_
  · rintro k a r ⟨u, -, ha⟩
    exact ha.head
  · rcases h with ⟨inner, limit, u, b, rfl, hu, hb, ha⟩ | ⟨rfl, rfl⟩
    · exact .inl ⟨u ++ b, ⟨inner, limit, u, b, rfl, rfl, hu, hb⟩, ha⟩
    · exact .inr ⟨rfl, rfl, hbare rfl⟩

theorem shape_solid (shape : Shape) (t : Text) (h : t.fold = shape.text) : Solid t :=
  (isWord_of_shape h).solid

theorem shape_complete :
    Complete shape (fun v t r => t.fold = v.text ∧ Clear r) := fun _ _ _ _ hr h =>
  shape_exact.complete hr ⟨h.1, fun x hx => (h.2 x hx).1⟩

theorem shape_sound : Sound shape (fun v t _ => t.fold = v.text) :=
  shape_exact.sound.mono fun _ _ _ h => h.1

/-- **The arguments of every keyword are sound**, if the kinds within are. -/
theorem arguments_sound (hS : ∀ k t, S k t → Solid t) (hi : Sound inner fun k t _ => S k t) :
    Sound (arguments start inner f)
      (fun k a r => Arguments S f k a ∧ (a = [] → '<' ∉ r.head?)) := by
  cases f with
  | option =>
    rw [arguments, optionArguments_eq]
    refine (enclosed_sound hS hi).map.mono ?_
    rintro k a r ⟨inner, rfl, t, ht, ha⟩
    exact ⟨⟨inner, t, rfl, ht, ha⟩, fun h => absurd h ha.ne_nil⟩
  | array => exact collection_sound hS hi
  | set => exact collection_sound hS hi
  | record =>
    rw [arguments, recordArguments_eq]
    refine (orBare_sound (enclosed_sound (fun _ _ => Listed.solid Table.spells_solid)
      (listed_sound Table.spells_solid Table.parser_sound)).map).mono ?_
    rintro k a r (⟨tables, rfl, t, ht, ha⟩ | ⟨rfl, rfl, hr⟩)
    · exact ⟨.inl ⟨tables, t, rfl, ht, ha⟩, fun h => absurd h ha.ne_nil⟩
    · exact ⟨.inr ⟨rfl, rfl⟩, fun _ => hr⟩
  | either =>
    rw [arguments, eitherArguments_eq]
    refine ((enclosed_sound (fun _ _ => Listed.solid hS) (listed_sound hS hi)).bind
      union_sound).mono ?_
    rintro k a r ⟨members, a, _, rfl, ⟨t, ht, ha⟩, rfl, first, second, more, rfl, rfl⟩
    rw [List.append_nil]
    exact ⟨⟨first, second, more, t, rfl, ht, ha⟩, fun h => absurd h ha.ne_nil⟩
  | geometry =>
    rw [arguments, geometryArguments_eq]
    refine (enclosed_sound (fun _ _ => Listed.solid shape_solid)
      (listed_sound shape_solid shape_sound)).map.mono ?_
    rintro k a r ⟨_, rfl, t, ht, ha⟩
    obtain ⟨first, more, _, _, rfl, -⟩ := id ht
    exact ⟨⟨first, more, t, rfl, ht, ha⟩, fun h => absurd h ha.ne_nil⟩

/-- **The arguments of every keyword are read**, if the kinds within are. -/
theorem arguments_complete (hS : ∀ k t, S k t → Solid t)
    (hi : Complete inner fun k t r => S k t ∧ Clear r) :
    Complete (arguments start inner f)
      (fun k a r => Arguments S f k a ∧ (a = [] → '<' ∉ r.head?)) := by
  rintro c k a r hr ⟨h, hbare⟩
  cases f with
  | option =>
    obtain ⟨inner, t, rfl, ht, ha⟩ := h
    rw [arguments, optionArguments_eq]
    refine (enclosed_complete hS ?_).map hr ⟨inner, rfl, t, ht, ha⟩
    exact fun _ _ _ _ hr h => hi hr ⟨h.1, h.2.clear⟩
  | array => exact collection_complete hS hi hr ⟨h, hbare⟩
  | set => exact collection_complete hS hi hr ⟨h, hbare⟩
  | record =>
    rw [arguments, recordArguments_eq]
    refine orBare_complete (enclosed_complete (fun _ _ => Listed.solid Table.spells_solid)
      (listed_complete Table.spells_solid Table.parser_complete)).map ?_ hr ?_
    · rintro k a r ⟨tables, rfl, t, -, ha⟩
      exact ha.head
    · rcases h with ⟨tables, t, rfl, ht, ha⟩ | ⟨rfl, rfl⟩
      · exact .inl ⟨tables, rfl, t, ht, ha⟩
      · exact .inr ⟨rfl, rfl, hbare rfl⟩
  | either =>
    obtain ⟨first, second, more, t, rfl, ht, ha⟩ := h
    have hmembers := enclosed_complete (fun _ _ => Listed.solid hS) (listed_complete hS hi) hr
      ⟨t, ht, ha⟩
    rw [arguments, eitherArguments_eq, bind_of_ok hmembers]
    rfl
  | geometry =>
    obtain ⟨first, more, t, rfl, ht, ha⟩ := h
    rw [arguments, geometryArguments_eq]
    exact (enclosed_complete (fun _ _ => Listed.solid shape_solid)
      (listed_complete shape_solid shape_complete)).map hr ⟨first :: more, rfl, t, ht, ha⟩

end

end StoredFunctions.Kind
