/-
# Reading names

A name is spelt bare, between backticks or between angle brackets.  `Spells` collects the three
styles, and `anyName` reads just the texts that it relates to a name; a bare one has to end where
no word character follows.

* `quotedBody_of_encodes`, `exists_of_quotedBody`: the text between backticks, in both directions;
* `anyName_sound`, `anyName_complete`: names in any style;
* `spells_escape`: the canonical spelling is one of them, for every name without NUL;
* `path_sound`, `path_complete`: paths of bare names.
-/
import StoredFunctions.Proofs.Punctuation.Reading
import StoredFunctions.Names.Quoting

namespace StoredFunctions.Names

open StoredFunctions.Parser Filler

/-! ## 1. Spellings -/

/-- A bare name: word characters, at least one. -/
def IsWord (t : Text) : Prop := t ≠ [] ∧ t.all isWordChar = true

instance (t : Text) : Decidable (IsWord t) := inferInstanceAs (Decidable (_ ∧ _))

/-- `Encodes t name`: between backticks, the characters `t` stand for `name`. -/
inductive Encodes : Text → Text → Prop
  | nil : Encodes [] []
  | plain {x : Char} {t name : Text} :
      x ≠ '\\' → x ≠ backtick → x ≠ '\x00' → Encodes t name → Encodes (x :: t) (x :: name)
  | escape {code x : Char} {t name : Text} :
      unescape? code = some x → Encodes t name → Encodes ('\\' :: code :: t) (x :: name)

/-- `Spells name t`: the text `t` is a spelling of `name`. -/
inductive Spells (name : Text) : Text → Prop
  | bare : IsWord name → Spells name name
  | quoted {t : Text} : Encodes t name → Spells name (backtick :: (t ++ [backtick]))
  | bracketed :
      name ≠ [] → (∀ x ∈ name, x ≠ bracketClose ∧ x ≠ '\x00') →
        Spells name (bracketOpen :: (name ++ [bracketClose]))

theorem IsWord.solid {t : Text} (h : IsWord t) : Solid t := by
  obtain ⟨hne, hall⟩ := h
  obtain ⟨x, t, rfl⟩ := List.exists_cons_of_ne_nil hne
  have hx : isWordChar x = true := by simpa using (List.all_eq_true.mp hall) x (by simp)
  exact ⟨x, t, rfl, Punctuation.isOpener_of_isWordChar hx⟩

/-- No spelling of a name is mistaken for filler. -/
theorem Spells.solid {name t : Text} (h : Spells name t) : Solid t := by
  cases h with
  | bare h => exact h.solid
  | quoted _ => exact ⟨backtick, _, rfl, by decide⟩
  | bracketed _ _ => exact ⟨bracketOpen, _, rfl, by decide⟩

/-! ## 2. Between backticks -/

section

variable {t u r s name : Text} {n : Nat} {c : Cursor}

/-- Most characters stand for themselves. -/
theorem quotedBody_cons {x : Char} (hb : x ≠ '\\') (hq : x ≠ backtick) (hn : x ≠ '\x00') :
    quotedBody (x :: t) =
      match quotedBody t with
      | .ok (name, length) => .ok (x :: name, length + 1)
      | .error e => .error (e.shift 1) := by
  rw [quotedBody]
  · exact (if_neg hq).trans (if_neg hn)
  · exact fun h _ => hb h
  · exact fun _ _ h _ => hb h

theorem QuoteError.shift_zero (e : QuoteError) : e.shift 0 = e := by
  cases e <;> rfl

theorem QuoteError.shift_shift (e : QuoteError) (m n : Nat) :
    (e.shift m).shift n = e.shift (m + n) := by
  cases e <;> simp [shift, Nat.add_assoc]

/-- What is encoded is read first, and the rest decides how it ends. -/
theorem quotedBody_append (h : Encodes t name) :
    quotedBody (t ++ s) =
      match quotedBody s with
      | .ok (more, n) => .ok (name ++ more, n + t.length)
      | .error e => .error (e.shift t.length) := by
  induction h with
  | nil =>
    rw [List.nil_append]
    rcases quotedBody s with e | ⟨more, n⟩
    · exact congrArg Except.error e.shift_zero.symm
    · rfl
  | plain hb hq hn _ ih =>
    rw [List.cons_append, quotedBody_cons hb hq hn, ih]
    rcases quotedBody s with e | ⟨more, n⟩
    · exact congrArg Except.error (e.shift_shift _ 1)
    · rfl
  | escape hc _ ih =>
    rw [List.cons_append, List.cons_append, quotedBody, hc]
    simp only [ih]
    rcases quotedBody s with e | ⟨more, n⟩
    · exact congrArg Except.error (e.shift_shift _ 2)
    · rfl

theorem quotedBody_of_encodes (h : Encodes t name) :
    quotedBody (t ++ backtick :: r) = .ok (name, t.length + 1) := by
  have hend : quotedBody (backtick :: r) = .ok ([], 1) := by
    rw [quotedBody] <;> simp [backtick]
  rw [quotedBody_append h, hend]
  simp [Nat.add_comm]

private theorem ne_backslash {x : Char} (h₁ : x = '\\' → t = [] → False)
    (h₂ : ∀ (y : Char) (u : List Char), x = '\\' → t = y :: u → False) : x ≠ '\\' := by
  intro hx
  cases t with
  | nil => exact h₁ hx rfl
  | cons y u => exact h₂ y u hx rfl

/-- What is read up to the closing backtick is well encoded. -/
theorem exists_of_quotedBody :
    quotedBody s = .ok (name, n) →
      ∃ t r, s = t ++ backtick :: r ∧ n = t.length + 1 ∧ Encodes t name := by
  induction s using quotedBody.induct generalizing name n with
  | case1 => simp [quotedBody]
  | case2 => simp [quotedBody]
  | case3 code more hc => simp [quotedBody, hc]
  | case4 code more x hc name' n' hm ih =>
    intro h
    obtain ⟨rfl, rfl⟩ : x :: name' = name ∧ n' + 2 = n := by simpa [quotedBody, hc, hm] using h
    obtain ⟨t, r, rfl, rfl, ht⟩ := ih hm
    exact ⟨_, r, rfl, rfl, .escape hc ht⟩
  | case5 code more x hc e hm ih => simp [quotedBody, hc, hm]
  | case6 more h₁ h₂ =>
    intro h
    obtain ⟨rfl, rfl⟩ : [] = name ∧ 1 = n := by simpa [quotedBody, h₁, h₂] using h
    exact ⟨[], more, rfl, rfl, .nil⟩
  | case7 more h₁ h₂ hq => simp [quotedBody, hq]
  | case8 x more h₁ h₂ hq hn name' n' hm ih =>
    intro h
    have hb : x ≠ '\\' := ne_backslash h₁ h₂
    rw [quotedBody_cons hb hq hn, hm] at h
    obtain ⟨rfl, rfl⟩ : x :: name' = name ∧ n' + 1 = n := by simpa using h
    obtain ⟨t, r, rfl, rfl, ht⟩ := ih hm
    exact ⟨x :: t, r, rfl, rfl, .plain hb hq hn ht⟩
  | case9 x more h₁ h₂ hq hn e hm ih =>
    rw [quotedBody_cons (ne_backslash h₁ h₂) hq hn, hm]
    simp

/-! ## 3. Each of the three styles -/

theorem bare_exact :
    Exact bare (fun v t r => v = t ∧ IsWord t ∧ ∀ x ∈ r.head?, isWordChar x = false) :=
  (takeWhile1_exact isWordChar "identifier").congr fun _ _ _ => by simp [IsWord, and_assoc]

theorem bare_refuses (h : ∀ x ∈ c.rest.head?, isWordChar x = false) : Refuses bare c :=
  takeWhile1_refuses h

/-- `Quoted v t`: the text `t` is the name `v` between backticks. -/
def Quoted (v t : Text) : Prop := ∃ u, t = backtick :: (u ++ [backtick]) ∧ Encodes u v

theorem quoted_sound : Sound quoted (fun v t _ => Quoted v t) := by
  intro c v c' h
  unfold quoted at h
  split at h
  · exact absurd h (by simp)
  rename_i w inside ht
  obtain ⟨_, r, hr, rfl, rfl, rfl⟩ := (tag_exact (by simp)).sound ht
  have hin := Cursor.rest_past hr
  split at h
  · rename_i name n hb
    obtain ⟨rfl, rfl⟩ := Prod.mk.inj (Except.ok.inj h)
    obtain ⟨u, s, hs, rfl, hu⟩ := exists_of_quotedBody hb
    have hlast : (c.past [backtick]).rest = (u ++ [backtick]) ++ s := by simp [hs]
    have hadv := Cursor.advance_eq_past hlast (by simp)
    rw [List.length_append, List.length_singleton] at hadv
    refine ⟨backtick :: (u ++ [backtick]), s, ?_, ?_, u, rfl, hu⟩
    · rw [hr, ← hin, hlast]
      simp
    · rw [hadv, Cursor.past_past]
      rfl
  all_goals exact absurd h (by simp [abort])

theorem quoted_complete : Complete quoted (fun v t _ => Quoted v t) := by
  rintro c v t r hr ⟨u, rfl, hu⟩
  have hr₁ : c.rest = [backtick] ++ ((u ++ [backtick]) ++ r) := hr
  have hin := Cursor.rest_past hr₁
  have hadv := Cursor.advance_eq_past hin (by simp)
  have hb : quotedBody (c.past [backtick]).rest = .ok (v, u.length + 1) := by
    rw [hin, List.append_assoc]
    exact quotedBody_of_encodes hu
  rw [List.length_append, List.length_singleton] at hadv
  rw [quoted, (tag_exact (by simp)).complete hr₁ ⟨rfl, rfl⟩]
  simp only [hb, hadv, Cursor.past_past]
  rfl

theorem quoted_refuses (h : backtick ∉ c.rest.head?) : Refuses quoted c := by
  have hp : ¬ [backtick] <+: c.rest := by
    rintro ⟨u, hu⟩
    exact h (by rw [← hu]; rfl)
  obtain ⟨f, hf, hc⟩ := tag_refuses hp
  exact ⟨f, by rw [quoted, hf], hc⟩

/-- `Bracketed v t`: the text `t` is the name `v` between angle brackets. -/
def Bracketed (v t : Text) : Prop :=
  v ≠ [] ∧ (∀ x ∈ v, x ≠ bracketClose ∧ x ≠ '\x00') ∧ t = bracketOpen :: (v ++ [bracketClose])

theorem bracketed_sound : Sound bracketed (fun v t _ => Bracketed v t) := by
  intro c v c' h
  unfold bracketed at h
  split at h
  · exact absurd h (by simp)
  rename_i w inside ht
  obtain ⟨_, r, hr, rfl, rfl, rfl⟩ := (tag_exact (by simp)).sound ht
  have hin := Cursor.rest_past hr
  split at h
  rename_i name after hname
  obtain ⟨_, s, hs, rfl, rfl, hall, -⟩ := (takeWhile_exact _).sound (congrArg Except.ok hname)
  split at h
  · exact absurd h (by simp [abort])
  rename_i hne
  split at h
  · exact absurd h (by simp [abort])
  rename_i hclose
  obtain ⟨rfl, rfl⟩ := Prod.mk.inj (Except.ok.inj h)
  have hpeek : ((c.past [bracketOpen]).past name).peek 1 = [bracketClose] := by
    simpa using hclose
  rw [Cursor.peek_one_iff, Cursor.rest_past hs] at hpeek
  obtain ⟨e, rfl⟩ := List.head?_eq_some_iff.mp hpeek
  refine ⟨bracketOpen :: (name ++ [bracketClose]), e, ?_, ?_, by simpa using hne,
    by simpa using hall, rfl⟩
  · rw [hr, ← hin, hs]
    simp
  · rw [Cursor.advance_one (Cursor.rest_past hs)]
    simp

theorem bracketed_complete : Complete bracketed (fun v t _ => Bracketed v t) := by
  rintro c v t r hr ⟨hne, hall, rfl⟩
  have hr₁ : c.rest = [bracketOpen] ++ (v ++ ([bracketClose] ++ r)) := by simp [hr]
  have hr₂ := Cursor.rest_past hr₁
  have hr₃ := Cursor.rest_past hr₂
  have hname := (takeWhile_exact fun x => x != bracketClose && x != '\x00').complete hr₂
    ⟨rfl, by simpa using hall, by simp⟩
  have hpeek : ((c.past [bracketOpen]).past v).peek 1 = [bracketClose] :=
    Cursor.peek_of_rest hr₃
  rw [bracketed, (tag_exact (by simp)).complete hr₁ ⟨rfl, rfl⟩]
  simp only [Except.ok.inj hname, hpeek, Cursor.advance_one hr₃]
  simp [hne]

/-! ## 4. Names in any style -/

theorem anyName_sound : Sound anyName (fun v t _ => Spells v t) := by
  refine .firstOf fun p hp => ?_
  rcases List.mem_cons.mp hp with rfl | hp
  · refine bare_exact.sound.mono ?_
    rintro v t r ⟨rfl, hw, -⟩
    exact .bare hw
  · rcases List.mem_cons.mp hp with rfl | hp
    · refine quoted_sound.mono ?_
      rintro v t r ⟨u, rfl, hu⟩
      exact .quoted hu
    · obtain rfl := List.mem_singleton.mp hp
      refine bracketed_sound.mono ?_
      rintro v t r ⟨hne, hall, rfl⟩
      exact .bracketed hne hall

/-- In front of a backtick or a bracket there is no bare name. -/
theorem bare_refuses_cons {x : Char} (hr : c.rest = x :: t) (hx : isWordChar x = false) :
    Refuses bare c := by
  refine bare_refuses ?_
  rw [hr]
  rintro y ⟨⟩
  exact hx

/-- A name between backticks is read whatever stands behind it. -/
theorem anyName_of_quoted (hr : c.rest = t ++ r) (h : Quoted name t) :
    anyName c = .ok (name, c.past t) := by
  obtain ⟨u, rfl, -⟩ := id h
  exact firstOf_ok_iff.mpr (.inr ⟨bare_refuses_cons hr (by decide),
    firstOf_ok_iff.mpr (.inl (quoted_complete hr h))⟩)

/-- **Every spelling of a name is read**, where no word goes on behind it. -/
theorem anyName_complete :
    Complete anyName (fun v t r => Spells v t ∧ ∀ x ∈ r.head?, isWordChar x = false) := by
  rintro c v t r hr ⟨h, hnext⟩
  cases h with
  | bare hw => exact firstOf_ok_iff.mpr (.inl (bare_exact.complete hr ⟨rfl, hw, hnext⟩))
  | quoted hu => exact anyName_of_quoted hr ⟨_, rfl, hu⟩
  | bracketed hne hall =>
    have hbare : Refuses bare c := bare_refuses_cons hr (by decide)
    have hquoted : Refuses quoted c := quoted_refuses (by
      rw [hr, List.cons_append, List.head?_cons]
      decide)
    exact firstOf_ok_iff.mpr (.inr ⟨hbare, firstOf_ok_iff.mpr (.inr ⟨hquoted,
      firstOf_ok_iff.mpr (.inl (bracketed_complete hr ⟨hne, hall, rfl⟩))⟩)⟩)

/-! ## 5. The canonical spelling -/

theorem encodes_escapeChar {v : Text} (h : '\x00' ∉ v) : Encodes (v.flatMap escapeChar) v := by
  induction v with
  | nil => exact .nil
  | cons x v ih =>
    obtain ⟨hx, hv⟩ : '\x00' ≠ x ∧ '\x00' ∉ v := by simpa using h
    rw [List.flatMap_cons, escapeChar]
    by_cases hq : x = '\\' ∨ x = backtick
    · have hcode : unescape? x = some x := by
        rcases hq with rfl | rfl <;> decide
      rw [if_pos (by simpa using hq)]
      exact .escape hcode (ih hv)
    · rw [not_or] at hq
      rw [if_neg (by simpa using hq)]
      exact .plain hq.1 hq.2 hx.symm (ih hv)

/-- **The canonical spelling reads back**: it is a spelling of the name. -/
theorem spells_escape {v : Text} (h : '\x00' ∉ v) : Spells v (escape v) := by
  unfold escape
  split
  · rename_i hb
    refine .bare ⟨?_, ?_⟩
    · rintro rfl
      simp [isBare] at hb
    · simp only [isBare, Bool.and_eq_true] at hb
      exact hb.1.2
  · exact .quoted (encodes_escapeChar h)

/-! ## 6. Paths -/

/-- The segments of a path. -/
def IsPath (path : List Text) : Prop := ∀ w ∈ path, IsWord w

instance (path : List Text) : Decidable (IsPath path) :=
  inferInstanceAs (Decidable (∀ w ∈ path, IsWord w))

theorem colons_eq : Text.of "::" = [':', ':'] := by rw [Text.of_eq]; rfl

/-- A further segment of a path: a mark in front, and no word character behind. -/
def Segment : Grammar Text := fun v t r =>
  t = "::" ++ v ∧ IsWord v ∧ ∀ x ∈ r.head?, isWordChar x = false

theorem segment_exact : Exact (do let _ ← tag "::"; bare) Segment := by
  refine ((tag_exact (by simp [colons_eq])).bind fun _ => bare_exact).congr ?_
  intro v t r
  constructor
  · rintro ⟨_, _, _, rfl, ⟨-, rfl⟩, rfl, hw, hr⟩
    exact ⟨rfl, hw, hr⟩
  · rintro ⟨rfl, hw, hr⟩
    exact ⟨_, _, v, rfl, ⟨rfl, rfl⟩, rfl, hw, hr⟩

/-- Behind a segment there is a colon or what follows the path. -/
theorem segments_head (hr : ∀ x ∈ r.head?, isWordChar x = false) (vs : List Text) :
    ∀ x ∈ (vs.flatMap (Text.of "::" ++ ·) ++ r).head?, isWordChar x = false := by
  cases vs with
  | nil => exact hr
  | cons v vs =>
    rw [List.flatMap_cons, colons_eq]
    rintro x ⟨⟩
    decide

theorem segments_sound {vs : List Text} (h : Segment.Star vs t r) :
    IsPath vs ∧ t = vs.flatMap (Text.of "::" ++ ·) := by
  induction h with
  | nil => exact ⟨by simp [IsPath], rfl⟩
  | cons ha _ _ ih =>
    obtain ⟨rfl, hw, -⟩ := ha
    obtain ⟨hp, rfl⟩ := ih
    exact ⟨List.forall_mem_cons.mpr ⟨hw, hp⟩, rfl⟩

theorem segments_complete {vs : List Text} (hvs : IsPath vs)
    (hr : ∀ x ∈ r.head?, isWordChar x = false) :
    Segment.Star vs (vs.flatMap (Text.of "::" ++ ·)) r := by
  induction vs with
  | nil => exact .nil
  | cons v vs ih =>
    obtain ⟨hv, hvs⟩ := List.forall_mem_cons.mp hvs
    exact .cons ⟨rfl, hv, segments_head hr vs⟩ (by simp [colons_eq]) (ih hvs)

theorem path_sound :
    Sound path (fun v t _ => IsPath (v.1 :: v.2) ∧ t = Text.join "::" (v.1 :: v.2)) := by
  refine (bare_exact.sound.bind fun first => segment_exact.sound.many.bind fun more =>
    (Exact.pure (first, more)).sound).mono ?_
  rintro v t r ⟨a, _, _, rfl, ⟨rfl, hw, -⟩, more, _, _, rfl, hs, rfl, rfl⟩
  obtain ⟨hp, rfl⟩ := segments_sound hs
  exact ⟨List.forall_mem_cons.mpr ⟨hw, hp⟩, by rw [Text.join_cons, List.append_nil]⟩

theorem path_complete {first : Text} {more : List Text} (h : IsPath (first :: more))
    (hc : c.rest = Text.join "::" (first :: more) ++ r) (hr : ∀ x ∈ r.head?, isWordChar x = false)
    (hcolons : ¬ Text.of "::" <+: r) :
    path c = .ok ((first, more), c.past (Text.join "::" (first :: more))) := by
  obtain ⟨hfirst, hmore⟩ := List.forall_mem_cons.mp h
  rw [Text.join_cons, List.append_assoc] at hc
  have hrest := Cursor.rest_past hc
  have hfst : bare c = .ok (first, c.past first) :=
    bare_exact.complete hc ⟨rfl, hfirst, segments_head hr more⟩
  have hsnd := segment_exact.complete.many (segments_complete hmore hr) hrest
    (tag_refuses (by rwa [Cursor.rest_past hrest])).bind
  rw [path, bind_of_ok hfst, bind_of_ok hsnd, Text.join_cons, Cursor.past_past]
  rfl

end

end StoredFunctions.Names
