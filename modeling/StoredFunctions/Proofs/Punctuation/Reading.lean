/-
# Reading punctuation and lists

The marks of the grammar are single characters with filler around them, and lists are elements
with marks between them.  `Following` is the part of a list behind its first element: a mark, with
filler on both sides, and an element, again and again.

What an element reads may depend on the character behind it, but in a list that character is a
mark, or begins filler, so it is `Clear`: it neither goes on with a word nor opens a bracket.
The list itself ends at a closing mark, where the separator is refused.

* `separated1_sound`, `separated1_complete`: lists of one element or more;
* `terminator_sound`, `terminator_complete`: the semicolons behind a definition.
-/
import StoredFunctions.Proofs.Filler.Reading
import StoredFunctions.Source.Punctuation

namespace StoredFunctions

/-- In a joined list every text but the first has a separator in front. -/
theorem Text.join_cons {s t : Text} {more : List Text} :
    Text.join s (t :: more) = t ++ more.flatMap (s ++ ·) := by
  induction more generalizing t with
  | nil => simp [Text.join]
  | cons u more ih => simp [Text.join, ih]

namespace Punctuation

open StoredFunctions.Parser Filler

/-! ## 1. Marks and what is clear -/

/-- A text in front of which every word and every bare kind ends. -/
def Clear (r : Text) : Prop := ∀ x ∈ r.head?, isWordChar x = false ∧ x ≠ '<'

/-- A mark of the grammar: one character that begins no filler, ends every word and opens no
arguments. -/
def IsMark (w : Text) : Prop := ∃ x, w = [x] ∧ isOpener x = false ∧ isWordChar x = false ∧ x ≠ '<'

section

variable {w : Text} {t s : Text}

theorem IsMark.length_eq (h : IsMark w) : w.length = 1 := by
  obtain ⟨x, rfl, -⟩ := h
  rfl

theorem IsMark.ne_nil (h : IsMark w) : w ≠ [] := by
  obtain ⟨x, rfl, -⟩ := h
  simp

theorem IsMark.solid (h : IsMark w) : Solid (w ++ s) := by
  obtain ⟨x, rfl, hx, -⟩ := h
  exact ⟨x, s, rfl, hx⟩

theorem IsMark.clear (h : IsMark w) : Clear (w ++ s) := by
  obtain ⟨x, rfl, -, hx⟩ := h
  simpa [Clear] using hx

/-- An opener of filler ends every word. -/
theorem clear_of_isOpener {x : Char} (h : isOpener x = true) : isWordChar x = false ∧ x ≠ '<' := by
  simp only [isOpener, isLayout, Bool.or_eq_true, beq_iff_eq] at h
  rcases h with (((((rfl | rfl) | rfl) | rfl) | rfl) | rfl) | rfl <;> decide

theorem isOpener_of_isWordChar {x : Char} (h : isWordChar x = true) : isOpener x = false := by
  refine Bool.eq_false_iff.mpr fun ho => ?_
  rw [(clear_of_isOpener ho).1] at h
  exact absurd h (by simp)

/-- Filler in front keeps a text clear. -/
theorem Clear.filler (hs : Clear s) (h : IsFiller t) : Clear (t ++ s) := by
  obtain ⟨bs, h⟩ := h
  cases t with
  | nil => exact hs
  | cons x t =>
    intro y hy
    obtain rfl : x = y := by simpa using hy
    exact clear_of_isOpener (h.head x rfl)

end

theorem isMark_comma : IsMark "," := ⟨',', by rw [Text.of_eq]; rfl, by decide, by decide, by decide⟩
theorem isMark_bar : IsMark "|" := ⟨'|', by rw [Text.of_eq]; rfl, by decide, by decide, by decide⟩
theorem isMark_colon : IsMark ":" := ⟨':', by rw [Text.of_eq]; rfl, by decide, by decide, by decide⟩
theorem isMark_semicolon : IsMark ";" :=
  ⟨';', by rw [Text.of_eq]; rfl, by decide, by decide, by decide⟩
theorem isMark_open : IsMark "(" := ⟨'(', by rw [Text.of_eq]; rfl, by decide, by decide, by decide⟩
theorem isMark_close : IsMark ")" := ⟨')', by rw [Text.of_eq]; rfl, by decide, by decide, by decide⟩
theorem isMark_closeChevron : IsMark ">" :=
  ⟨'>', by rw [Text.of_eq]; rfl, by decide, by decide, by decide⟩
theorem isMark_brace : IsMark "\x7b" :=
  ⟨'\x7b', by rw [Text.of_eq]; rfl, by decide, by decide, by decide⟩

/-- The separators of canonical spellings: a mark and the blanks around it. -/
theorem spacedComma_eq : Text.of ", " = [] ++ (Text.of "," ++ Text.of " ") := by cbv

theorem spacedBar_eq : Text.of " | " = Text.of " " ++ (Text.of "|" ++ Text.of " ") := by cbv

/-! ## 2. Single marks -/

variable {α : Type} {w f s t r u : Text} {c : Cursor}

/-- A mark with filler on both sides. -/
theorem surrounded_exact (hw : IsMark w) :
    Exact (surrounded w)
      (fun _ t r => ∃ f g, t = f ++ (w ++ g) ∧ IsFiller f ∧ ∃ bodies, Gap bodies g r) := by
  refine (skip_exact.bind fun _ => (single_exact hw.length_eq).bind fun _ => skip_exact).congr ?_
  intro v t r
  constructor
  · rintro ⟨_, f, _, rfl, hf, _, _, g, rfl, ⟨-, rfl⟩, hg⟩
    rw [List.append_assoc, hw.solid.gap_iff] at hf
    exact ⟨f, g, rfl, hf, hg⟩
  · rintro ⟨f, g, rfl, hf, hg⟩
    rw [← (hw.solid (s := g ++ r)).gap_iff] at hf
    exact ⟨(), f, w ++ g, rfl, by simpa using hf, w, w, g, rfl, ⟨rfl, rfl⟩, hg⟩

/-- A mark is refused where another text stands behind the filler. -/
theorem surrounded_refuses_gap (hw : IsMark w) (h : c.rest = f ++ s) (hf : ∃ bodies, Gap bodies f s)
    (hne : ¬ w <+: s) : Refuses (surrounded w) c := by
  have hskip : skip c = .ok ((), c.past f) := skip_exact.complete h hf
  refine Refuses.of_ok hskip ?_
  exact (single_refuses hw.length_eq (by rwa [Cursor.rest_past h])).bind

theorem surrounded_refuses (hw : IsMark w) (h : c.rest = f ++ s) (hf : IsFiller f) (hs : Solid s)
    (hne : ¬ w <+: s) : Refuses (surrounded w) c :=
  surrounded_refuses_gap hw h (hs.gap_iff.mpr hf) hne

/-- At the end of a document no list goes on. -/
theorem surrounded_refuses_nil (hw : IsMark w) (h : c.rest = []) : Refuses (surrounded w) c := by
  refine surrounded_refuses_gap (f := []) hw h ⟨[], .stop not_begins_nil⟩ ?_
  simpa using hw.ne_nil

theorem opening_exact (hw : w.length = 1) :
    Exact (opening w) (fun _ t r => ∃ g, t = w ++ g ∧ ∃ bodies, Gap bodies g r) := by
  refine ((single_exact hw).bind fun _ => skip_exact).congr fun v t r => ?_
  constructor
  · rintro ⟨_, _, g, rfl, ⟨-, rfl⟩, hg⟩
    exact ⟨g, rfl, hg⟩
  · rintro ⟨g, rfl, hg⟩
    exact ⟨w, w, g, rfl, ⟨rfl, rfl⟩, hg⟩

theorem closing_exact (hw : IsMark w) :
    Exact (closing w) (fun _ t _ => ∃ f, t = f ++ w ∧ IsFiller f) := by
  refine (skip_exact.bind fun _ => (single_exact hw.length_eq).bind fun _ => .pure ()).congr ?_
  intro v t r
  constructor
  · rintro ⟨_, f, _, rfl, hf, _, _, _, rfl, ⟨-, rfl⟩, -, rfl⟩
    rw [List.append_nil, hw.solid.gap_iff] at hf
    exact ⟨f, by simp, hf⟩
  · rintro ⟨f, rfl, hf⟩
    rw [← (hw.solid (s := r)).gap_iff] at hf
    exact ⟨(), f, w, rfl, hf, w, w, [], by simp, ⟨rfl, rfl⟩, rfl, rfl⟩

/-! ## 3. Lists -/

/-- The part of a list behind its first element: each further element, with the mark `w` and the
filler around that in front. -/
inductive Following (w : Text) (P : α → Text → Prop) : List α → Text → Prop
  | nil : Following w P [] []
  | cons {f g t u : Text} {a : α} {as : List α} :
      IsFiller f → IsFiller g → P a t → Following w P as u →
        Following w P (a :: as) (f ++ (w ++ (g ++ (t ++ u))))

theorem Following.mono {P Q : α → Text → Prop} {as : List α}
    (h : Following w P as u) (hPQ : ∀ a ∈ as, ∀ t, t.length ≤ u.length → P a t → Q a t) :
    Following w Q as u := by
  induction h with
  | nil => exact .nil
  | cons hf hg ha _ ih =>
    refine .cons hf hg (hPQ _ (by simp) _ (by simp; omega) ha) (ih fun b hb t ht => ?_)
    exact hPQ b (by simp [hb]) t (by simp; omega)

/-- What the texts of elements say about these holds of all elements of a list. -/
theorem Following.forall_mem {P : α → Text → Prop} {Q : α → Prop} {as : List α}
    (h : Following w P as u) (hPQ : ∀ a t, P a t → Q a) : ∀ a ∈ as, Q a := by
  induction h with
  | nil => simp
  | cons _ _ ha _ ih => exact List.forall_mem_cons.mpr ⟨hPQ _ _ ha, ih⟩

/-- A list that is written with one separator throughout. -/
theorem following_flatMap {P : α → Text → Prop} {as : List α} {spell : α → Text}
    (hf : IsFiller f) (hg : IsFiller t) (h : ∀ a ∈ as, P a (spell a)) :
    Following w P as ((as.map spell).flatMap ((f ++ (w ++ t)) ++ ·)) := by
  induction as with
  | nil => exact .nil
  | cons a as ih =>
    have hmore := ih fun b hb => h b (by simp [hb])
    simpa using Following.cons hf hg (h a (by simp)) hmore

/-- What follows an element of a list is clear if what follows the list is. -/
theorem Following.clear {P : α → Text → Prop} {as : List α} (hw : IsMark w)
    (h : Following w P as u) (hr : Clear r) : Clear (u ++ r) := by
  cases h with
  | nil => exact hr
  | cons hf _ _ _ =>
    rw [List.append_assoc, List.append_assoc]
    exact hw.clear.filler hf

/-- An element with a mark in front, and filler around the mark. -/
def Behind (w : Text) (E : Grammar α) : Grammar α := fun a t r =>
  ∃ f g u, t = f ++ (w ++ (g ++ u)) ∧ IsFiller f ∧ (∃ bodies, Gap bodies g (u ++ r)) ∧ E a u r

variable {element : Parser α} {E : Grammar α} {P : α → Text → Prop} {as : List α} {a : α}

theorem behind_sound (hw : IsMark w) (he : Sound element E) :
    Sound (do surrounded w; element) (Behind w E) := by
  refine ((surrounded_exact hw).sound.bind fun _ => he).mono ?_
  rintro a t r ⟨_, _, u, rfl, ⟨f, g, rfl, hf, hg⟩, ha⟩
  exact ⟨f, g, u, by simp, hf, hg, ha⟩

theorem behind_complete (hw : IsMark w) (he : Complete element E) :
    Complete (do surrounded w; element) (Behind w E) := by
  rintro c a t r hr ⟨f, g, u, rfl, hf, hg, ha⟩
  refine ((surrounded_exact hw).complete.bind fun _ => he) hr ?_
  exact ⟨(), f ++ (w ++ g), u, by simp, ⟨f, g, rfl, hf, hg⟩, ha⟩

theorem separated1_sound (hw : IsMark w) (hP : ∀ a t, P a t → Solid t)
    (he : Sound element (fun a t _ => P a t)) :
    Sound (separated1 (surrounded w) element)
      (fun as t _ => ∃ a more t₁ u, as = a :: more ∧ t = t₁ ++ u ∧ P a t₁ ∧
        Following w P more u) := by
  have hstep : Sound (do surrounded w; element) (Behind w fun a t _ => P a t) :=
    behind_sound hw he
  have hfollow : ∀ {as u r}, (Behind w fun a t _ => P a t).Star as u r → Following w P as u := by
    intro as u r h
    induction h with
    | nil => exact .nil
    | cons h _ _ ih =>
      obtain ⟨f, g, t, rfl, hf, hg, ha⟩ := h
      rw [((hP _ _ ha).append).gap_iff] at hg
      simpa using Following.cons hf hg ha ih
  refine (he.bind fun first => hstep.many.bind fun more =>
    (Exact.pure (first :: more)).sound).mono ?_
  rintro as t r ⟨a, t₁, _, rfl, ha, more, u, _, rfl, hu, rfl, rfl⟩
  exact ⟨a, more, t₁, u, rfl, by simp, ha, hfollow hu⟩

/-- **A list is read to its end** if the separator is refused there. -/
theorem separated1_complete (hw : IsMark w) (hP : ∀ a t, P a t → Solid t)
    (he : Complete element (fun a t r => P a t ∧ Clear r)) (ha : P a t) (hu : Following w P as u)
    (hr : Clear r) (hc : c.rest = t ++ (u ++ r))
    (hstop : Refuses (surrounded w) (c.past (t ++ u))) :
    separated1 (surrounded w) element c = .ok (a :: as, c.past (t ++ u)) := by
  have hstep : Complete (do surrounded w; element) (Behind w fun a t r => P a t ∧ Clear r) :=
    behind_complete hw he
  have hstar : (Behind w fun a t r => P a t ∧ Clear r).Star as u r := by
    clear hc hstop ha
    induction hu with
    | nil => exact .nil
    | @cons f g t u a as hf hg ha hu ih =>
      have hg' := ((hP _ _ ha).append (t := u ++ r)).gap_iff.mpr hg
      have h : Behind w (fun a t r => P a t ∧ Clear r) a (f ++ (w ++ (g ++ t))) (u ++ r) :=
        ⟨f, g, t, rfl, hf, hg', ha, hu.clear hw hr⟩
      obtain ⟨x, v, rfl, -⟩ := hP _ _ ha
      simpa using Grammar.Star.cons h (by simp) ih
  have hfirst := he hc ⟨ha, hu.clear hw hr⟩
  have hmore := hstep.many hstar (Cursor.rest_past hc) (by
    rw [Cursor.past_past]
    exact hstop.bind)
  rw [separated1, bind_of_ok hfirst, bind_of_ok hmore, Cursor.past_past]
  rfl

/-! ## 4. The end of a statement -/

/-- One semicolon or more. -/
def Semicolons (s : Text) : Prop := ∃ n, s = List.replicate (n + 1) ';'

/-- What ends a statement: filler and semicolons. -/
def Terminator (t : Text) : Prop := ∃ f s, t = f ++ s ∧ IsFiller f ∧ Semicolons s

theorem semicolon_eq : Text.of ";" = [';'] := by rw [Text.of_eq]; rfl

theorem Semicolons.solid (hs : Semicolons s) : Solid (s ++ r) := by
  obtain ⟨n, rfl⟩ := hs
  exact ⟨';', _, rfl, by decide⟩

theorem many_semicolons_sound :
    Sound (many (single ";")) (fun _ t _ => ∃ n, t = List.replicate n ';') := by
  refine (single_exact isMark_semicolon.length_eq).sound.many.mono fun vs t r h => ?_
  induction h with
  | nil => exact ⟨0, rfl⟩
  | cons h _ _ ih =>
    obtain ⟨-, rfl⟩ := h
    obtain ⟨n, rfl⟩ := ih
    exact ⟨n + 1, by rw [semicolon_eq]; rfl⟩

theorem many_semicolons {n : Nat} (h : c.rest = List.replicate n ';' ++ r)
    (hr : ';' ∉ r.head?) :
    ∃ vs, many (single ";") c = .ok (vs, c.past (List.replicate n ';')) := by
  have hw := isMark_semicolon.length_eq
  have hstar : Grammar.Star (fun v t _ => v = Text.of ";" ∧ t = Text.of ";")
      (List.replicate n ";") (List.replicate n ';') r := by
    clear h
    induction n with
    | zero => exact .nil
    | succ n ih =>
      have hcons := ih.cons (a := Text.of ";") ⟨rfl, rfl⟩ (by simp [semicolon_eq])
      simpa [List.replicate_succ, semicolon_eq] using hcons
  refine ⟨_, (single_exact hw).complete.many hstar h (single_refuses hw ?_)⟩
  rw [Cursor.rest_past h, semicolon_eq]
  rintro ⟨u, rfl⟩
  exact hr rfl

/-- What a terminator takes ends a statement; the white space behind the semicolons is read with
them. -/
theorem terminator_sound :
    Sound terminator (fun _ t _ => ∃ e l, t = e ++ l ∧ Terminator e ∧ l.all isLayout = true) := by
  refine (skip_exact.sound.bind fun _ => Sound.bind
    ((single_exact isMark_semicolon.length_eq).sound.bind fun first =>
      many_semicolons_sound.bind fun more => (Exact.pure (first :: more)).sound) fun _ =>
    layout_exact.sound.bind fun _ => (Exact.pure ()).sound).mono ?_
  rintro v t r ⟨_, f, _, rfl, hf, _, s, _, rfl, hs, _, l, _, rfl, ⟨-, hl, -⟩, -, rfl⟩
  obtain ⟨_, _, _, rfl, ⟨-, rfl⟩, _, s, _, rfl, ⟨n, rfl⟩, -, rfl⟩ := hs
  have hs : Semicolons (Text.of ";" ++ (List.replicate n ';' ++ [])) :=
    ⟨n, by simp [semicolon_eq, List.replicate_succ]⟩
  rw [List.append_assoc, hs.solid.gap_iff] at hf
  exact ⟨f ++ _, l, by simp, ⟨f, _, rfl, hf, hs⟩, hl⟩

/-- **A terminator is read with the white space behind it**, if no further semicolon follows. -/
theorem terminator_complete {e l : Text} (h : c.rest = e ++ (l ++ r)) (he : Terminator e)
    (hl : l.all isLayout = true) (hr : ∀ x ∈ r.head?, isLayout x = false)
    (hsemi : ';' ∉ (l ++ r).head?) : terminator c = .ok ((), c.past (e ++ l)) := by
  obtain ⟨f, _, rfl, hf, hs⟩ := he
  obtain ⟨n, rfl⟩ := id hs
  rw [List.append_assoc] at h
  have h₁ := Cursor.rest_past h
  have h₂ : (c.past f).rest = ";" ++ (List.replicate n ';' ++ (l ++ r)) := by
    rw [h₁, semicolon_eq]
    rfl
  have h₃ := Cursor.rest_past h₂
  obtain ⟨vs, hmany⟩ := many_semicolons h₃ hsemi
  have hone : many1 (single ";") (c.past f) =
      .ok (Text.of ";" :: vs, ((c.past f).past ";").past (List.replicate n ';')) := by
    rw [many1, bind_of_ok ((single_exact isMark_semicolon.length_eq).complete h₂ ⟨rfl, rfl⟩),
      bind_of_ok hmany]
    rfl
  rw [terminator, bind_of_ok (skip_exact.complete (v := ()) h (hs.solid.gap_iff.mpr hf)),
    bind_of_ok hone,
    bind_of_ok (layout_exact.complete (v := l) (Cursor.rest_past h₃) ⟨rfl, hl, hr⟩)]
  simp only [Cursor.past_past, List.append_assoc, semicolon_eq, List.replicate_succ,
    List.cons_append, List.nil_append]
  rfl

end Punctuation

end StoredFunctions
