/-
# Reading filler

The parsers of filler read gaps: `documentation_exact`, `skip_exact`, and `skip1_exact` for a gap
that must not be empty.

The parser of documentation tries comments first and white space alone behind that.  It is proved
equal to a plain loop, `gather`, that reads comments as long as there are any and white space
behind them (`documentation_eq_gather`); each way in which a gap can begin then becomes one
equation about the loop.  Nothing in filler fails for good.
-/
import StoredFunctions.Proofs.Filler.Gap

namespace StoredFunctions.Filler

open StoredFunctions.Parser

variable {c d : Cursor} {t r s body : Text} {bodies : List Text}

/-! ## 1. White space -/

theorem layout_exact :
    Exact layout (fun v t r => v = t ∧ t.all isLayout = true ∧ ∀ x ∈ r.head?, isLayout x = false) :=
  takeWhile_exact isLayout

theorem restOfLine_exact :
    Exact restOfLine
      (fun v t r => v = t ∧ isOneLine t = true ∧ ∀ x ∈ r.head?, isLineEnd x = true) :=
  (takeWhile_exact fun x => !isLineEnd x).congr fun _ _ _ => by simp [isOneLine]

/-- Reading white space leaves the same cursor, wherever in the white space one begins. -/
theorem layout_past (h : c.rest = t ++ r) (ht : t.all isLayout = true) :
    ∃ v w d, layout c = .ok (v, d) ∧ layout (c.past t) = .ok (w, d) := by
  obtain ⟨l, u, rfl, hl, hhead⟩ := Text.exists_span isLayout r
  have hc : c.rest = (t ++ l) ++ u := by rw [h, List.append_assoc]
  refine ⟨_, l, _, layout_exact.complete hc ⟨rfl, by simp [ht, hl], hhead⟩, ?_⟩
  rw [layout_exact.complete (Cursor.rest_past h) ⟨rfl, hl, hhead⟩, Cursor.past_past]

/-- A parser that begins by skipping white space does not notice white space in front. -/
theorem layout_bind_past {α : Type} {p : Parser α} (h : c.rest = t ++ r)
    (ht : t.all isLayout = true) :
    (do let _ ← layout; p : Parser α) (c.past t) = (do let _ ← layout; p : Parser α) c := by
  obtain ⟨v, w, d, hc, hp⟩ := layout_past h ht
  rw [bind_of_ok hc, bind_of_ok hp]

/-! ## 2. Single comments -/

theorem block_mild : Mild block :=
  (takeWhile_mild _).bind fun _ => (tag_mild _).bind fun _ => takeUntil_mild.bind fun _ =>
    (tag_mild _).bind fun _ => (takeWhile_mild _).bind fun _ => .pure _

theorem lineComment_mild (mark : Text) : Mild (lineComment mark) :=
  (takeWhile_mild _).bind fun _ => (tag_mild _).bind fun _ => (takeWhile_mild _).bind fun _ =>
    .pure _

/-- The four alternatives are one block and three line comments. -/
theorem mem_alternatives {p : Parser Text} :
    p ∈ [block, slashComment, dashComment, hashComment] ↔
      p = block ∨ ∃ mark ∈ lineMarks, p = lineComment mark := by
  simp [lineMarks, slashComment, dashComment, hashComment]

theorem comment_mild : Mild comment := by
  refine firstOf_mild fun p hp => ?_
  rcases mem_alternatives.mp hp with rfl | ⟨mark, -, rfl⟩
  · exact block_mild
  · exact lineComment_mild mark

/-- `/* … */` where nothing stands in front; the white space behind it is read as well. -/
theorem block_ok (h : c.rest = "/*" ++ (body ++ ("*/" ++ (t ++ r)))) (hb : ¬ Text.of "*/" <:+: body)
    (ht : t.all isLayout = true) (hr : ∀ x ∈ r.head?, isLayout x = false) :
    block c = .ok (body.trim, c.past ("/*" ++ (body ++ ("*/" ++ t)))) := by
  have hne : Text.of "/*" ≠ [] := by simp [blockOpen_eq]
  have hne' : Text.of "*/" ≠ [] := by simp [blockClose_eq]
  have h₁ := Cursor.rest_past h
  have h₂ := Cursor.rest_past h₁
  have h₃ := Cursor.rest_past h₂
  have h₀ := layout_exact.complete (List.nil_append c.rest).symm
    ⟨rfl, rfl, by rw [h, blockOpen_eq]; simp [isLayout]⟩
  rw [Cursor.past_nil] at h₀
  rw [block, bind_of_ok h₀, bind_of_ok ((tag_exact hne).complete h ⟨rfl, rfl⟩),
    bind_of_ok ((takeUntil_exact blockClose_eq (by decide)).complete h₁
      ⟨rfl, hb, List.prefix_append _ _⟩),
    bind_of_ok ((tag_exact hne').complete h₂ ⟨rfl, rfl⟩),
    bind_of_ok (layout_exact.complete h₃ ⟨rfl, ht, hr⟩)]
  simp only [Cursor.past_past, List.append_assoc]
  rfl

/-- A line comment where nothing stands in front.  The line end is left unread. -/
theorem lineComment_ok {mark : Text} (hm : mark ∈ lineMarks) (h : c.rest = mark ++ (body ++ r))
    (hb : isOneLine body = true) (hr : ∀ x ∈ r.head?, isLineEnd x = true) :
    lineComment mark c = .ok (body.trim, c.past (mark ++ body)) := by
  obtain ⟨x, u, rfl, hx, -⟩ := exists_of_mem_lineMarks hm
  have h₁ := Cursor.rest_past h
  have h₀ := layout_exact.complete (List.nil_append c.rest).symm
    ⟨rfl, rfl, by rw [h]; simpa using hx⟩
  rw [Cursor.past_nil] at h₀
  rw [lineComment, bind_of_ok h₀, bind_of_ok ((tag_exact (by simp)).complete h ⟨rfl, rfl⟩),
    bind_of_ok (restOfLine_exact.complete h₁ ⟨rfl, hb, hr⟩)]
  simp only [Cursor.past_past]
  rfl

theorem block_refuses (h : ∀ x ∈ c.rest.head?, isLayout x = false)
    (hb : ¬ ∃ body rest, c.rest = "/*" ++ (body ++ ("*/" ++ rest))) : Refuses block c := by
  have h₀ := layout_exact.complete (List.nil_append c.rest).symm ⟨rfl, rfl, h⟩
  rw [Cursor.past_nil] at h₀
  refine Refuses.of_ok h₀ ?_
  by_cases ho : Text.of "/*" <+: c.rest
  · obtain ⟨u, hu⟩ := ho
    refine Refuses.of_ok ((tag_exact (by simp [blockOpen_eq])).complete hu.symm ⟨rfl, rfl⟩) ?_
    refine (takeUntil_refuses (by simp [blockClose_eq]) ?_).bind
    rw [Cursor.rest_past hu.symm]
    rintro ⟨v, w, rfl⟩
    exact hb ⟨v, w, by rw [← hu]; simp⟩
  · exact (tag_refuses ho).bind

theorem lineComment_refuses {mark : Text} (h : ∀ x ∈ c.rest.head?, isLayout x = false)
    (hm : ¬ mark <+: c.rest) : Refuses (lineComment mark) c := by
  have h₀ := layout_exact.complete (List.nil_append c.rest).symm ⟨rfl, rfl, h⟩
  rw [Cursor.past_nil] at h₀
  exact .of_ok h₀ (tag_refuses hm).bind

theorem block_sound : Sound block (fun _ t _ => t ≠ []) := by
  have h := layout_exact.sound.bind fun _ =>
    (tag_exact (w := "/*") (by simp [blockOpen_eq])).sound.bind fun _ =>
      (takeUntil_exact blockClose_eq (by decide)).sound.bind fun body =>
        (tag_exact (w := "*/") (by simp [blockClose_eq])).sound.bind fun _ =>
          layout_exact.sound.bind fun _ => (Exact.pure body.trim).sound
  refine h.mono ?_
  rintro v t r ⟨_, l, _, rfl, -, _, _, _, rfl, ⟨-, rfl⟩, -⟩
  simp [blockOpen_eq]

theorem lineComment_sound {mark : Text} (hm : mark ∈ lineMarks) :
    Sound (lineComment mark) (fun _ t _ => t ≠ []) := by
  obtain ⟨x, u, rfl, -, -⟩ := exists_of_mem_lineMarks hm
  have h := layout_exact.sound.bind fun _ =>
    (tag_exact (w := x :: u) (by simp)).sound.bind fun _ =>
      restOfLine_exact.sound.bind fun body => (Exact.pure body.trim).sound
  refine h.mono ?_
  rintro v t r ⟨_, l, _, rfl, -, _, _, _, rfl, ⟨-, rfl⟩, -⟩
  simp

/-! ## 3. A comment of any kind -/

theorem comment_past (h : c.rest = t ++ r) (ht : t.all isLayout = true) :
    comment (c.past t) = comment c := by
  refine firstOf_congr (by simp) fun p hp => ?_
  rcases mem_alternatives.mp hp with rfl | ⟨mark, -, rfl⟩
  · exact layout_bind_past h ht
  · exact layout_bind_past h ht

theorem comment_refuses (h : ¬ Begins c.rest) : Refuses comment c := by
  have hl : ∀ x ∈ c.rest.head?, isLayout x = false := fun x hx =>
    Bool.eq_false_iff.mpr fun hlx => h (.inl ⟨x, hx, hlx⟩)
  refine firstOf_refuses fun p hp => ?_
  rcases mem_alternatives.mp hp with rfl | ⟨mark, hm, rfl⟩
  · exact block_refuses hl fun hb => h (.inr (.inr hb))
  · exact lineComment_refuses hl fun hp => h (.inr (.inl ⟨mark, hm, hp⟩))

theorem comment_of_block (h : c.rest = "/*" ++ (body ++ ("*/" ++ (t ++ r))))
    (hb : ¬ Text.of "*/" <:+: body) (ht : t.all isLayout = true)
    (hr : ∀ x ∈ r.head?, isLayout x = false) :
    comment c = .ok (body.trim, c.past ("/*" ++ (body ++ ("*/" ++ t)))) :=
  firstOf_ok_iff.mpr (.inl (block_ok h hb ht hr))

/-- No text begins with two marks of line comments. -/
theorem eq_of_prefix {m m' : Text} (hm : m ∈ lineMarks) (hm' : m' ∈ lineMarks) (h : m <+: t)
    (h' : m' <+: t) : m = m' := by
  obtain ⟨u, rfl⟩ := h
  rcases mem_lineMarks.mp hm with rfl | rfl | rfl <;>
    rcases mem_lineMarks.mp hm' with rfl | rfl | rfl <;> simp at h' ⊢

theorem comment_of_line {mark : Text} (hm : mark ∈ lineMarks) (h : c.rest = mark ++ (body ++ r))
    (hb : isOneLine body = true) (hr : ∀ x ∈ r.head?, isLineEnd x = true) :
    comment c = .ok (body.trim, c.past (mark ++ body)) := by
  have hl : ∀ x ∈ c.rest.head?, isLayout x = false := by
    obtain ⟨x, u, rfl, hx, -⟩ := exists_of_mem_lineMarks hm
    rw [h]
    simpa using hx
  have hok := lineComment_ok hm h hb hr
  refine firstOf_of_mem (mem_alternatives.mpr (.inr ⟨mark, hm, rfl⟩)) hok fun q hq => ?_
  rcases mem_alternatives.mp hq with rfl | ⟨mark', hm', rfl⟩
  · refine .inr (block_refuses hl ?_)
    rintro ⟨b, u, hu⟩
    rw [h, blockOpen_eq] at hu
    rcases mem_lineMarks.mp hm with rfl | rfl | rfl <;> simp at hu
  · by_cases hp : mark' <+: c.rest
    · obtain rfl := eq_of_prefix hm' hm hp (h ▸ List.prefix_append _ _)
      exact .inl hok
    · exact .inr (lineComment_refuses hl hp)

theorem comment_distance_lt {b : Text} (h : comment c = .ok (b, d)) : d.distance < c.distance := by
  have hs : Sound comment (fun _ t _ => t ≠ []) := by
    refine .firstOf fun p hp => ?_
    rcases mem_alternatives.mp hp with rfl | ⟨mark, hm, rfl⟩
    · exact block_sound
    · exact lineComment_sound hm
  obtain ⟨t, r, hr, rfl, ht⟩ := hs h
  exact Cursor.distance_past_lt hr ht

/-! ## 4. Comments as long as there are any -/

/-- Comments as long as there are any, and the white space behind them. -/
def gather : Parser (List Text) := do
  let bodies ← many comment
  let _ ← layout
  pure bodies

theorem gather_ok_iff :
    gather c = .ok (bodies, d) ↔
      ∃ e w, many comment c = .ok (bodies, e) ∧ layout e = .ok (w, d) := by
  rw [gather, bind_ok_iff]
  constructor
  · rintro ⟨bs, e, hm, h⟩
    obtain ⟨w, f, hl, hp⟩ := bind_ok_iff.mp h
    obtain ⟨rfl, rfl⟩ := pure_ok_iff.mp hp
    exact ⟨e, w, hm, hl⟩
  · rintro ⟨e, w, hm, hl⟩
    exact ⟨bodies, e, hm, by rw [bind_of_ok hl]; rfl⟩

theorem gather_cons {b : Text} {e : Cursor} (h : comment c = .ok (b, e))
    (hg : gather e = .ok (bodies, d)) : gather c = .ok (b :: bodies, d) := by
  obtain ⟨f, w, hm, hl⟩ := gather_ok_iff.mp hg
  exact gather_ok_iff.mpr ⟨f, w, many_of_ok h (comment_distance_lt h) hm, hl⟩

theorem gather_of_refuses {w : Text} (h : Refuses comment c) (hl : layout c = .ok (w, d)) :
    gather c = .ok ([], d) :=
  gather_ok_iff.mpr ⟨c, w, many_of_refuses h, hl⟩

theorem gather_total (c : Cursor) : ∃ bodies d, gather c = .ok (bodies, d) := by
  obtain ⟨bs, e, hm⟩ := comment_mild.many c
  exact ⟨bs, _, gather_ok_iff.mpr ⟨e, _, hm, rfl⟩⟩

theorem gather_past (h : c.rest = t ++ r) (ht : t.all isLayout = true) :
    gather (c.past t) = gather c := by
  have hc := comment_past h ht
  rcases comment_mild c with ⟨b, e, hb⟩ | hr
  · obtain ⟨bs, f, hg⟩ := gather_total e
    rw [gather_cons hb hg, gather_cons (hc.trans hb) hg]
  · obtain ⟨v, w, f, hv, hw⟩ := layout_past h ht
    have hr' : Refuses comment (c.past t) := by rwa [Refuses, hc]
    rw [gather_of_refuses hr hv, gather_of_refuses hr' hw]

/-- **The loop reads every gap**: one case for each way in which a gap can begin. -/
theorem gather_complete : Complete gather Gap := by
  intro c bodies t r hr h
  induction h generalizing c with
  | stop h =>
    have hl := layout_exact.complete hr ⟨rfl, rfl, fun x hx =>
      Bool.eq_false_iff.mpr fun hlx => h (.inl ⟨x, hx, hlx⟩)⟩
    exact gather_of_refuses (comment_refuses (by simpa [hr] using h)) hl
  | @layout x bodies t r hx hg ih =>
    have hc : c.rest = [x] ++ (t ++ r) := hr
    rw [← gather_past hc (by simpa using hx), ih (Cursor.rest_past hc), Cursor.past_past]
    rfl
  | @block body bodies t r hb hg ih =>
    -- the white space behind a block is read with it, so the loop goes on behind that
    have hc : c.rest = ("/*" ++ (body ++ Text.of "*/")) ++ (t ++ r) := by simpa using hr
    obtain ⟨l, u, hlu, hl, hu⟩ := Text.exists_span isLayout (t ++ r)
    have hcom := comment_of_block (by rw [hc, hlu]; simp) hb hl hu
    have hg' := ih (Cursor.rest_past hc)
    rw [← gather_past (by rw [Cursor.rest_past hc, hlu]) hl, Cursor.past_past] at hg'
    exact gather_cons hcom (by simpa using hg')
  | @line mark body bodies t r hm hb hx hg ih =>
    have hc : c.rest = (mark ++ body) ++ (t ++ r) := by simpa using hr
    have hcom := comment_of_line hm (by simpa using hc) hb hx
    rw [gather_cons hcom (ih (Cursor.rest_past hc)), Cursor.past_past, List.append_assoc]

/-! ## 5. The parsers of filler -/

theorem documentation_eq_gather (c : Cursor) : documentation c = gather c := by
  obtain ⟨w, d, hl⟩ : ∃ w d, layout c = .ok (w, d) := ⟨_, _, rfl⟩
  obtain ⟨t, r, hr, rfl, rfl, ht, hhead⟩ := layout_exact.sound hl
  have hd : layout (c.past w) = .ok ([], c.past w) := by
    have h0 := layout_exact.complete (List.nil_append (c.past w).rest).symm
      ⟨rfl, rfl, by rwa [Cursor.rest_past hr]⟩
    rwa [Cursor.past_nil] at h0
  rw [← gather_past hr ht]
  rcases comment_mild (c.past w) with ⟨b, e, hb⟩ | href
  · obtain ⟨bs, f, hg⟩ := gather_total e
    obtain ⟨e', w', hm, hl'⟩ := gather_ok_iff.mp hg
    rw [gather_cons hb hg]
    refine firstOf_ok_iff.mpr (.inl ?_)
    rw [comments, bind_of_ok hl, many1]
    exact bind_ok_iff.mpr ⟨b :: bs, e',
      bind_ok_iff.mpr ⟨b, e, hb, by rw [bind_of_ok hm]; rfl⟩, by rw [bind_of_ok hl']; rfl⟩
  · rw [gather_of_refuses href hd]
    refine firstOf_ok_iff.mpr (.inr ⟨Refuses.of_ok hl ?_, firstOf_ok_iff.mpr (.inl ?_)⟩)
    · exact href.bind.bind
    · rw [bind_of_ok hl]
      rfl

/-- **Documentation is the filler in front of a cursor, all of it.** -/
theorem documentation_exact : Exact documentation Gap := by
  have hcomp : Complete documentation Gap := fun c bs t r hr hg => by
    rw [documentation_eq_gather]
    exact gather_complete hr hg
  refine ⟨fun c v c' h => ?_, hcomp⟩
  obtain ⟨bs, t, r, hr, hg⟩ := exists_gap c.rest
  rw [hcomp hr hg] at h
  obtain ⟨rfl, rfl⟩ := Prod.mk.inj (Except.ok.inj h)
  exact ⟨t, r, hr, rfl, hg⟩

theorem skip_exact : Exact skip (fun _ t r => ∃ bodies, Gap bodies t r) := by
  refine (documentation_exact.bind fun _ => Exact.pure ()).congr fun v t r => ?_
  constructor
  · rintro ⟨bs, t, u, rfl, hg, -, rfl⟩
    exact ⟨bs, by simpa using hg⟩
  · rintro ⟨bs, hg⟩
    exact ⟨bs, t, [], by simp, by simpa using hg, rfl, rfl⟩

/-! ## 6. Filler that must not be missing -/

theorem documentation_ok_iff :
    documentation c = .ok (bodies, d) ↔
      comments c = .ok (bodies, d) ∨
        Refuses comments c ∧ bodies = [] ∧ ∃ w, layout c = .ok (w, d) := by
  rw [documentation, firstOf_ok_iff, firstOf_ok_iff]
  refine or_congr Iff.rfl (and_congr Iff.rfl ⟨?_, ?_⟩)
  · rintro (h | ⟨-, h⟩)
    · obtain ⟨w, e, hl, hp⟩ := bind_ok_iff.mp h
      obtain ⟨rfl, rfl⟩ := pure_ok_iff.mp hp
      exact ⟨rfl, w, hl⟩
    · exact absurd h not_firstOf_nil_ok
  · rintro ⟨rfl, w, hl⟩
    exact .inl (by rw [bind_of_ok hl]; rfl)

theorem skip1_ok_iff {v : Unit} :
    skip1 c = .ok (v, d) ↔
      (∃ bodies, comments c = .ok (bodies, d)) ∨
        Refuses comments c ∧ ∃ w, layout1 c = .ok (w, d) := by
  rw [skip1, firstOf_ok_iff, firstOf_ok_iff, refuses_bind_pure_iff (f := fun _ => ())]
  refine or_congr ⟨?_, ?_⟩ (and_congr Iff.rfl ⟨?_, ?_⟩)
  · intro h
    obtain ⟨bs, e, hc, hp⟩ := bind_ok_iff.mp h
    obtain ⟨rfl, rfl⟩ := pure_ok_iff.mp hp
    exact ⟨bs, hc⟩
  · rintro ⟨bs, hc⟩
    rw [bind_of_ok hc]
    rfl
  · rintro (h | ⟨-, h⟩)
    · obtain ⟨w, e, hl, hp⟩ := bind_ok_iff.mp h
      obtain ⟨rfl, rfl⟩ := pure_ok_iff.mp hp
      exact ⟨w, hl⟩
    · exact absurd h not_firstOf_nil_ok
  · rintro ⟨w, hl⟩
    exact .inl (by rw [bind_of_ok hl]; rfl)

/-- Where no filler begins there is no comment. -/
theorem comments_refuses (h : ¬ Begins c.rest) : Refuses comments c := by
  have hl := layout_exact.complete (List.nil_append c.rest).symm ⟨rfl, rfl, fun x hx =>
    Bool.eq_false_iff.mpr fun hlx => h (.inl ⟨x, hx, hlx⟩)⟩
  rw [Cursor.past_nil] at hl
  exact .of_ok hl (comment_refuses h).bind.bind

/-- A gap of at least one character. -/
theorem skip1_exact : Exact skip1 (fun _ t r => t ≠ [] ∧ ∃ bodies, Gap bodies t r) := by
  have hlayout1 : Exact layout1 _ := takeWhile1_exact isLayout "whitespace"
  constructor
  · intro c v c' h
    rcases skip1_ok_iff.mp h with ⟨bs, hc⟩ | ⟨href, w, hl⟩
    · obtain ⟨t, r, hr, rfl, hg⟩ := documentation_exact.sound (documentation_ok_iff.mpr (.inl hc))
      refine ⟨t, r, hr, rfl, ?_, bs, hg⟩
      rintro rfl
      obtain ⟨f, hf, -⟩ := comments_refuses (c := c) (by simpa [hr] using hg.not_begins)
      exact absurd (hf.symm.trans hc) (by simp)
    · obtain ⟨t, r, hr, rfl, rfl, hne, ht, hhead⟩ := hlayout1.sound hl
      have hdoc : documentation c = .ok ([], c.past w) := documentation_ok_iff.mpr
        (.inr ⟨href, rfl, w, layout_exact.complete hr ⟨rfl, ht, hhead⟩⟩)
      obtain ⟨u, s, hu, he, hg⟩ := documentation_exact.sound hdoc
      obtain rfl := Cursor.past_inj hr hu he
      obtain rfl := List.append_cancel_left (hr.symm.trans hu)
      exact ⟨w, r, hr, rfl, hne, [], hg⟩
  · rintro c v t r hr ⟨hne, bs, hg⟩
    rcases documentation_ok_iff.mp (documentation_exact.complete hr hg) with hc | ⟨href, -, w, hl⟩
    · exact skip1_ok_iff.mpr (.inl ⟨bs, hc⟩)
    · obtain ⟨u, s, hu, he, rfl, ht, hhead⟩ := layout_exact.sound hl
      obtain rfl := Cursor.past_inj hr hu he
      exact skip1_ok_iff.mpr (.inr ⟨href, t, hlayout1.complete hu ⟨rfl, hne, ht, hhead⟩⟩)

end StoredFunctions.Filler
