/-
# Filler as a grammar

Filler is any concatenation of white space, of comments `/* … */`, and of line comments with the
line end behind them (`Run`).  A parser that skips filler takes as much of it as there is, so what
it takes depends on what follows: `Gap` adds that no further piece of filler begins there, and
allows the last line of a document to be a comment without a line end.

* `exists_gap`: every text begins with a gap, possibly empty;
* `Gap.run`: in front of anything but the end of the document a gap is a run;
* `Run.gap`: a run in front of something that begins no filler is a gap;
* `Gap.newline`: a gap at the end of the document is a run once a line end is put behind it.
-/
import StoredFunctions.Proofs.Reading.Choice
import StoredFunctions.Source.Filler

namespace StoredFunctions.Filler

/-! ## 1. Marks -/

/-- What begins a comment that runs to the end of its line. -/
def lineMarks : List Text := ["//", "--", "#"]

/-- The characters that a piece of filler can begin with. -/
def isOpener (x : Char) : Bool := isLayout x || x == '/' || x == '-' || x == '#'

/-- Whether a text holds no line end. -/
def isOneLine (t : Text) : Bool := t.all fun x => !isLineEnd x

theorem blockOpen_eq : Text.of "/*" = ['/', '*'] := by rw [Text.of_eq]; rfl

theorem blockClose_eq : Text.of "*/" = ['*', '/'] := by rw [Text.of_eq]; rfl

theorem mem_lineMarks {m : Text} :
    m ∈ lineMarks ↔ m = ['/', '/'] ∨ m = ['-', '-'] ∨ m = ['#'] := by
  simp [lineMarks, Text.of_eq]

/-- A mark begins with an opener that is no white space. -/
theorem exists_of_mem_lineMarks {m : Text} (h : m ∈ lineMarks) :
    ∃ x t, m = x :: t ∧ isLayout x = false ∧ isOpener x = true := by
  rcases mem_lineMarks.mp h with rfl | rfl | rfl
  · exact ⟨'/', ['/'], rfl, by decide, by decide⟩
  · exact ⟨'-', ['-'], rfl, by decide, by decide⟩
  · exact ⟨'#', [], rfl, by decide, by decide⟩

/-! ## 2. Runs and gaps -/

/-- Filler, with the trimmed texts of its comments. -/
inductive Run : List Text → Text → Prop
  | nil : Run [] []
  | layout {x : Char} {bodies : List Text} {t : Text} :
      isLayout x = true → Run bodies t → Run bodies (x :: t)
  | block {body : Text} {bodies : List Text} {t : Text} :
      ¬ Text.of "*/" <:+: body → Run bodies t →
        Run (body.trim :: bodies) ("/*" ++ (body ++ ("*/" ++ t)))
  | line {mark body : Text} {x : Char} {bodies : List Text} {t : Text} :
      mark ∈ lineMarks → isOneLine body = true → isLineEnd x = true → Run bodies t →
        Run (body.trim :: bodies) (mark ++ (body ++ x :: t))

/-- Filler, whatever its comments say. -/
def IsFiller (t : Text) : Prop := ∃ bodies, Run bodies t

/-- Whether a text begins with a piece of filler. -/
def Begins (r : Text) : Prop :=
  (∃ x ∈ r.head?, isLayout x = true) ∨ (∃ mark ∈ lineMarks, mark <+: r) ∨
    ∃ body rest, r = "/*" ++ (body ++ ("*/" ++ rest))

/-- All the filler in front of `r`, with the trimmed texts of its comments. -/
inductive Gap : Grammar (List Text)
  | stop {r : Text} : ¬ Begins r → Gap [] [] r
  | layout {x : Char} {bodies : List Text} {t r : Text} :
      isLayout x = true → Gap bodies t r → Gap bodies (x :: t) r
  | block {body : Text} {bodies : List Text} {t r : Text} :
      ¬ Text.of "*/" <:+: body → Gap bodies t r →
        Gap (body.trim :: bodies) ("/*" ++ (body ++ ("*/" ++ t))) r
  | line {mark body : Text} {bodies : List Text} {t r : Text} :
      mark ∈ lineMarks → isOneLine body = true →
        (∀ x ∈ (t ++ r).head?, isLineEnd x = true) → Gap bodies t r →
          Gap (body.trim :: bodies) (mark ++ (body ++ t)) r

/-! ## 3. Beginnings -/

/-- White space begins no comment in a block. -/
theorem not_isLayout_of_block {x : Char} {t u : Text} (h : x :: t = "/*" ++ u) :
    isLayout x = false := by
  rw [blockOpen_eq] at h
  obtain ⟨rfl, -⟩ := List.cons.inj h
  decide

/-- White space begins no comment on a line. -/
theorem not_isLayout_of_lineMark {m t u : Text} {x : Char} (hm : m ∈ lineMarks)
    (h : x :: t = m ++ u) : isLayout x = false := by
  obtain ⟨y, v, rfl, hy, -⟩ := exists_of_mem_lineMarks hm
  obtain ⟨rfl, -⟩ := List.cons.inj h
  exact hy

/-- A piece of filler begins with an opener. -/
theorem Begins.exists_head {t : Text} (h : Begins t) :
    ∃ x u, t = x :: u ∧ isOpener x = true := by
  rcases h with ⟨x, hx, hl⟩ | ⟨m, hm, s, rfl⟩ | ⟨b, s, rfl⟩
  · obtain ⟨u, rfl⟩ := List.head?_eq_some_iff.mp hx
    exact ⟨x, u, rfl, by simp [isOpener, hl]⟩
  · obtain ⟨x, u, rfl, -, hx⟩ := exists_of_mem_lineMarks hm
    exact ⟨x, u ++ s, rfl, hx⟩
  · exact ⟨'/', '*' :: (b ++ ("*/" ++ s)), by rw [blockOpen_eq]; rfl, by decide⟩

theorem Begins.head {t : Text} (h : Begins t) : ∀ x ∈ t.head?, isOpener x = true := by
  obtain ⟨x, u, rfl, hx⟩ := h.exists_head
  rintro y ⟨⟩
  exact hx

/-- A text whose first character is no opener begins no filler. -/
theorem not_begins_of_head {r : Text} (h : ∀ x ∈ r.head?, isOpener x = false) : ¬ Begins r := by
  intro hr
  obtain ⟨x, u, rfl, hx⟩ := hr.exists_head
  exact absurd (hx.symm.trans (h x rfl)) (by decide)

theorem not_begins_nil : ¬ Begins [] := not_begins_of_head (by simp)

theorem begins_layout {x : Char} {t : Text} (h : isLayout x = true) : Begins (x :: t) :=
  .inl ⟨x, rfl, h⟩

theorem begins_block (body rest : Text) : Begins ("/*" ++ (body ++ ("*/" ++ rest))) :=
  .inr (.inr ⟨body, rest, rfl⟩)

theorem begins_line {mark : Text} (h : mark ∈ lineMarks) (rest : Text) : Begins (mark ++ rest) :=
  .inr (.inl ⟨mark, h, rest, rfl⟩)

/-! ## 4. Runs -/

theorem Run.append {as bs : List Text} {t u : Text} (h : Run as t) (hu : Run bs u) :
    Run (as ++ bs) (t ++ u) := by
  induction h with
  | nil => exact hu
  | layout hx _ ih => exact .layout hx ih
  | block hb _ ih =>
    simp only [List.append_assoc, List.cons_append]
    exact .block hb ih
  | line hm hb hx _ ih =>
    simp only [List.append_assoc, List.cons_append]
    exact .line hm hb hx ih

theorem Run.of_layout {t : Text} (h : t.all isLayout = true) : Run [] t := by
  induction t with
  | nil => exact .nil
  | cons x t ih =>
    obtain ⟨hx, ht⟩ : isLayout x = true ∧ t.all isLayout = true := by simpa using h
    exact .layout hx (ih ht)

theorem isFiller_nil : IsFiller [] := ⟨[], .nil⟩

theorem isFiller_space : IsFiller " " := by
  rw [Text.of_eq]
  exact ⟨[], .of_layout (by decide)⟩

theorem IsFiller.append {t u : Text} (h : IsFiller t) (hu : IsFiller u) : IsFiller (t ++ u) := by
  obtain ⟨as, ha⟩ := h
  obtain ⟨bs, hb⟩ := hu
  exact ⟨as ++ bs, ha.append hb⟩

/-! ## 5. What begins no filler -/

/-- A text that begins with a character, and with one that begins no filler. -/
def Solid (s : Text) : Prop := ∃ x u, s = x :: u ∧ isOpener x = false

theorem Solid.not_begins {s : Text} (h : Solid s) : ¬ Begins s := by
  obtain ⟨x, u, rfl, hx⟩ := h
  exact not_begins_of_head (by simpa using hx)

theorem Solid.append {s t : Text} (h : Solid s) : Solid (s ++ t) := by
  obtain ⟨x, u, rfl, hx⟩ := h
  exact ⟨x, u ++ t, rfl, hx⟩

/-! ## 6. Gaps and runs -/

theorem Gap.not_begins {bodies : List Text} {t r : Text} (h : Gap bodies t r) : ¬ Begins r := by
  induction h with
  | stop h => exact h
  | layout _ _ ih => exact ih
  | block _ _ ih => exact ih
  | line _ _ _ _ ih => exact ih

theorem Run.gap {bodies : List Text} {t r : Text} (h : Run bodies t) (hr : ¬ Begins r) :
    Gap bodies t r := by
  induction h with
  | nil => exact .stop hr
  | layout hx _ ih => exact .layout hx ih
  | block hb _ ih => exact .block hb ih
  | line hm hb hx _ ih =>
    refine .line hm hb ?_ (.layout (isLayout_of_isLineEnd hx) ih)
    rintro y hy
    obtain rfl : _ = y := by simpa using hy
    exact hx

/-- Where no filler begins the gap is empty. -/
theorem Gap.eq_nil {bodies : List Text} {t r : Text} (h : Gap bodies t r) (hn : ¬ Begins (t ++ r)) :
    t = [] := by
  cases h with
  | stop _ => rfl
  | layout hx _ => exact absurd (begins_layout hx) hn
  | block _ _ =>
    simp only [List.append_assoc] at hn
    exact absurd (begins_block _ _) hn
  | line hm _ _ _ =>
    rw [List.append_assoc] at hn
    exact absurd (begins_line hm _) hn

/-- A gap at the start of the text begins with an opener. -/
theorem Gap.head {bodies : List Text} {t r : Text} (h : Gap bodies t r) :
    ∀ x ∈ t.head?, isOpener x = true := by
  cases h with
  | stop _ => simp
  | layout hx _ => exact (begins_layout hx).head
  | block _ _ => exact (begins_block _ _).head
  | line hm _ _ _ => exact (begins_line hm _).head

theorem Gap.layouts {bodies : List Text} {l t r : Text} (h : Gap bodies t r)
    (hl : l.all isLayout = true) : Gap bodies (l ++ t) r := by
  induction l with
  | nil => exact h
  | cons x l ih =>
    obtain ⟨hx, hl⟩ : isLayout x = true ∧ l.all isLayout = true := by simpa using hl
    exact .layout hx (ih hl)

/-- White space at the start of a gap leaves a gap. -/
theorem Gap.tail {bodies : List Text} {x : Char} {t r : Text} (h : Gap bodies (x :: t) r)
    (hx : isLayout x = true) : Gap bodies t r := by
  generalize hu : x :: t = u at h
  cases h with
  | stop _ => exact absurd hu (by simp)
  | layout _ h =>
    obtain ⟨rfl, rfl⟩ := List.cons.inj hu
    exact h
  | block _ _ => exact absurd hx (by simp [not_isLayout_of_block hu])
  | line hm _ _ _ => exact absurd hx (by simp [not_isLayout_of_lineMark hm hu])

theorem Gap.drop_layout {bodies : List Text} {l t r : Text} (h : Gap bodies (l ++ t) r)
    (hl : l.all isLayout = true) : Gap bodies t r := by
  induction l with
  | nil => exact h
  | cons x l ih =>
    obtain ⟨hx, hl⟩ : isLayout x = true ∧ l.all isLayout = true := by simpa using hl
    exact ih (h.tail hx) hl

/-- **Only the end of the document can cut a line comment short.**  The induction is on the length
of the gap, since the line end behind a comment is taken off what follows it. -/
theorem Gap.run {bodies : List Text} {t r : Text} (h : Gap bodies t r) (hr : r ≠ []) :
    Run bodies t := by
  induction hn : t.length using Nat.strongRecOn generalizing bodies t with
  | ind n ih =>
    subst hn
    cases h with
    | stop _ => exact .nil
    | layout hx h => exact .layout hx (ih _ (by simp) h rfl)
    | block hb h => exact .block hb (ih _ (by simp [blockOpen_eq]; omega) h rfl)
    | @line mark body bodies t _ hm hb hx h =>
      cases t with
      | nil =>
        -- a line end would be white space in front of `r`, which the gap leaves none of
        obtain ⟨x, r, rfl⟩ := List.exists_cons_of_ne_nil hr
        exact absurd (begins_layout (isLayout_of_isLineEnd (hx x (by simp)))) h.not_begins
      | cons x t =>
        have he : isLineEnd x = true := hx x (by simp)
        exact .line hm hb he (ih _ (by simp; omega) (h.tail (isLayout_of_isLineEnd he)) rfl)

/-- A run is a gap in front of a semicolon. -/
theorem run_iff_gap {bodies : List Text} {t : Text} : Run bodies t ↔ Gap bodies t [';'] :=
  ⟨fun h => h.gap (not_begins_of_head (by simp [isOpener, isLayout])), fun h => h.run (by simp)⟩

/-- Filler begins with an opener. -/
theorem Run.head {bodies : List Text} {t : Text} (h : Run bodies t) :
    ∀ x ∈ t.head?, isOpener x = true :=
  (run_iff_gap.mp h).head

/-- White space at the start of a run is filler of its own. -/
theorem Run.tail {bodies : List Text} {x : Char} {t : Text} (h : Run bodies (x :: t))
    (hx : isLayout x = true) : Run bodies t :=
  run_iff_gap.mpr ((run_iff_gap.mp h).tail hx)

/-- So is a run behind any amount of white space. -/
theorem Run.drop_layout {bodies : List Text} {l t : Text} (h : Run bodies (l ++ t))
    (hl : l.all isLayout = true) : Run bodies t :=
  run_iff_gap.mpr ((run_iff_gap.mp h).drop_layout hl)

/-- In front of something solid, the filler that a parser skips is just filler. -/
theorem Solid.gap_iff {s t : Text} (h : Solid s) : (∃ bodies, Gap bodies t s) ↔ IsFiller t := by
  constructor
  · rintro ⟨bs, hg⟩
    obtain ⟨x, u, rfl, -⟩ := h
    exact ⟨bs, hg.run (by simp)⟩
  · rintro ⟨bs, hf⟩
    exact ⟨bs, hf.gap h.not_begins⟩

/-- At the end of the document a gap is a run, or a run and a comment on the last line. -/
theorem Gap.ending {bodies : List Text} {t : Text} (h : Gap bodies t []) :
    IsFiller t ∨ ∃ f mark body, IsFiller f ∧ mark ∈ lineMarks ∧ isOneLine body = true ∧
      t = f ++ (mark ++ body) := by
  generalize hr : ([] : Text) = r at h
  induction h with
  | stop _ => exact .inl ⟨[], .nil⟩
  | @layout x bodies t r hx _ ih =>
    rcases ih hr with ⟨bs, h⟩ | ⟨f, mark, body, ⟨bs, hf⟩, hm, hb, rfl⟩
    · exact .inl ⟨bs, .layout hx h⟩
    · exact .inr ⟨x :: f, mark, body, ⟨bs, .layout hx hf⟩, hm, hb, rfl⟩
  | @block b bodies t r hb _ ih =>
    rcases ih hr with ⟨bs, h⟩ | ⟨f, mark, body, ⟨bs, hf⟩, hm, hbody, rfl⟩
    · exact .inl ⟨_, .block hb h⟩
    · exact .inr ⟨_, mark, body, ⟨_, .block hb hf⟩, hm, hbody, by simp⟩
  | @line mark b bodies t r hm hb hx _ ih =>
    subst hr
    cases t with
    | nil => exact .inr ⟨[], mark, b, ⟨[], .nil⟩, hm, hb, by simp⟩
    | cons x t =>
      have he : isLineEnd x = true := hx x (by simp)
      rcases ih rfl with ⟨bs, h⟩ | ⟨f, mark', body, ⟨bs, hf⟩, hm', hbody, hxt⟩
      · exact .inl ⟨_, .line hm hb he (h.tail (isLayout_of_isLineEnd he))⟩
      · cases f with
        | nil =>
          exact absurd (isLayout_of_isLineEnd he) (by simp [not_isLayout_of_lineMark hm' hxt])
        | cons y f =>
          obtain ⟨rfl, rfl⟩ := List.cons.inj hxt
          have hf' := hf.tail (isLayout_of_isLineEnd he)
          exact .inr ⟨_, mark', body, ⟨_, .line hm hb he hf'⟩, hm', hbody, by simp⟩

/-- A line end completes the comment that the end of the document cut short. -/
theorem Gap.newline {bodies : List Text} {t r : Text} (h : Gap bodies t r) (hr : r = []) :
    Run bodies (t ++ ['\n']) := by
  induction h with
  | stop _ => exact .layout (by decide) .nil
  | layout hx _ ih => exact .layout hx (ih hr)
  | block hb _ ih =>
    simp only [List.append_assoc]
    exact .block hb (ih hr)
  | @line mark b bodies t r hm hb hx _ ih =>
    subst hr
    simp only [List.append_assoc]
    cases t with
    | nil => exact .line hm hb (by decide) ((ih rfl).tail (by decide))
    | cons x t =>
      have he : isLineEnd x = true := hx x (by simp)
      exact .line hm hb he ((ih rfl).tail (isLayout_of_isLineEnd he))

/-- A run and a comment on the last line are a gap at the end of the document. -/
theorem Run.gap_last {bodies : List Text} {f mark body : Text} (h : Run bodies f)
    (hm : mark ∈ lineMarks) (hb : isOneLine body = true) :
    ∃ bs, Gap bs (f ++ (mark ++ body)) [] := by
  induction h with
  | nil =>
    have h := Gap.line hm hb (t := []) (r := []) (by simp) (.stop not_begins_nil)
    exact ⟨_, by simpa using h⟩
  | layout hx _ ih =>
    obtain ⟨bs, ih⟩ := ih
    exact ⟨bs, .layout hx ih⟩
  | block hb' _ ih =>
    obtain ⟨bs, ih⟩ := ih
    exact ⟨_, by simpa using Gap.block hb' ih⟩
  | line hm' hb' hx _ ih =>
    obtain ⟨bs, ih⟩ := ih
    have h := Gap.line hm' hb' (by simpa using hx) (.layout (isLayout_of_isLineEnd hx) ih)
    exact ⟨_, by simpa using h⟩

/-! ## 7. Every text begins with a gap -/

/-- **The filler at the start of a text.**  The induction is on the length of the text, since a
comment takes more than one character at a time. -/
theorem exists_gap (s : Text) : ∃ bodies t r, s = t ++ r ∧ Gap bodies t r := by
  induction hn : s.length using Nat.strongRecOn generalizing s with
  | ind n ih =>
    subst hn
    by_cases hs : Begins s
    · rcases hs with ⟨x, hx, hl⟩ | ⟨m, hm, u, rfl⟩ | ⟨b, u, hb⟩
      · obtain ⟨u, rfl⟩ := List.head?_eq_some_iff.mp hx
        obtain ⟨bs, t, r, rfl, hg⟩ := ih u.length (by simp) u rfl
        exact ⟨bs, x :: t, r, rfl, .layout hl hg⟩
      · obtain ⟨body, v, rfl, hbody, hv⟩ := Text.exists_span (fun x => !isLineEnd x) u
        have hlt : v.length < (m ++ (body ++ v)).length := by
          obtain ⟨x, w, rfl, -, -⟩ := exists_of_mem_lineMarks hm
          simp only [List.length_append, List.length_cons]
          omega
        obtain ⟨bs, t, r, rfl, hg⟩ := ih _ hlt _ rfl
        exact ⟨_, m ++ (body ++ t), r, by simp, .line hm hbody (by simpa using hv) hg⟩
      · -- a block ends at the first closing mark, which need not be the one that is given
        have hinf : Text.of "*/" <:+: b ++ ("*/" ++ u) := ⟨b, u, by simp⟩
        have hne : Text.of "*/" ≠ [] := by simp [blockClose_eq]
        obtain ⟨n, hn⟩ := Option.ne_none_iff_exists'.mp
          fun h => (Text.indexOf?_eq_none_iff hne).mp h hinf
        obtain ⟨body, rest, hrest, -, hbody⟩ := Text.eq_append_of_indexOf? hne hn
        have hlt : rest.length < s.length := by
          rw [hb, hrest]
          simp only [List.length_append, blockOpen_eq, List.length_cons]
          omega
        obtain ⟨bs, t, r, rfl, hg⟩ := ih rest.length hlt rest rfl
        exact ⟨_, _, r, by rw [hb, hrest]; simp, .block hbody hg⟩
    · exact ⟨[], [], s, rfl, .stop hs⟩

end StoredFunctions.Filler
