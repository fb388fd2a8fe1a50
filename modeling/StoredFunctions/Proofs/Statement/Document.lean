/-
# Reading documents

A document is parsed to the statements that it spells (`parseAll_complete`), and to nothing else
(`parseAll_sound`), whatever the text; and so is a text that holds one definition
(`parse_complete`, `parse_sound`).

The parser reads the semicolons of a statement as a separator, in front of another definition, or
as the end, in front of anything else, and it takes the white space behind them in either case.
The grammar leaves that white space to what follows.  So a definition has to be movable over white
space in front of it (`Definition.layout`, `Definition.exists_layout`), and a list of definitions
is rearranged from "definition, terminator" to "terminator, definition" (`exists_star`,
`definitions_of_star`).
-/
import StoredFunctions.Proofs.Outcome
import StoredFunctions.Proofs.Statement.Definition

namespace StoredFunctions.Statement

open StoredFunctions.Parser Filler Punctuation

variable {c : Cursor} {d e l r s t u : Text} {st : Statement} {sts : List Statement}

/-! ## 1. White space in front -/

theorem Definition.layout (h : Definition st d r) (hl : l.all isLayout = true) :
    Definition st (l ++ d) r := by
  obtain ⟨_, b, rfl, hh, hb⟩ := h
  cases hh with
  | intro hrun hdefine hne₁ hf₁ hfunction hne₂ hf₂ hpath hf₃ hps hf₄ =>
    have hheader := Header.intro ((Run.of_layout hl).append hrun) hdefine hne₁ hf₁ hfunction
      hne₂ hf₂ hpath hf₃ hps hf₄
    exact ⟨_, b, by simp only [List.append_assoc], hheader, hb⟩

/-- A header without the white space at its start. -/
theorem Header.exists_layout (h : Header st t) :
    ∃ l t', t = l ++ t' ∧ l.all isLayout = true ∧ Header st t' ∧
      ∀ x ∈ (t' ++ s).head?, isLayout x = false := by
  cases h with
  | @intro lead define _ _ _ _ _ _ hrun hdefine hne₁ hf₁ hfunction hne₂ hf₂ hpath hf₃ hps hf₄ =>
    obtain ⟨l, lead, rfl, hl, hhead⟩ := Text.exists_span isLayout lead
    refine ⟨l, _, by simp only [List.append_assoc], hl, .intro (hrun.drop_layout hl) hdefine hne₁
      hf₁ hfunction hne₂ hf₂ hpath hf₃ hps hf₄, ?_⟩
    cases lead with
    | nil =>
      obtain ⟨y, v, rfl, hy⟩ := (isWord_define hdefine).solid
      rintro x ⟨⟩
      exact Bool.eq_false_iff.mpr fun hx => by simp [isOpener, hx] at hy
    | cons z lead => exact hhead

/-- A header is comments and then a word. -/
theorem Header.exists_lead (h : Header st t) :
    ∃ lead x k, t = lead ++ x :: k ∧ Run st.comments lead ∧ isWordChar x = true := by
  cases h with
  | @intro lead define _ _ _ _ _ _ hrun hdefine =>
    obtain ⟨hne, hall⟩ := isWord_define hdefine
    obtain ⟨x, k, rfl⟩ := List.exists_cons_of_ne_nil hne
    exact ⟨lead, x, _, rfl, hrun, List.all_eq_true.mp hall x (by simp)⟩

/-- No header begins with a semicolon. -/
theorem Header.head (h : Header st t) : ';' ∉ (t ++ s).head? := by
  obtain ⟨lead, x, k, rfl, hrun, hx⟩ := h.exists_lead
  cases lead with
  | nil =>
    rintro ⟨⟩
    exact absurd hx (by decide)
  | cons z lead =>
    rintro ⟨⟩
    exact absurd (hrun.head _ rfl) (by decide)

/-- A header is not filler. -/
theorem Header.not_gap {bodies : List Text} (h : Header st t) : ¬ Gap bodies (t ++ s) [] := by
  intro hg
  obtain ⟨lead, x, k, rfl, hrun, hx⟩ := h.exists_lead
  have hsolid : Solid (x :: k ++ s) := ⟨x, k ++ s, rfl, isOpener_of_isWordChar hx⟩
  have hlead := hrun.gap hsolid.not_begins
  obtain ⟨-, -, hnil⟩ := documentation_exact.complete.unique hg hlead (by simp)
  exact absurd hnil (by simp)

theorem Definition.exists_layout (h : Definition st d r) :
    ∃ l d', d = l ++ d' ∧ l.all isLayout = true ∧ Definition st d' r ∧
      ∀ x ∈ (d' ++ s).head?, isLayout x = false := by
  obtain ⟨h, b, rfl, hh, hb⟩ := h
  obtain ⟨l, h, rfl, hl, hh, hhead⟩ := hh.exists_layout (s := b ++ s)
  exact ⟨l, h ++ b, by simp, hl, ⟨h, b, rfl, hh, hb⟩, by simpa using hhead⟩

theorem Definition.head (h : Definition st d r) : ';' ∉ (d ++ s).head? := by
  obtain ⟨h, b, rfl, hh, -⟩ := h
  rw [List.append_assoc]
  exact hh.head

theorem ending_iff : Ending e ↔ ∃ bodies, Gap bodies e [] := by
  constructor
  · intro h
    cases h with
    | filler hf =>
      obtain ⟨bodies, hf⟩ := hf
      exact ⟨bodies, hf.gap not_begins_nil⟩
    | comment hf hm hb =>
      obtain ⟨bodies, hf⟩ := hf
      exact hf.gap_last hm hb
  · rintro ⟨bodies, h⟩
    rcases h.ending with hf | ⟨f, mark, body, hf, hm, hb, rfl⟩
    · exact .filler hf
    · exact .comment hf hm hb

/-! ## 2. Terminators between definitions -/

/-- A definition with the terminator of the one before in front. -/
def Next : Grammar Statement := fun st t r =>
  ∃ e d, t = e ++ d ∧ Terminator e ∧ Definition st d r

theorem next_sound : Sound (do terminator; definition) Next := by
  refine (terminator_sound.bind fun _ => definition_sound).mono ?_
  rintro st t r ⟨_, _, d, rfl, ⟨e, l, rfl, he, hl⟩, hd⟩
  exact ⟨e, l ++ d, by simp, he, hd.layout hl⟩

theorem next_complete : Complete (do terminator; definition) Next := by
  rintro c st t r hr ⟨e, d, rfl, he, hd⟩
  obtain ⟨l, d, rfl, hl, hd', hhead⟩ := hd.exists_layout (s := r)
  have hr' : c.rest = e ++ (l ++ (d ++ r)) := by simp [hr]
  have hsemi : ';' ∉ (l ++ (d ++ r)).head? := by
    rw [← List.append_assoc]
    exact hd.head
  have hend := terminator_complete hr' he hl hhead hsemi
  have hrest : (c.past (e ++ l)).rest = d ++ r := Cursor.rest_past (by rw [hr', List.append_assoc])
  rw [bind_of_ok hend, definition_complete hrest hd', Cursor.past_past, List.append_assoc]

theorem Next.ne_nil (h : Next st t r) : t ≠ [] := by
  obtain ⟨_, d, rfl, ⟨f, s, rfl, -, n, rfl⟩, -⟩ := h
  simp

/-- Definitions with terminators behind them are definitions with terminators in front, but for
the first definition and the last terminator. -/
theorem exists_star (he : Terminator e) (h : Definitions sts t r) :
    ∃ u z, e ++ t = u ++ z ∧ Terminator z ∧ Next.Star sts u (z ++ r) := by
  induction h generalizing e with
  | nil => exact ⟨[], e, by simp, he, .nil⟩
  | @cons st sts d e' t r hd he' _ ih =>
    obtain ⟨u, z, hu, hz, hstar⟩ := ih he'
    have hd' : Definition st d (u ++ (z ++ r)) := by
      have : u ++ (z ++ r) = e' ++ (t ++ r) := by
        rw [← List.append_assoc, ← hu, List.append_assoc]
      rwa [this]
    have hnext : Next st (e ++ d) (u ++ (z ++ r)) := ⟨e, d, rfl, he, hd'⟩
    exact ⟨(e ++ d) ++ u, z, by rw [hu]; simp, hz, .cons hnext hnext.ne_nil hstar⟩

/-- The other way round. -/
theorem definitions_of_star {z : Text} (hz : Terminator z) (h : Next.Star sts u (z ++ r))
    (hd : Definition st d (u ++ (z ++ r))) : Definitions (st :: sts) (d ++ (u ++ z)) r := by
  generalize hs : z ++ r = s at h hd
  induction h generalizing st d with
  | nil =>
    subst hs
    have hnil : Definition st d (z ++ ([] ++ r)) := by simpa using hd
    simpa using Definitions.cons hnil hz .nil
  | @cons st' sts t u s hnext _ _ ih =>
    obtain ⟨e, d', rfl, he, hd'⟩ := hnext
    subst hs
    have hcons :=
      Definitions.cons (t := d' ++ (u ++ z)) (r := r) (by simpa using hd) he (ih rfl hd')
    simpa using hcons

/-! ## 3. Documents -/

theorem definitions_sound :
    Sound definitions (fun sts t r => sts ≠ [] ∧
      ∃ t' l, t = t' ++ l ∧ l.all isLayout = true ∧ Definitions sts t' (l ++ r)) := by
  have hlist : Sound (separated1 terminator definition) (fun sts t r =>
      ∃ st more d u, sts = st :: more ∧ t = d ++ u ∧ Definition st d (u ++ r) ∧
        Next.Star more u r) := by
    refine (definition_sound.bind fun st => next_sound.many.bind fun more =>
      (Exact.pure (st :: more)).sound).mono ?_
    rintro sts t r ⟨st, d, _, rfl, hd, more, u, _, rfl, hu, rfl, rfl⟩
    rw [List.append_nil] at hd
    exact ⟨st, more, d, u, rfl, by simp, hd, hu⟩
  refine (layout_exact.sound.bind fun _ => hlist.bind fun sts => terminator_sound.bind fun _ =>
    (Exact.pure sts).sound).mono ?_
  rintro sts t r ⟨_, l, _, rfl, ⟨-, hl, -⟩, _, _, _, rfl, ⟨st, more, d, u, rfl, rfl, hd, hu⟩,
    _, _, _, rfl, ⟨z, l', rfl, hz, hl'⟩, rfl, rfl⟩
  simp only [List.append_nil, List.append_assoc] at hd hu
  refine ⟨by simp, l ++ (d ++ (u ++ z)), l', by simp, hl', ?_⟩
  rw [← List.append_assoc]
  exact definitions_of_star hz hu (hd.layout hl)

/-- **Definitions are read up to the white space behind them**, if no further one follows. -/
theorem definitions_complete {g : Text} (h : Definitions sts t (l ++ g)) (hne : sts ≠ [])
    (hr : c.rest = t ++ (l ++ g)) (hl : l.all isLayout = true)
    (hg : ∀ x ∈ g.head?, isLayout x = false) (hsemi : ';' ∉ (l ++ g).head?)
    (hstop : Refuses definition (c.past (t ++ l))) :
    definitions c = .ok (sts, c.past (t ++ l)) := by
  cases h with
  | nil => exact absurd rfl hne
  | @cons st sts d e t _ hd he hrest =>
    obtain ⟨u, z, hu, hz, hstar⟩ := exists_star he hrest
    obtain ⟨l₀, d, rfl, hl₀, hd, hhead⟩ := hd.exists_layout (s := u ++ (z ++ (l ++ g)))
    have hr₀ : c.rest = l₀ ++ (d ++ (u ++ (z ++ (l ++ g)))) := by
      rw [hr, hu]
      simp
    have hr₁ := Cursor.rest_past hr₀
    have hr₂ := Cursor.rest_past hr₁
    have hr₃ := Cursor.rest_past hr₂
    have hterm := terminator_complete hr₃ hz hl hg hsemi
    have hd : Definition st d (u ++ (z ++ (l ++ g))) := by
      rwa [← List.append_assoc e, hu, List.append_assoc] at hd
    rw [hu] at hstop ⊢
    have hnext : Refuses (do terminator; definition) (((c.past l₀).past d).past u) :=
      .of_ok hterm (by simpa using hstop)
    have hsts : separated1 terminator definition (c.past l₀) =
        .ok (st :: sts, ((c.past l₀).past d).past u) := by
      rw [separated1, bind_of_ok (definition_complete hr₁ hd),
        bind_of_ok (next_complete.many hstar hr₂ hnext)]
      rfl
    rw [definitions, bind_of_ok (layout_exact.complete (v := l₀) hr₀ ⟨rfl, hl₀, hhead⟩),
      bind_of_ok hsts, bind_of_ok hterm, pure_ok_iff]
    exact ⟨rfl, by simp⟩

/-- Without a first definition there are none. -/
theorem definitions_refuses (hr : c.rest = l ++ s) (hl : l.all isLayout = true)
    (hs : ∀ x ∈ s.head?, isLayout x = false) (hstop : Refuses definition (c.past l)) :
    Refuses definitions c := by
  have hlayout : layout c = .ok (l, c.past l) := layout_exact.complete hr ⟨rfl, hl, hs⟩
  have hlist : Refuses (separated1 terminator definition) (c.past l) := hstop.bind
  exact Refuses.of_ok hlayout hlist.bind

/-- No definition is read where only filler is left. -/
theorem definition_refuses {bodies : List Text} (h : Gap bodies c.rest []) :
    Refuses definition c := by
  have hr : c.rest = c.rest ++ [] := (List.append_nil _).symm
  have hrest := Cursor.rest_past hr
  refine Refuses.of_ok (documentation_exact.complete hr h) ?_
  refine Refuses.of_ok (skip_exact.complete (v := ()) (t := []) (r := []) hrest
    ⟨[], .stop not_begins_nil⟩) ?_
  rw [Cursor.past_nil]
  exact (tagFolded_refuses hrest (by rw [Text.of_eq]; decide)).bind

/-- The white space at the start of an ending, behind which no definition follows. -/
theorem Ending.exists_layout (h : Ending e) :
    ∃ l g, e = l ++ g ∧ l.all isLayout = true ∧ (∀ x ∈ g.head?, isLayout x = false) ∧
      ';' ∉ (l ++ g).head? ∧ ∃ bodies, Gap bodies g [] := by
  obtain ⟨bodies, hg⟩ := ending_iff.mp h
  obtain ⟨l, g, rfl, hl, hhead⟩ := Text.exists_span isLayout e
  exact ⟨l, g, rfl, hl, hhead, fun h => absurd (hg.head _ h) (by decide), bodies, hg.drop_layout hl⟩

/-- A document that is read to its end is definitions, the white space that is read with their last
terminator, and a gap. -/
theorem exists_split_of_document {c' : Cursor} (h : complete document c = .ok (sts, c')) :
    ∃ t l g bodies, c.rest = (t ++ l) ++ g ∧ sts ≠ [] ∧ Definitions sts t (l ++ g) ∧
      l.all isLayout = true ∧ Gap bodies g [] ∧ definitions c = .ok (sts, c.past (t ++ l)) := by
  obtain ⟨h, hend⟩ := complete_ok_iff.mp h
  obtain ⟨sts', d, hdefinitions, h⟩ := bind_ok_iff.mp h
  obtain ⟨_, d', hskip, hpure⟩ := bind_ok_iff.mp h
  obtain ⟨rfl, rfl⟩ := pure_ok_iff.mp hpure
  obtain ⟨_, r, hr, rfl, hne, t, l, rfl, hl, hdefs⟩ := definitions_sound hdefinitions
  obtain ⟨g, r', hr', rfl, bodies, hg⟩ := skip_exact.sound hskip
  rw [Cursor.rest_past hr'] at hend
  subst hend
  rw [Cursor.rest_past hr, List.append_nil] at hr'
  subst hr'
  exact ⟨t, l, r, bodies, hr, hne, hdefs, hl, hg, hdefinitions⟩

/-- **A document that is read to its end spells what is read.** -/
theorem document_sound {c' : Cursor} (h : complete document c = .ok (sts, c')) :
    Spelling sts c.rest := by
  obtain ⟨t, l, g, bodies, hr, hne, hdefs, hl, hg, -⟩ := exists_split_of_document h
  rw [List.append_assoc] at hr
  exact ⟨hne, t, l ++ g, hr, hdefs, ending_iff.mpr ⟨bodies, hg.layouts hl⟩⟩

/-- **A text that spells statements is read to its end.** -/
theorem document_complete (h : Spelling sts c.rest) :
    complete document c = .ok (sts, c.past c.rest) := by
  obtain ⟨hne, t, e, hs, hdefs, hend⟩ := h
  obtain ⟨l, g, rfl, hl, hhead, hsemi, hg⟩ := hend.exists_layout
  have hr : c.rest = (t ++ l) ++ g := by rw [hs, List.append_assoc]
  have hr₁ : (c.past (t ++ l)).rest = g ++ [] := by rw [Cursor.rest_past hr, List.append_nil]
  have hstop : Refuses definition (c.past (t ++ l)) := by
    obtain ⟨bodies, hg⟩ := hg
    rw [← Cursor.rest_past hr] at hg
    exact definition_refuses hg
  refine complete_ok_iff.mpr ⟨?_, Cursor.rest_past (List.append_nil _).symm⟩
  rw [document, bind_of_ok (definitions_complete hdefs hne hs hl hhead hsemi hstop),
    bind_of_ok (skip_exact.complete (v := ()) hr₁ hg), pure_ok_iff, hr]
  exact ⟨rfl, by simp⟩

theorem map_fst_ok_iff {α : Type} {o : Except Fault (α × Cursor)} {v : α} :
    o.map Prod.fst = .ok v ↔ ∃ c', o = .ok (v, c') := by
  cases o with
  | error e => simp [Except.map]
  | ok x =>
    obtain ⟨w, c'⟩ := x
    simp [Except.map]

variable {filename source : Text}

theorem parseAll_sound (h : parseAll filename source = .ok sts) : Spelling sts source := by
  obtain ⟨c', h⟩ := map_fst_ok_iff.mp h
  exact document_sound h

theorem parseAll_complete (h : Spelling sts source) : parseAll filename source = .ok sts :=
  map_fst_ok_iff.mpr ⟨_, document_complete (c := Cursor.ofSource source filename) h⟩

/-- **The documents of a list of statements.**  A text is parsed to statements if and only if it
is one of the ways to write these. -/
theorem parseAll_ok_iff_spelling (filename source : Text) (sts : List Statement) :
    parseAll filename source = .ok sts ↔ Spelling sts source :=
  ⟨parseAll_sound, parseAll_complete⟩

/-! ## 4. Single definitions -/

/-- The semicolons that may be missing, and the filler behind. -/
def lastTerminator (st : Statement) : Parser Statement := fun c =>
  if c.peek 1 = ";" then
    (do
      terminator
      Filler.skip
      pure st : Parser Statement) c
  else .ok (st, c)

theorem peek_semicolon_iff : c.peek 1 = ";" ↔ ';' ∈ c.rest.head? := by
  rw [Text.of_eq]
  exact Cursor.peek_one_iff

theorem lone_eq : lone = (do
    let st ← definition
    Filler.skip
    lastTerminator st) := rfl

theorem parse_sound (h : parse filename source = .ok st) : LoneSpelling st source := by
  obtain ⟨c', h⟩ := map_fst_ok_iff.mp h
  obtain ⟨h, hend⟩ := complete_ok_iff.mp h
  rw [lone_eq] at h
  obtain ⟨st', c₁, hst, h⟩ := bind_ok_iff.mp h
  obtain ⟨_, c₂, hskip, h⟩ := bind_ok_iff.mp h
  obtain ⟨d, r₁, hr₁, rfl, hd⟩ := definition_sound hst
  obtain ⟨g, r₂, hr₂, rfl, bodies, hg⟩ := skip_exact.sound hskip
  rw [Cursor.rest_past hr₁] at hr₂
  subst hr₂
  have hr₂ : ((Cursor.ofSource source filename).past d).rest = g ++ r₂ := Cursor.rest_past hr₁
  replace hr₁ : source = d ++ (g ++ r₂) := hr₁
  unfold lastTerminator at h
  split at h
  · rename_i hpeek
    obtain ⟨t, r, hr, rfl, _, _, _, rfl, ⟨_, l, rfl, ⟨f, s, rfl, hf, hs⟩, hl⟩, _, g', _, rfl,
      ⟨bodies', hg'⟩, rfl, rfl⟩ :=
      (terminator_sound.bind fun _ => skip_exact.sound.bind fun _ => (Exact.pure st').sound) h
    rw [Cursor.rest_past hr] at hend
    subst hend
    rw [Cursor.rest_past hr₂] at hr
    simp only [List.append_nil] at hr hg'
    subst hr
    have hgf : IsFiller g := ⟨bodies, hg.run fun h0 => by
      obtain ⟨n, rfl⟩ := hs
      simp at h0⟩
    refine ⟨d, (g ++ f) ++ s, l ++ g', by rw [hr₁]; simp, ?_,
      .inr ⟨g ++ f, s, rfl, hgf.append hf, hs⟩, ending_iff.mpr ⟨bodies', hg'.layouts hl⟩⟩
    simpa using hd
  · obtain ⟨rfl, rfl⟩ := Prod.mk.inj (Except.ok.inj h)
    rw [Cursor.rest_past hr₂] at hend
    subst hend
    rw [List.append_nil] at hr₁ hd
    exact ⟨d, [], g, hr₁, hd, .inl rfl, ending_iff.mpr ⟨bodies, hg⟩⟩

theorem parse_complete (h : LoneSpelling st source) : parse filename source = .ok st := by
  obtain ⟨d, z, e, hs, hd, hz, he⟩ := h
  have hr : (Cursor.ofSource source filename).rest = d ++ (z ++ e) := hs
  have hr₁ := Cursor.rest_past hr
  refine map_fst_ok_iff.mpr ⟨(Cursor.ofSource source filename).past source,
    complete_ok_iff.mpr ⟨?_, Cursor.rest_past (List.append_nil source).symm⟩⟩
  rw [lone_eq, bind_of_ok (definition_complete hr hd)]
  rcases hz with rfl | ⟨f, s, rfl, hf, hsemi⟩
  · have hr₁' : ((Cursor.ofSource source filename).past d).rest = e ++ [] := by simp [hr₁]
    rw [bind_of_ok (skip_exact.complete (v := ()) hr₁' (ending_iff.mp he)), lastTerminator, if_neg]
    · simp [hs]
    · rw [peek_semicolon_iff, Cursor.rest_past hr₁']
      simp
  · have hterm : Terminator s := ⟨[], s, rfl, ⟨[], .nil⟩, hsemi⟩
    rw [List.append_assoc] at hr₁
    have hr₂ := Cursor.rest_past hr₁
    obtain ⟨l, g, rfl, hl, hhead, hsemicolon, hg⟩ := he.exists_layout
    have hend := terminator_complete hr₂ hterm hl hhead hsemicolon
    have hr₃ : ((((Cursor.ofSource source filename).past d).past f).past (s ++ l)).rest = g ++ [] :=
      Cursor.rest_past (by rw [hr₂]; simp)
    have hpeek : (((Cursor.ofSource source filename).past d).past f).peek 1 = ";" := by
      obtain ⟨n, rfl⟩ := hsemi
      rw [peek_semicolon_iff, hr₂]
      rfl
    rw [bind_of_ok (skip_exact.complete (v := ()) hr₁ (hsemi.solid.gap_iff.mpr hf)), lastTerminator,
      if_pos hpeek, bind_of_ok hend, bind_of_ok (skip_exact.complete (v := ()) hr₃ hg), pure_ok_iff]
    exact ⟨rfl, by simp [hs]⟩

end StoredFunctions.Statement
