/-
# Reading definitions

The parsers of the parts of a definition are exact for the relations of the same names: the
parameters with their parentheses (`parenthesized_sound`, `parenthesized_complete`), the keywords
(`keywords_sound`, `keywords_complete`), the body (`body_exact`).  A definition is these in sequence
(`definition_sound`, `definition_complete`).

Of the many places where filler may stand, most lie in front of a mark or a word, which begins no
filler; what the parser skips there is just filler.  At the body the text behind the brace
decides, and at the documentation the filler is read twice, the second time in vain.
-/
import StoredFunctions.Proofs.Statement.Spelling

namespace StoredFunctions.Statement

open StoredFunctions.Parser Filler Punctuation

variable {c : Cursor} {t u r : Text} {st : Statement} {p : Parameter} {ps : List Parameter}

/-! ## 1. Parameters -/

theorem isMark_dollar : IsMark "$" :=
  ⟨'$', by rw [Text.of_eq]; rfl, by decide, by decide, by decide⟩

theorem ParameterText.solid (p : Parameter) (t : Text) (h : ParameterText p t) : Solid t := by
  cases h with
  | intro _ _ _ _ => exact isMark_dollar.solid

theorem identifier_sound : Sound Identifier.parser (fun v t _ => Names.Spells v.name t) := by
  refine Names.anyName_sound.map.mono ?_
  rintro v t r ⟨name, rfl, h⟩
  exact h

theorem identifier_complete :
    Complete Identifier.parser (fun v t r => Names.Spells v.name t ∧ Clear r) := by
  rintro c v t r hr ⟨h, hcl⟩
  exact Names.anyName_complete.map hr ⟨v.name, rfl, h, fun x hx => (hcl x hx).1⟩

theorem parameter_sound : Sound parameter (fun p t _ => ParameterText p t) := by
  refine ((single_exact isMark_dollar.length_eq).sound.bind fun _ =>
    identifier_sound.bind fun ident => skip_exact.sound.bind fun _ =>
      (single_exact isMark_colon.length_eq).sound.bind fun _ => skip_exact.sound.bind fun _ =>
        Kind.parser_exact.cut.sound.bind fun kind =>
          (Exact.pure (⟨ident, kind⟩ : Parameter)).sound).mono ?_
  rintro p t r ⟨_, _, _, rfl, ⟨-, rfl⟩, ident, n, _, rfl, hn, _, f, _, rfl, hf, _, _, _, rfl,
    ⟨-, rfl⟩, _, g, _, rfl, hg, kind, k, _, rfl, ⟨hk, -⟩, rfl, rfl⟩
  rw [List.append_assoc, isMark_colon.solid.gap_iff] at hf
  rw [List.append_nil, hk.solid.append.gap_iff] at hg
  rw [List.append_nil]
  exact .intro hn hf hg hk

/-- **A parameter is read in every spelling**, in front of a comma, a parenthesis or filler. -/
theorem parameter_complete : Complete parameter (fun p t r => ParameterText p t ∧ Clear r) := by
  rintro c p t r hr ⟨h, hcl⟩
  cases h with
  | @intro n f g k hn hf hg hk =>
    refine ((single_exact isMark_dollar.length_eq).complete.bind fun _ =>
      identifier_complete.bind fun ident => skip_exact.complete.bind fun _ =>
        (single_exact isMark_colon.length_eq).complete.bind fun _ =>
          skip_exact.complete.bind fun _ => Kind.parser_exact.cut.complete.bind fun kind =>
            (Exact.pure (⟨ident, kind⟩ : Parameter)).complete) hr ?_
    have hf' := (isMark_colon.solid (s := g ++ (k ++ r))).gap_iff.mpr hf
    have hg' := (hk.solid.append (t := r)).gap_iff.mpr hg
    have hname : Clear (f ++ (":" ++ (g ++ k)) ++ r) := by
      rw [List.append_assoc, List.append_assoc]
      exact isMark_colon.clear.filler hf
    exact ⟨"$", "$", n ++ (f ++ (":" ++ (g ++ k))), rfl, ⟨rfl, rfl⟩, p.ident, n, _, rfl,
      ⟨hn, hname⟩, (), f, _, rfl, by simpa using hf', ":", ":", _, rfl, ⟨rfl, rfl⟩, (), g, _, rfl,
      by simpa using hg', p.kind, k, [], by simp, ⟨hk, .of_clear hcl⟩, rfl, rfl⟩

/-! ## 2. Parentheses -/

/-- The parameters with the parentheses around them. -/
def parenthesized : Parser (List Parameter) := do
  openParenthesis
  let parameters ← separated comma parameter
  closeParenthesis
  pure parameters

theorem parameters_sound :
    Sound (separated comma parameter) (fun ps t _ => (ps = [] ∧ t = []) ∨
      ∃ p more t₁ u, ps = p :: more ∧ t = t₁ ++ u ∧ ParameterText p t₁ ∧
        Following "," ParameterText more u) := by
  intro c ps c' h
  rcases orElse_ok_iff.mp h with h | ⟨-, rfl, rfl⟩
  · obtain ⟨t, r, hr, he, hps⟩ :=
      separated1_sound isMark_comma ParameterText.solid parameter_sound h
    exact ⟨t, r, hr, he, .inr hps⟩
  · exact ⟨[], c'.rest, rfl, Cursor.past_nil.symm, .inl ⟨rfl, rfl⟩⟩

theorem parenthesized_sound :
    Sound parenthesized (fun ps t _ => ∃ u, t = "(" ++ (u ++ ")") ∧ ParameterList ps u) := by
  refine ((opening_exact isMark_open.length_eq).sound.bind fun _ => parameters_sound.bind fun ps =>
    (closing_exact isMark_close).sound.bind fun _ => (Exact.pure ps).sound).mono ?_
  rintro v t r ⟨_, _, _, rfl, ⟨f, rfl, hf⟩, ps, _, _, rfl, hps, _, _, _, rfl, ⟨g, rfl, hg⟩,
    rfl, rfl⟩
  rcases hps with ⟨rfl, rfl⟩ | ⟨p, more, t, u, rfl, rfl, hp, hu⟩
  · obtain ⟨bodies, hf⟩ := hf
    have hf' : IsFiller f := ⟨bodies, hf.run (by simp [isMark_close.ne_nil])⟩
    exact ⟨f ++ g, by simp, .none (hf'.append hg)⟩
  · rw [List.append_assoc, List.append_assoc, (hp.solid.append).gap_iff] at hf
    exact ⟨f ++ (t ++ (u ++ g)), by simp, .some hf hp hu hg⟩

section

variable {α : Type} {element : Parser α} {P : α → Text → Prop} {a : α} {more : List α}
variable {f g s : Text}

/-- Elements with commas between them and parentheses around them. -/
def listed (element : Parser α) : Parser (List α) := do
  openParenthesis
  let elements ← separated comma element
  closeParenthesis
  pure elements

/-- Parentheses with nothing between them but filler. -/
theorem listed_nil (hf : IsFiller f) (hr : c.rest = ("(" ++ f) ++ (")" ++ r))
    (he : Refuses element (c.past ("(" ++ f))) :
    listed element c = .ok ([], c.past ("(" ++ (f ++ ")"))) := by
  have hopen : openParenthesis c = .ok ((), c.past ("(" ++ f)) :=
    (opening_exact isMark_open.length_eq).complete hr ⟨f, rfl, isMark_close.solid.gap_iff.mpr hf⟩
  have hnone : separated comma element (c.past ("(" ++ f)) = .ok ([], c.past ("(" ++ f)) :=
    orElse_ok_iff.mpr (.inr ⟨he.bind, rfl, rfl⟩)
  have hclose :=
    (closing_exact isMark_close).complete (v := ()) (Cursor.rest_past hr) ⟨[], rfl, [], .nil⟩
  rw [listed, bind_of_ok hopen, bind_of_ok hnone, closeParenthesis, bind_of_ok hclose,
    Cursor.past_past, List.append_assoc]
  rfl

/-- A list of elements in front of the closing parenthesis. -/
theorem elements_complete (hP : ∀ a t, P a t → Solid t)
    (he : Complete element (fun a t r => P a t ∧ Clear r)) (ha : P a t)
    (hu : Following "," P more u) (hg : IsFiller g)
    (hc : c.rest = (t ++ u) ++ (g ++ (")" ++ s))) :
    separated comma element c = .ok (a :: more, c.past (t ++ u)) := by
  have hne : ¬ Text.of "," <+: Text.of ")" ++ s := by
    rw [Text.of_eq, Text.of_eq]
    simp
  refine orElse_ok_iff.mpr (.inl (separated1_complete (r := g ++ (")" ++ s)) isMark_comma
    hP he ha hu (isMark_close.clear.filler hg) ?_ ?_))
  · rw [hc, List.append_assoc]
  · exact surrounded_refuses isMark_comma (Cursor.rest_past hc) hg isMark_close.solid hne

/-- Parentheses around one element or more. -/
theorem listed_cons (hP : ∀ a t, P a t → Solid t)
    (he : Complete element (fun a t r => P a t ∧ Clear r)) (hf : IsFiller f) (ha : P a t)
    (hu : Following "," P more u) (hg : IsFiller g)
    (hr : c.rest = ("(" ++ f) ++ ((t ++ u) ++ (g ++ (")" ++ r)))) :
    listed element c = .ok (a :: more, c.past ("(" ++ (f ++ (t ++ (u ++ (g ++ ")")))))) := by
  have hopen : openParenthesis c = .ok ((), c.past ("(" ++ f)) :=
    (opening_exact isMark_open.length_eq).complete hr
      ⟨f, rfl, (hP _ _ ha).append.append.gap_iff.mpr hf⟩
  have hrest := Cursor.rest_past hr
  have hlist := elements_complete hP he ha hu hg hrest
  have hclose := (closing_exact isMark_close).complete (v := ()) (t := g ++ ")") (r := r)
    (by rw [Cursor.rest_past hrest, List.append_assoc]) ⟨g, rfl, hg⟩
  rw [listed, bind_of_ok hopen, bind_of_ok hlist, closeParenthesis, bind_of_ok hclose]
  simp only [Cursor.past_past, List.append_assoc]
  rfl

end

theorem parenthesized_eq : parenthesized = listed parameter := rfl

theorem parenthesized_complete :
    Complete parenthesized (fun ps t _ => ∃ u, t = "(" ++ (u ++ ")") ∧ ParameterList ps u) := by
  rintro c ps t r hr ⟨u, rfl, h⟩
  rw [parenthesized_eq]
  cases h with
  | none hf =>
    have hr₁ : c.rest = ("(" ++ u) ++ (")" ++ r) := by simp [hr]
    have hnone : ¬ Text.of "$" <+: (c.past ("(" ++ u)).rest := by
      rw [Cursor.rest_past hr₁, Text.of_eq, Text.of_eq]
      simp
    exact listed_nil hf hr₁ (single_refuses isMark_dollar.length_eq hnone).bind
  | @some p more f t u g hf hp hu hg =>
    have hr₁ : c.rest = ("(" ++ f) ++ ((t ++ u) ++ (g ++ (")" ++ r))) := by simp [hr]
    have hlist := listed_cons ParameterText.solid parameter_complete hf hp hu hg hr₁
    simpa using hlist

/-! ## 3. Keywords -/

/-- The keywords, with the comments in front of them. -/
def keywords : Parser (List Text) := do
  let comments ← Filler.documentation
  Filler.skip
  let _ ← tagFolded "DEFINE"
  Filler.skip1
  let _ ← tagFolded "FUNCTION"
  Filler.skip1
  let _ ← tag "fn::"
  pure comments

/-- The start of a header, with the comments in front of it. -/
inductive Keywords (comments : List Text) : Text → Prop
  | intro {lead define f₁ function f₂ : Text} :
      Run comments lead →
      define.fold = "define" → f₁ ≠ [] → IsFiller f₁ →
      function.fold = "function" → f₂ ≠ [] → IsFiller f₂ →
        Keywords comments (lead ++ (define ++ (f₁ ++ (function ++ (f₂ ++ "fn::")))))

theorem keyword_exact {w k : Text} (hk : k ≠ []) (hw : w.lower = k) (hplain : IsPlain k) :
    Exact (tagFolded w) (fun v t _ => v = t ∧ t.fold = k) :=
  tagFolded_exact hk fun t => by rw [hw, Text.lower_eq_iff hplain]

theorem define_exact : Exact (tagFolded "DEFINE") (fun v t _ => v = t ∧ t.fold = "define") :=
  keyword_exact (Text.of_ne_nil (by decide)) (by rw [Text.of_eq, Text.of_eq]; rfl)
    (by rw [Text.of_eq]; decide)

theorem function_exact :
    Exact (tagFolded "FUNCTION") (fun v t _ => v = t ∧ t.fold = "function") :=
  keyword_exact (Text.of_ne_nil (by decide)) (by rw [Text.of_eq, Text.of_eq]; rfl)
    (by rw [Text.of_eq]; decide)

theorem isWord_define (h : t.fold = "define") : Names.IsWord t :=
  Kind.isWord_of_fold h (by rw [Text.of_eq]; decide)

theorem isWord_function (h : t.fold = "function") : Names.IsWord t :=
  Kind.isWord_of_fold h (by rw [Text.of_eq]; decide)

theorem fn_solid : Solid (Text.of "fn::" ++ r) := by
  rw [Text.of_eq]
  exact ⟨'f', _, rfl, by decide⟩

theorem keywords_sound : Sound keywords (fun comments t _ => Keywords comments t) := by
  have hfn : Text.of "fn::" ≠ [] := Text.of_ne_nil (by decide)
  refine (documentation_exact.sound.bind fun comments => skip_exact.sound.bind fun _ =>
    define_exact.sound.bind fun _ => skip1_exact.sound.bind fun _ =>
      function_exact.sound.bind fun _ => skip1_exact.sound.bind fun _ =>
        (tag_exact hfn).sound.bind fun _ => (Exact.pure comments).sound).mono ?_
  rintro v t r ⟨comments, lead, _, rfl, hlead, _, f₀, _, rfl, ⟨_, hf₀⟩, _, define, _, rfl,
    ⟨-, hdefine⟩, _, f₁, _, rfl, ⟨hne₁, hf₁⟩, _, function, _, rfl, ⟨-, hfunction⟩, _, f₂, _, rfl,
    ⟨hne₂, hf₂⟩, _, _, _, rfl, ⟨-, rfl⟩, rfl, rfl⟩
  -- the documentation took all the filler, so nothing was left to skip
  obtain rfl := hf₀.eq_nil (by simpa using hlead.not_begins)
  rw [List.nil_append] at hlead
  obtain ⟨x, y, hx, -⟩ := (isWord_define hdefine).solid
  have hrun := hlead.run (by simp [hx])
  rw [List.append_assoc, (isWord_function hfunction).solid.append.gap_iff] at hf₁
  rw [List.append_nil, fn_solid.gap_iff] at hf₂
  simpa using Keywords.intro hrun hdefine hne₁ hf₁ hfunction hne₂ hf₂

theorem keywords_complete : Complete keywords (fun comments t _ => Keywords comments t) := by
  have hfn : Text.of "fn::" ≠ [] := Text.of_ne_nil (by decide)
  rintro c comments t r hr ⟨hrun, hdefine, hne₁, hf₁, hfunction, hne₂, hf₂⟩
  rename_i lead define f₁ function f₂
  refine (documentation_exact.complete.bind fun comments => skip_exact.complete.bind fun _ =>
    define_exact.complete.bind fun _ => skip1_exact.complete.bind fun _ =>
      function_exact.complete.bind fun _ => skip1_exact.complete.bind fun _ =>
        (tag_exact hfn).complete.bind fun _ => (Exact.pure comments).complete) hr ?_
  have hb : ¬ Begins (define ++ (f₁ ++ (function ++ (f₂ ++ Text.of "fn::"))) ++ r) :=
    (isWord_define hdefine).solid.append.append.not_begins
  have hf₁' :=
    ((isWord_function hfunction).solid.append (t := (f₂ ++ Text.of "fn::") ++ r)).gap_iff.mpr hf₁
  have hf₂' := (fn_solid (r := r)).gap_iff.mpr hf₂
  exact ⟨comments, lead, _, rfl, hrun.gap hb, (), [], _, rfl, ⟨[], .stop hb⟩,
    define, define, _, rfl, ⟨rfl, hdefine⟩, (), f₁, _, rfl, ⟨hne₁, by simpa using hf₁'⟩,
    function, function, _, rfl, ⟨rfl, hfunction⟩, (), f₂, _, rfl, ⟨hne₂, by simpa using hf₂'⟩,
    "fn::", "fn::", [], by simp, ⟨rfl, rfl⟩, rfl, rfl⟩

/-! ## 4. Bodies -/

/-- Everything up to the first closing brace, and that brace. -/
def toBrace : Parser Unit := fun c =>
  match c.find? "\x7d" with
  | none => fail .unclosedBody c
  | some found => .ok ((), c.jump (found + 1))

theorem toBrace_exact : Exact toBrace (fun _ t _ => ∃ u, t = u ++ ['\x7d'] ∧ '\x7d' ∉ u) where
  sound := by
    intro c v c' h
    unfold toBrace at h
    rw [braceClose_eq, Cursor.find?_eq_map (by simp)] at h
    cases hi : c.rest.indexOf? ['\x7d'] with
    | none => simp [hi, fail] at h
    | some n =>
      obtain ⟨u, r, hr, rfl, hu⟩ := Text.eq_append_of_indexOf? (by simp) hi
      simp only [hi, Option.map_some, Except.ok.injEq, Prod.mk.injEq] at h
      obtain ⟨-, rfl⟩ := h
      have hnot : '\x7d' ∉ u := fun hm => by
        obtain ⟨a, b, rfl⟩ := List.append_of_mem hm
        exact hu ⟨a, b, by simp⟩
      refine ⟨u ++ ['\x7d'], r, hr, ?_, u, rfl, hnot⟩
      rw [Nat.add_assoc]
      exact Cursor.jump_eq_past _ (by simp)
  complete := by
    rintro c v t r hr ⟨u, rfl, hu⟩
    have hi : c.rest.indexOf? ['\x7d'] = some u.length := by
      rw [hr, List.append_assoc]
      exact Text.indexOf?_single hu
    rw [toBrace, braceClose_eq, Cursor.find?_eq_map (List.cons_ne_nil _ _), hi]
    simp only [Option.map_some]
    rw [Nat.add_assoc, Cursor.jump_eq_past (t := u ++ ['\x7d']) _ (by simp)]

/-- **A body ends at its first closing brace**, behind all the filler there is. -/
theorem body_exact : Exact body (fun _ t r => Body t r) := by
  have hbody : body = (do
      let _ ← single "\x7b"
      Filler.skip
      toBrace : Parser Unit) := rfl
  rw [hbody]
  refine ((single_exact isMark_brace.length_eq).bind fun _ => skip_exact.bind fun _ =>
    toBrace_exact).congr fun v t r => ?_
  rw [body_iff, braceClose_eq]
  constructor
  · rintro ⟨_, _, _, rfl, ⟨-, rfl⟩, _, f, _, rfl, ⟨bodies, hg⟩, u, rfl, hu⟩
    refine ⟨f, u, rfl, ⟨bodies, hg.run (by simp)⟩, hu, ?_⟩
    simpa using hg.not_begins
  · rintro ⟨f, u, rfl, ⟨bodies, hf⟩, hu, hb⟩
    exact ⟨"\x7b", "\x7b", f ++ (u ++ ['\x7d']), rfl, ⟨rfl, rfl⟩, (), f, u ++ ['\x7d'], rfl,
      ⟨bodies, hf.gap (by simpa using hb)⟩, u, rfl, hu⟩

/-! ## 5. Definitions -/

theorem definition_eq :
    definition = (do
      let comments ← keywords
      let path ← Names.path
      Filler.skip
      let parameters ← parenthesized
      Filler.skip
      body
      pure (ofSegments path.1 path.2 parameters comments)) := by
  simp only [definition, keywords, parenthesized, bind_assoc, pure_bind]

/-- A statement is known from its path, its parameters and its comments. -/
theorem ofSegments_eq {first : Text} {more : List Text} (h : st.path = first :: more) :
    ofSegments first more st.parameters st.comments = st := by
  obtain ⟨scope, name, parameters, comments⟩ := st
  have hp : scope ++ [name] = first :: more := h
  simp only [ofSegments, ← hp, List.dropLast_concat, List.getLast_concat]

theorem body_solid (h : Body t r) : Solid t := by
  cases h with
  | plain _ _ _ _ => exact isMark_brace.solid
  | unclosed _ _ _ _ => exact isMark_brace.solid

/-- No path goes on in front of a parenthesis. -/
theorem not_colons {f s : Text} (hf : IsFiller f) : ¬ Text.of "::" <+: f ++ ("(" ++ s) := by
  obtain ⟨bodies, hf⟩ := hf
  rw [Names.colons_eq]
  rintro ⟨v, hv⟩
  cases f with
  | nil =>
    rw [Text.of_eq] at hv
    exact absurd (List.cons.inj hv).1 (by decide)
  | cons x f =>
    obtain ⟨rfl, -⟩ := List.cons.inj hv
    exact absurd (hf.head _ rfl) (by decide)

/-- **What is read as a definition is one.** -/
theorem definition_sound : Sound definition Definition := by
  rw [definition_eq]
  refine (keywords_sound.bind fun comments => Names.path_sound.bind fun path =>
    skip_exact.sound.bind fun _ => parenthesized_sound.bind fun parameters =>
      skip_exact.sound.bind fun _ => body_exact.sound.bind fun _ =>
        (Exact.pure (ofSegments path.1 path.2 parameters comments)).sound).mono ?_
  rintro st t r ⟨comments, _, _, rfl, hkeys, ⟨first, more⟩, _, _, rfl, ⟨hpath, rfl⟩, _, f₃, _, rfl,
    hf₃, ps, _, _, rfl, ⟨u, rfl, hps⟩, _, f₄, _, rfl, hf₄, _, b, _, rfl, hb, rfl, rfl⟩
  rw [List.append_assoc, List.append_assoc, isMark_open.solid.gap_iff] at hf₃
  rw [List.nil_append] at hb
  rw [List.append_nil] at hf₄ ⊢
  rw [(body_solid hb).append.gap_iff] at hf₄
  cases hkeys with
  | @intro lead define f₁ function f₂ hrun hdefine hne₁ hf₁ hfunction hne₂ hf₂ =>
    have hheader : Header (ofSegments first more ps comments) _ := .intro hrun hdefine hne₁ hf₁
      hfunction hne₂ hf₂ (by rwa [path_ofSegments]) hf₃ hps hf₄
    rw [path_ofSegments] at hheader
    exact ⟨_, b, by simp, hheader, hb⟩

/-- A definition up to its body. -/
def header : Parser Statement := do
  let comments ← keywords
  let path ← Names.path
  Filler.skip
  let parameters ← parenthesized
  Filler.skip
  pure (ofSegments path.1 path.2 parameters comments)

theorem definition_eq_header : definition = (do
    let st ← header
    body
    pure st) := by
  simp only [definition_eq, header, bind_assoc, pure_bind]

theorem header_complete : Complete header (fun st t r => Header st t ∧ Solid r) := by
  rintro c st t r hr ⟨hh, hsolid⟩
  cases hh with
  | @intro lead define f₁ function f₂ f₃ ps f₄ hrun hdefine hne₁ hf₁ hfunction hne₂ hf₂ hpath hf₃
      hps hf₄ =>
    obtain ⟨first, more, hsegments⟩ : ∃ first more, st.path = first :: more :=
      List.exists_cons_of_ne_nil (by simp [Statement.path])
    rw [hsegments] at hr hpath
    have hkeys := Keywords.intro hrun hdefine hne₁ hf₁ hfunction hne₂ hf₂
    have hr₁ : c.rest = (lead ++ (define ++ (f₁ ++ (function ++ (f₂ ++ "fn::"))))) ++
        (Text.join "::" (first :: more) ++ (f₃ ++ (("(" ++ (ps ++ ")")) ++ (f₄ ++ r)))) := by
      simp [hr]
    have hr₂ := Cursor.rest_past hr₁
    have hr₃ := Cursor.rest_past hr₂
    have hr₄ := Cursor.rest_past hr₃
    have hr₅ := Cursor.rest_past hr₄
    -- the path ends in front of the parenthesis or of filler: no word and no colon follows
    have hclear : Clear (f₃ ++ (("(" ++ (ps ++ ")")) ++ (f₄ ++ r))) := by
      rw [List.append_assoc]
      exact isMark_open.clear.filler hf₃
    have hcolons : ¬ Text.of "::" <+: f₃ ++ (("(" ++ (ps ++ ")")) ++ (f₄ ++ r)) := by
      rw [List.append_assoc]
      exact not_colons hf₃
    rw [header, bind_of_ok (keywords_complete hr₁ hkeys),
      bind_of_ok (Names.path_complete hpath hr₂ (fun x hx => (hclear x hx).1) hcolons),
      bind_of_ok (skip_exact.complete (v := ()) hr₃ (by
        rw [List.append_assoc]
        exact isMark_open.solid.gap_iff.mpr hf₃)),
      bind_of_ok (parenthesized_complete hr₄ ⟨ps, rfl, hps⟩),
      bind_of_ok (skip_exact.complete (v := ()) hr₅ (hsolid.gap_iff.mpr hf₄)),
      pure_ok_iff, ofSegments_eq hsegments, hsegments]
    simp

/-- **Every definition is read.** -/
theorem definition_complete : Complete definition Definition := by
  rintro c st t r hr ⟨h, b, rfl, hh, hb⟩
  rw [List.append_assoc] at hr
  rw [definition_eq_header, bind_of_ok (header_complete hr ⟨hh, (body_solid hb).append⟩),
    bind_of_ok (body_exact.complete (v := ()) (Cursor.rest_past hr) hb), Cursor.past_past]
  rfl

end StoredFunctions.Statement
