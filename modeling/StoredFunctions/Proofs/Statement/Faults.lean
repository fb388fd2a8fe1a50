/-
# Faults of documents

A document is read definition by definition, and a definition parameter by parameter, and each of
these loops stops quietly at an element that fails, to leave what is wrong with it to the text that
should have followed the list.  What a parameter fails with is not lost there if it is final:

* `parseAll_of_spoiled`: a failure of a quoted name, or any failure of a kind, is the failure of the
  document, committed and with the place it had;
* `parseAll_settles_iff`: apart from results and failures there is one outcome only, a bound with
  too many digits, and it is met just where the document has such a bound.

Both speak of the places where the reader looks for a definition (`DefinitionAt`) and for a
parameter (`ParameterAt`).  What is in front of such a place has been read; what is behind it does
not matter.
-/
import StoredFunctions.Proofs.Kind.Oversized
import StoredFunctions.Proofs.Statement.Document

namespace StoredFunctions.Statement

open StoredFunctions.Parser Filler Punctuation Relation

variable {c d e : Cursor} {f : Failure} {fault : Fault} {n : Nat} {filename source : Text}

/-! ## 1. Places in a document -/

/-- A definition up to its opening parenthesis: its comments and its path. -/
def beginning : Parser (List Text × Text × List Text) := do
  let comments ← keywords
  let path ← Names.path
  Filler.skip
  openParenthesis
  pure (comments, path)

/-- A parameter up to its kind. -/
def declared : Parser Identifier := do
  let _ ← single "$"
  let ident ← Identifier.parser
  Filler.skip
  let _ ← single ":"
  Filler.skip
  pure ident

/-- In the definition at `c` a parameter is looked for at `d`. -/
def ParameterAt (c d : Cursor) : Prop :=
  ∃ b e, beginning c = .ok (b, e) ∧ ReflTransGen (Passes parameter comma) e d

/-- In the document at `c` a definition is looked for at `d`. -/
def DefinitionAt (c d : Cursor) : Prop :=
  ∃ l e, layout c = .ok (l, e) ∧ ReflTransGen (Passes definition terminator) e d

theorem definition_eq_beginning : definition = (do
    let b ← beginning
    let parameters ← separated comma parameter
    closeParenthesis
    Filler.skip
    body
    pure (ofSegments b.2.1 b.2.2 parameters b.1)) := by
  simp only [definition, beginning, keywords, bind_assoc, pure_bind]

theorem parameter_eq_declared : parameter = (do
    let ident ← declared
    let kind ← cut Kind.parser
    pure ⟨ident, kind⟩) := by
  simp only [parameter, declared, bind_assoc, pure_bind]

/-! ## 2. Final faults reach the end of the document -/

theorem comma_parameter_advancing : Advancing (do comma; parameter) := by
  refine (behind_sound isMark_comma parameter_sound).advancing fun p t r h => ?_
  obtain ⟨f, g, u, rfl, -⟩ := h
  simp [isMark_comma.ne_nil]

theorem terminator_definition_advancing : Advancing (do terminator; definition) :=
  next_sound.advancing fun _ _ _ h => h.ne_nil

/-- **A final fault of a parameter is the fault of the definition.** -/
theorem definition_of_final (h : ParameterAt c d) (hd : parameter d = .error fault)
    (hf : fault.IsFinal) : definition c = .error fault := by
  obtain ⟨b, e, hb, hpasses⟩ := h
  have hlist := separated1_of_final comma_parameter_advancing hpasses hd hf
  rw [definition_eq_beginning, bind_of_ok hb]
  exact bind_of_error (orElse_error_iff.mpr ⟨hlist, hf⟩)

/-- **A final fault of a definition is the fault of the document.** -/
theorem document_of_final (h : DefinitionAt c d) (hd : definition d = .error fault)
    (hf : fault.IsFinal) : complete document c = .error fault := by
  obtain ⟨l, e, hl, hpasses⟩ := h
  have hlist := separated1_of_final terminator_definition_advancing hpasses hd hf
  have hdefs : definitions c = .error fault := by
    rw [definitions, bind_of_ok hl]
    exact bind_of_error hlist
  exact bind_of_error (bind_of_error hdefs)

theorem map_fst_error_iff {α : Type} {o : Except Fault (α × Cursor)} :
    o.map Prod.fst = .error fault ↔ o = .error fault := by
  cases o with
  | error e => simp [Except.map]
  | ok x => simp [Except.map]

/-! ## 3. Committed failures -/

/-- The parameter at `c` meets the failure `f`: a committed one in its name, or any in its kind. -/
inductive Spoiled (f : Failure) (c : Cursor) : Prop
  | name {d : Cursor} : single "$" c = .ok ("$", d) →
      Identifier.parser d = .error (.failure f) → f.committed = true → Spoiled f c
  | kind {d : Cursor} {ident : Identifier} : declared c = .ok (ident, d) →
      Kind.parser d = .error (.failure f) → Spoiled f c

theorem parameter_of_spoiled (h : Spoiled f c) : parameter c = .error (.failure f.commit) := by
  cases h with
  | name hdollar hname hcommitted =>
    rw [Failure.commit_of_committed hcommitted, parameter, bind_of_ok hdollar]
    exact bind_of_error hname
  | kind hdeclared hkind =>
    rw [parameter_eq_declared, bind_of_ok hdeclared]
    exact bind_of_error (cut_of_failure hkind)

/-- **A committed failure is final.**  If a parameter of a document meets it, then it is the failure
of the document, with the cause and the place it had: nothing in front of the parameter and nothing
behind it matters. -/
theorem parseAll_of_spoiled (hc : DefinitionAt (Cursor.ofSource source filename) c)
    (hd : ParameterAt c d) (h : Spoiled f d) :
    parseAll filename source = .error (.failure f.commit) := by
  have hfinal : (Fault.failure f.commit).IsFinal := rfl
  have hdefinition := definition_of_final hd (parameter_of_spoiled h) hfinal
  exact map_fst_error_iff.mpr (document_of_final hc hdefinition hfinal)

/-- Two definitions, the second of them with a type that does not exist. -/
def misspelt : Text :=
  "DEFINE FUNCTION fn::a() \x7b\x7d;\nDEFINE FUNCTION fn::b($x: int, $y: strin) \x7b\x7d;"

/-- The place of that type, in the second parameter of the second definition, is reported. -/
theorem parseAll_misspelt :
    DefinitionAt (.ofSource misspelt "f") (.ofOffset misspelt "f" 28) ∧
    ParameterAt (.ofOffset misspelt "f" 28) (.ofOffset misspelt "f" 59) ∧
    Spoiled ⟨.unknownType "strin", .ofOffset misspelt "f" 63, false⟩ (.ofOffset misspelt "f" 59) ∧
    parseAll "f" misspelt =
      .error (.failure ⟨.unknownType "strin", .ofOffset misspelt "f" 63, true⟩) := by
  have hc : DefinitionAt (.ofSource misspelt "f") (.ofOffset misspelt "f" 28) :=
    ⟨[], .ofOffset misspelt "f" 0, by decide +kernel, .single
      ⟨⟨[], "a", [], []⟩, .ofOffset misspelt "f" 26, (), by decide +kernel, by decide +kernel⟩⟩
  have hd : ParameterAt (.ofOffset misspelt "f" 28) (.ofOffset misspelt "f" 59) :=
    ⟨([], "b", []), .ofOffset misspelt "f" 50, by decide +kernel, .single
      ⟨⟨⟨"x"⟩, .primitive .int⟩, .ofOffset misspelt "f" 57, (), by decide +kernel,
        by decide +kernel⟩⟩
  have h : Spoiled ⟨.unknownType "strin", .ofOffset misspelt "f" 63, false⟩
      (.ofOffset misspelt "f" 59) :=
    @Spoiled.kind _ _ (.ofOffset misspelt "f" 63) ⟨"y"⟩ (by decide +kernel) (by decide +kernel)
  exact ⟨hc, hd, h, parseAll_of_spoiled hc hd h⟩

/-! ## 4. Bounds with too many digits -/

theorem keywords_located : Located keywords :=
  documentation_mild.located.bind fun _ => skip_mild.located.bind fun _ =>
    (tagFolded_located _).bind fun _ => skip1_located.bind fun _ =>
      (tagFolded_located _).bind fun _ => skip1_located.bind fun _ =>
        (tag_mild _).located.bind fun _ => (Mild.pure _).located

theorem path_located : Located Names.path :=
  (takeWhile1_located _ _).bind fun _ =>
    ((tag_mild _).located.bind fun _ => takeWhile1_located _ _).many.bind fun _ =>
      (Mild.pure _).located

theorem beginning_located : Located beginning :=
  keywords_located.bind fun _ => path_located.bind fun _ => skip_mild.located.bind fun _ =>
    (opening_located _).bind fun _ => (Mild.pure _).located

theorem declared_located : Located declared :=
  (single_located _).bind fun _ => Names.anyName_located.map.bind fun _ =>
    skip_mild.located.bind fun _ => (single_located _).bind fun _ =>
      skip_mild.located.bind fun _ => (Mild.pure _).located

theorem body_located : Located body := by
  refine (single_located _).bind fun _ => skip_mild.located.bind fun _ c n h => ?_
  split at h
  · exact fail_located _ _ _ h
  · exact absurd h (by simp)

/-- The parameter at `c` has a bound with `n` digits, too many. -/
def Overlong (n : Nat) (c : Cursor) : Prop :=
  ∃ ident d t s, declared c = .ok (ident, d) ∧ d.rest = t ++ s ∧ Kind.ToBound t ∧ Kind.Oversized n s

theorem parameter_oversized_iff : parameter c = .error (.oversizedLimit n) ↔ Overlong n c := by
  rw [parameter_eq_declared, bind_error_iff, or_iff_right (declared_located _ _)]
  constructor
  · rintro ⟨ident, d, hd, h⟩
    rcases bind_error_iff.mp h with h | ⟨kind, e, -, h⟩
    · obtain ⟨t, s, hr, ht, hs⟩ := Kind.parser_oversized_iff.mp (cut_oversized_iff.mp h)
      exact ⟨ident, d, t, s, hd, hr, ht, hs⟩
    · exact absurd h pure_ne_error
  · rintro ⟨ident, d, t, s, hd, hr, ht, hs⟩
    have hkind := Kind.parser_oversized_iff.mpr ⟨t, s, hr, ht, hs⟩
    exact ⟨ident, d, hd, bind_of_error (cut_oversized_iff.mpr hkind)⟩

/-- **Where a definition stops without a place.** -/
theorem definition_oversized_iff : definition c = .error (.oversizedLimit n) ↔
    ∃ d, ParameterAt c d ∧ Overlong n d := by
  constructor
  · intro h
    rw [definition_eq_beginning, bind_error_iff, or_iff_right (beginning_located _ _)] at h
    obtain ⟨b, e, hb, h⟩ := h
    have hrest : ∀ ps, Located (do
        closeParenthesis
        Filler.skip
        body
        pure (ofSegments b.2.1 b.2.2 ps b.1)) := fun ps =>
      (closing_located _).bind fun _ => skip_mild.located.bind fun _ => body_located.bind fun _ =>
        (Mild.pure _).located
    rcases bind_error_iff.mp h with h | ⟨ps, e', -, h⟩
    · obtain ⟨d, hpasses, hd⟩ :=
        separated1_oversized (surrounded_located _) (orElse_error_iff.mp h).1
      exact ⟨d, ⟨b, e, hb, hpasses⟩, parameter_oversized_iff.mp hd⟩
    · exact absurd h (hrest ps _ _)
  · rintro ⟨d, hd, h⟩
    exact definition_of_final hd (parameter_oversized_iff.mpr h) trivial

theorem document_oversized_iff : complete document c = .error (.oversizedLimit n) ↔
    ∃ d e, DefinitionAt c d ∧ ParameterAt d e ∧ Overlong n e := by
  constructor
  · intro h
    have h := complete_oversized_iff.mp h
    rcases bind_error_iff.mp h with h | ⟨sts, e, -, h⟩
    · rcases bind_error_iff.mp h with h | ⟨l, e, hl, h⟩
      · exact absurd h ((takeWhile_mild _).located _ _)
      rcases bind_error_iff.mp h with h | ⟨sts, e', -, h⟩
      · obtain ⟨d, hpasses, hd⟩ := separated1_oversized terminator_located h
        obtain ⟨e', he', hlong⟩ := definition_oversized_iff.mp hd
        exact ⟨d, e', ⟨l, e, hl, hpasses⟩, he', hlong⟩
      · exact absurd h (terminator_located.bind (fun _ => (Mild.pure _).located) _ _)
    · exact absurd h (skip_mild.located.bind (fun _ => (Mild.pure _).located) _ _)
  · rintro ⟨d, e, hd, he, h⟩
    exact document_of_final hd (definition_oversized_iff.mpr ⟨e, he, h⟩) trivial

theorem lone_oversized_iff : complete lone c = .error (.oversizedLimit n) ↔
    ∃ d, ParameterAt c d ∧ Overlong n d := by
  rw [complete_oversized_iff, ← definition_oversized_iff, lone_eq]
  have hlast : ∀ st, Located (lastTerminator st) := by
    intro st c n h
    unfold lastTerminator at h
    split at h
    · exact terminator_located.bind
        (fun _ => skip_mild.located.bind fun _ => (Mild.pure _).located) _ _ h
    · exact absurd h (by simp)
  constructor
  · intro h
    rcases bind_error_iff.mp h with h | ⟨st, e, -, h⟩
    · exact h
    · exact absurd h (skip_mild.located.bind (fun _ => hlast st) _ _)
  · exact bind_of_error

/-- A reading that meets no bound with too many digits has a result or a failure. -/
theorem settles_iff {α : Type} {o : Except Fault α} :
    ((∃ v, o = .ok v) ∨ ∃ f, o = .error (.failure f)) ↔ ∀ n, o ≠ .error (.oversizedLimit n) := by
  rcases o with (f | n) | v
  · simp
  · simp
  · simp

/-- **Results and failures.**  A document is answered with its statements or with a failure if and
only if no parameter that the reader comes to has a bound with too many digits; and so is a text of
one definition. -/
theorem parseAll_settles_iff (filename source : Text) :
    (((∃ sts, parseAll filename source = .ok sts) ∨
        ∃ f, parseAll filename source = .error (.failure f)) ↔
      ∀ c d n, DefinitionAt (Cursor.ofSource source filename) c → ParameterAt c d →
        ¬ Overlong n d) ∧
    (((∃ st, parse filename source = .ok st) ∨
        ∃ f, parse filename source = .error (.failure f)) ↔
      ∀ d n, ParameterAt (Cursor.ofSource source filename) d → ¬ Overlong n d) := by
  constructor
  · rw [settles_iff]
    simp only [parseAll, ne_eq, map_fst_error_iff, document_oversized_iff]
    exact ⟨fun h c d n hc hd hlong => h n ⟨c, d, hc, hd, hlong⟩,
      fun h n ⟨c, d, hc, hd, hlong⟩ => h c d n hc hd hlong⟩
  · rw [settles_iff]
    simp only [parse, ne_eq, map_fst_error_iff, lone_oversized_iff]
    exact ⟨fun h d n hd hlong => h n ⟨d, hd, hlong⟩, fun h n ⟨d, hd, hlong⟩ => h d n hd hlong⟩

/-- One definition, with a bound of one digit too many. -/
def overlong : Text :=
  "DEFINE FUNCTION fn::a($x: array<int, " ++
    (List.replicate (digitLimit + 1) '1' ++ ">) \x7b\x7d;")

/-- It has neither statements nor a failure. -/
theorem parseAll_overlong :
    parseAll [] overlong = .error (.oversizedLimit 4301) ∧
    parse [] overlong = .error (.oversizedLimit 4301) := by
  decide +kernel

end StoredFunctions.Statement
