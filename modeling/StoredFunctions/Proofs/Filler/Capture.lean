/-
# What is captured from filler

Filler is a sequence of pieces: single characters of white space, and comments.  A **piece** is
told by its text and by where it has to end: a block at the first `*/` behind its opening, a line
comment in front of a line end or at the end of the document (`Piece.Fits`).

`Takes c ps d` says that the pieces `ps` stand between the cursors `c` and `d`, and that no
further piece begins at `d`.  Skipping filler is finding these pieces:

* `documentation_ok_iff_takes`: what is captured are the comments among them, in their order;
* `skip1_ok_iff_documentation`: filler that must not be missing is the same filler.

Since nothing begins where the pieces end, reading there again finds nothing.
-/
import StoredFunctions.Proofs.Filler.Reading

namespace StoredFunctions.Filler

open StoredFunctions.Parser

/-! ## 1. Pieces -/

/-- A character of white space, or a comment. -/
inductive Piece where
  | blank (x : Char)
  | block (body : Text)
  | line (mark body : Text)

namespace Piece

/-- The text of a piece.  The line end behind a line comment is a piece of its own. -/
def text : Piece → Text
  | blank x => [x]
  | block body => "/*" ++ (body ++ "*/")
  | line mark body => mark ++ body

/-- What a piece says: the body of a comment, trimmed. -/
def comment? : Piece → Option Text
  | blank _ => none
  | block body => some body.trim
  | line _ body => some body.trim

/-- `p.Fits r`: in front of `r`, the text of `p` is a piece and ends where a piece of its kind has
to. -/
def Fits : Piece → Text → Prop
  | blank x, _ => isLayout x = true
  | block body, _ => ¬ Text.of "*/" <:+: body
  | line mark body, r =>
    mark ∈ lineMarks ∧ isOneLine body = true ∧ ∀ x ∈ r.head?, isLineEnd x = true

end Piece

/-- The texts of pieces, one behind the other. -/
def spell (ps : List Piece) : Text := ps.flatMap Piece.text

/-- What the comments among pieces say. -/
def captured (ps : List Piece) : List Text := ps.filterMap Piece.comment?

/-- Each of the pieces fits in front of the ones behind it and of `r`. -/
def Fit : List Piece → Text → Prop
  | [], _ => True
  | p :: ps, r => p.Fits (spell ps ++ r) ∧ Fit ps r

variable {c d : Cursor} {t r : Text} {bodies : List Text} {ps qs : List Piece}

theorem spell_cons (p : Piece) (ps : List Piece) : spell (p :: ps) = p.text ++ spell ps := rfl

/-- A gap consists of pieces: one for each way in which it can begin. -/
theorem Gap.exists_pieces (h : Gap bodies t r) :
    ∃ ps, Fit ps r ∧ t = spell ps ∧ bodies = captured ps := by
  induction h with
  | stop _ => exact ⟨[], trivial, rfl, rfl⟩
  | @layout x _ _ _ hx _ ih =>
    obtain ⟨ps, hfit, rfl, rfl⟩ := ih
    exact ⟨.blank x :: ps, ⟨hx, hfit⟩, rfl, rfl⟩
  | @block body _ _ _ hb _ ih =>
    obtain ⟨ps, hfit, rfl, rfl⟩ := ih
    exact ⟨.block body :: ps, ⟨hb, hfit⟩, by simp [spell_cons, Piece.text], rfl⟩
  | @line mark body _ _ _ hm hb hx _ ih =>
    obtain ⟨ps, hfit, rfl, rfl⟩ := ih
    exact ⟨.line mark body :: ps, ⟨⟨hm, hb, hx⟩, hfit⟩, by simp [spell_cons, Piece.text], rfl⟩

/-- Pieces in front of something that begins none are a gap. -/
theorem Fit.gap (h : Fit ps r) (hr : ¬ Begins r) : Gap (captured ps) (spell ps) r := by
  induction ps with
  | nil => exact .stop hr
  | cons p ps ih =>
    obtain ⟨hp, hps⟩ := h
    cases p with
    | blank x => exact .layout hp (ih hps)
    | block body =>
      rw [spell_cons, Piece.text, List.append_assoc, List.append_assoc]
      exact .block hp (ih hps)
    | line mark body =>
      obtain ⟨hm, hb, hx⟩ := hp
      rw [spell_cons, Piece.text, List.append_assoc]
      exact .line hm hb hx (ih hps)

/-! ## 2. What the parsers take -/

/-- `Takes c ps d`: the pieces between `c` and `d`, behind which no further one begins. -/
structure Takes (c : Cursor) (ps : List Piece) (d : Cursor) : Prop where
  rest_eq : c.rest = spell ps ++ d.rest
  past_eq : d = c.past (spell ps)
  fit : Fit ps d.rest
  maximal : ¬ Begins d.rest

/-- **Documentation is what the pieces say**, and it ends where they end. -/
theorem documentation_ok_iff_takes :
    documentation c = .ok (bodies, d) ↔ ∃ ps, Takes c ps d ∧ bodies = captured ps := by
  constructor
  · intro h
    obtain ⟨t, r, hr, rfl, hg⟩ := documentation_exact.sound h
    obtain ⟨ps, hfit, rfl, rfl⟩ := hg.exists_pieces
    have hrest := Cursor.rest_past hr
    exact ⟨ps, ⟨by rw [hrest, hr], rfl, by rwa [hrest], by rw [hrest]; exact hg.not_begins⟩, rfl⟩
  · rintro ⟨ps, h, rfl⟩
    rw [documentation_exact.complete h.rest_eq (h.fit.gap h.maximal), ← h.past_eq]

theorem documentation_total (c : Cursor) : ∃ bodies d, documentation c = .ok (bodies, d) := by
  rw [documentation_eq_gather]
  exact gather_total c

/-- Where nothing begins nothing is read. -/
theorem documentation_of_not_begins (h : ¬ Begins c.rest) : documentation c = .ok ([], c) :=
  documentation_ok_iff_takes.mpr ⟨[], ⟨rfl, Cursor.past_nil.symm, trivial, h⟩, rfl⟩

theorem skip_ok_iff : skip c = .ok ((), d) ↔ ∃ bodies, documentation c = .ok (bodies, d) := by
  rw [skip, bind_ok_iff]
  constructor
  · rintro ⟨bodies, e, h, hp⟩
    obtain ⟨-, rfl⟩ := pure_ok_iff.mp hp
    exact ⟨bodies, h⟩
  · rintro ⟨bodies, h⟩
    exact ⟨bodies, d, h, rfl⟩

/-- **Filler that must not be missing is documentation that takes a character.** -/
theorem skip1_ok_iff_documentation :
    skip1 c = .ok ((), d) ↔ ∃ bodies, documentation c = .ok (bodies, d) ∧ c.offset < d.offset := by
  constructor
  · intro h
    obtain ⟨t, r, hr, rfl, hne, bodies, hg⟩ := skip1_exact.sound h
    have hpos : 0 < t.length := List.length_pos_iff.mpr hne
    exact ⟨bodies, documentation_exact.complete hr hg, by rw [Cursor.offset_past]; omega⟩
  · rintro ⟨bodies, h, hlt⟩
    obtain ⟨t, r, hr, rfl, hg⟩ := documentation_exact.sound h
    refine skip1_exact.complete hr ⟨?_, bodies, hg⟩
    rintro rfl
    simp at hlt

/-- **Capture is exact, maximal and idempotent.**  From every place filler is read, as a sequence
of pieces behind which none begins, and the texts of its comments are captured; no other sequence
of pieces that goes as far as it can says anything else.  Reading again where the pieces end takes
nothing and captures nothing.  Filler that must not be missing is the same filler, where it is not
empty. -/
theorem documentation_captures (c : Cursor) :
    ∃ ps d, Takes c ps d ∧ documentation c = .ok (captured ps, d) ∧
      (∀ qs e, Takes c qs e → e = d ∧ captured qs = captured ps) ∧
      documentation d = .ok ([], d) ∧ skip d = .ok ((), d) ∧
      ∀ e, skip1 c = .ok ((), e) ↔ c.offset < d.offset ∧ e = d := by
  obtain ⟨bodies, d, h⟩ := documentation_total c
  obtain ⟨ps, htakes, rfl⟩ := documentation_ok_iff_takes.mp h
  have hagain : documentation d = .ok ([], d) := documentation_of_not_begins htakes.maximal
  refine ⟨ps, d, htakes, h, fun qs e hq => ?_, hagain, skip_ok_iff.mpr ⟨[], hagain⟩, fun e => ?_⟩
  · have h' := documentation_ok_iff_takes.mpr ⟨qs, hq, rfl⟩
    rw [h] at h'
    obtain ⟨hbodies, rfl⟩ := Prod.mk.inj (Except.ok.inj h')
    exact ⟨rfl, hbodies.symm⟩
  · rw [skip1_ok_iff_documentation, h]
    constructor
    · rintro ⟨bodies, he, hlt⟩
      obtain ⟨-, rfl⟩ := Prod.mk.inj (Except.ok.inj he)
      exact ⟨hlt, rfl⟩
    · rintro ⟨hlt, rfl⟩
      exact ⟨_, rfl, hlt⟩

/-- What opens a comment opens none inside another one, and a block needs its end. -/
example : (documentation (.ofSource "/*/ a // */ # /* b\r\n--c/*" [])).toOption.map Prod.fst =
    some [Text.of "/ a //", "/* b", "c/*"] := by decide +kernel

end StoredFunctions.Filler
