/-
# Documents one behind the other

The sources of a generated module are joined by line ends and sent to the database as one
document.  Joining keeps every definition, with its path and its parameters; only the first
comments of a document grow, by what stood at the end of the one before.

There is one exception.  A body ends at its first closing brace, but filler behind the opening
brace is skipped before that is looked for.  A body that begins with `/*` and does not close the
comment is accepted as long as nothing in its document closes it; a later document with `*/` in it
then turns everything up to there into a comment (`LeavesOpen`).

* `spelling_append`, `spelling_join`: documents that do not interfere, two or any number of them;
* `parseAll_closer`: in front of one particular document, a document that leaves a body open is
  always refused.
-/
import StoredFunctions.Proofs.Statement.Signature

namespace StoredFunctions.Statement

open StoredFunctions.Parser Filler Punctuation Kind

/-- What a definition says: its path and its parameters. -/
def shape (st : Statement) : List Text × List Parameter := (st.path, st.parameters)

/-! ## 1. Bodies that are left open -/

/-- A body that begins with a comment and does not close it. -/
def OpenBody (b : Text) : Prop :=
  ∃ f u, b = "\x7b" ++ (f ++ ("/*" ++ (u ++ "\x7d"))) ∧ IsFiller f ∧ '\x7d' ∉ u ∧
    ¬ Text.of "*/" <:+: u

/-- `LeavesOpen s`: a definition of the document `s` has an open body, and the comment is not
closed in the rest of `s`.  The definitions in front of it are such whatever follows. -/
def LeavesOpen (s : Text) : Prop :=
  ∃ sts t st h b r, s = t ++ (h ++ (b ++ r)) ∧ (∀ r', Definitions sts t r') ∧ Header st h ∧
    OpenBody b ∧ ¬ Text.of "*/" <:+: r

variable {e f s t r y : Text} {st : Statement} {sts ts : List Statement}

/-- Definitions depend on what follows them only if one of them has an open body. -/
theorem Definitions.settled_or_open (h : Definitions sts t r) :
    (∀ r', Definitions sts t r') ∨ LeavesOpen (t ++ r) := by
  induction h with
  | nil => exact .inl fun _ => .nil
  | @cons st sts d e t r hd he _ ih =>
    obtain ⟨h, b, rfl, hh, hb⟩ := hd
    cases hb with
    | @plain f u _ hf hu hn ho =>
      have hd : ∀ r', Definition st (h ++ ("\x7b" ++ (f ++ (u ++ "\x7d")))) r' := fun r' =>
        ⟨h, _, rfl, hh, .plain hf hu hn ho⟩
      rcases ih with hall | ⟨sts', t', st', h', b', r', hs, hall, hopen⟩
      · exact .inl fun r' => .cons (hd _) he (hall r')
      · refine .inr ⟨st :: sts', _, st', h', b', r', ?_, fun r' => .cons (hd _) he (hall r'), hopen⟩
        simp [hs]
    | @unclosed f u _ hf hu hn hr =>
      refine .inr ⟨[], [], st, h, _, e ++ (t ++ r), by simp, fun _ => .nil, hh,
        ⟨f, u, rfl, hf, hu, hn⟩, hr⟩

/-- A definition stays what it is in front of a further line that closes no comment. -/
theorem Definition.extend {d : Text} (h : Definition st d r) (hy : ¬ Text.of "*/" <:+: y) :
    Definition st d (r ++ '\n' :: y) := by
  obtain ⟨h, b, rfl, hh, hb⟩ := h
  refine ⟨h, b, rfl, hh, ?_⟩
  cases hb with
  | plain hf hu hn ho => exact .plain hf hu hn ho
  | unclosed hf hu hn hr =>
    refine .unclosed hf hu hn ?_
    rw [blockClose_infix_iff (by decide), not_or]
    exact ⟨hr, hy⟩

theorem Definitions.extend (h : Definitions sts t r) (hy : ¬ Text.of "*/" <:+: y) :
    Definitions sts t (r ++ '\n' :: y) := by
  induction h with
  | nil => exact .nil
  | @cons st sts d e t r hd he _ ih =>
    have hd' := hd.extend hy
    rw [List.append_assoc, List.append_assoc] at hd'
    exact .cons hd' he ih

/-- Definitions stay what they are in front of a further document that closes nothing. -/
theorem Definitions.before (h : Definitions sts t r)
    (hy : LeavesOpen (t ++ r) → ¬ Text.of "*/" <:+: y) :
    Definitions sts t (r ++ '\n' :: y) := by
  rcases h.settled_or_open with hall | hopen
  · exact hall _
  · exact h.extend (hy hopen)

/-! ## 2. Two documents -/

theorem Definitions.append {u : Text} (h : Definitions sts t (u ++ r)) (hu : Definitions ts u r) :
    Definitions (sts ++ ts) (t ++ u) r := by
  generalize hs : u ++ r = s at h
  induction h with
  | nil => exact hu
  | @cons st sts d e t s hd he _ ih =>
    subst hs
    have hcons := Definitions.cons (t := t ++ u) (by simpa using hd) he (ih rfl)
    simpa using hcons

/-- Filler in front of a document goes to the comments of its first definition, and nowhere
else. -/
theorem Spelling.documented {bodies : List Text} (h : Spelling sts s) (hf : Run bodies f) :
    ∃ st more, sts = st :: more ∧
      Spelling ({ st with comments := bodies ++ st.comments } :: more) (f ++ s) := by
  obtain ⟨hne, t, e, rfl, hdefs, he⟩ := h
  cases hdefs with
  | nil => exact absurd rfl hne
  | @cons st sts d e' t _ hd he' hrest =>
    obtain ⟨_, b, rfl, hh, hb⟩ := hd
    cases hh with
    | intro hrun hdefine hne₁ hf₁ hfunction hne₂ hf₂ hpath hf₃ hps hf₄ =>
      have hheader : Header { st with comments := bodies ++ st.comments } _ :=
        .intro (hf.append hrun) hdefine hne₁ hf₁ hfunction hne₂ hf₂ hpath hf₃ hps hf₄
      refine ⟨st, sts, rfl, by simp, _, e, ?_, .cons ⟨_, b, rfl, hheader, hb⟩ he' hrest, he⟩
      simp [Statement.path]

/-- **A document behind definitions and filler.**  The comments of the filler go to the first
definition of the document, whether or not the last of them was closed by a line end. -/
theorem Spelling.behind {bodies : List Text} (hdefs : Definitions sts t (e ++ '\n' :: y))
    (he : Gap bodies e []) (hy : Spelling ts y) :
    ∃ st more, ts = st :: more ∧
      Spelling (sts ++ { st with comments := bodies ++ st.comments } :: more)
        ((t ++ e) ++ '\n' :: y) := by
  obtain ⟨st, more, rfl, -, t', e', heq, hdefs', he'⟩ := hy.documented (he.newline rfl)
  have hrest : e ++ '\n' :: y = t' ++ e' := by rw [← heq]; simp
  rw [hrest] at hdefs
  refine ⟨st, more, rfl, by simp, t ++ t', e', ?_, hdefs.append hdefs', he'⟩
  rw [List.append_assoc, List.append_assoc, hrest]

/-- **Two documents that do not interfere** are together the document of their definitions. -/
theorem spelling_append (hs : Spelling sts s) (hy : Spelling ts y)
    (hsafe : LeavesOpen s → ¬ Text.of "*/" <:+: y) :
    ∃ all, Spelling all (s ++ '\n' :: y) ∧ all.map shape = (sts ++ ts).map shape := by
  obtain ⟨hne, t, e, rfl, hdefs, he⟩ := hs
  obtain ⟨bodies, hg⟩ := ending_iff.mp he
  obtain ⟨st, more, rfl, hall⟩ := hy.behind (hdefs.before hsafe) hg
  exact ⟨_, hall, by simp [shape, Statement.path]⟩

/-! ## 3. Any number of documents -/

/-- No document leaves a body open that a later one closes. -/
def Safe : List Text → Prop
  | [] => True
  | s :: more => (LeavesOpen s → ∀ t ∈ more, ¬ Text.of "*/" <:+: t) ∧ Safe more

theorem newline_eq : Text.of "\n" = ['\n'] := by rw [Text.of_eq]; rfl

theorem not_infix_join {docs : List Text} (h : ∀ t ∈ docs, ¬ Text.of "*/" <:+: t) :
    ¬ Text.of "*/" <:+: Text.join "\n" docs := by
  induction docs with
  | nil => simp [Text.join, blockClose_eq]
  | cons s docs ih =>
    obtain ⟨hs, hdocs⟩ := List.forall_mem_cons.mp h
    cases docs with
    | nil => exact hs
    | cons t docs =>
      rw [Text.join, newline_eq, List.append_assoc, List.singleton_append,
        blockClose_infix_iff (by decide), not_or]
      exact ⟨hs, newline_eq ▸ ih hdocs⟩

/-- **Joining documents concatenates what they define**, if none leaves a body open that a later
one closes. -/
theorem spelling_join : ∀ {docs : List (Text × List Statement)}, docs ≠ [] →
    (∀ x ∈ docs, Spelling x.2 x.1) → Safe (docs.map Prod.fst) →
      ∃ all, Spelling all (Text.join "\n" (docs.map Prod.fst)) ∧
        all.map shape = (docs.flatMap Prod.snd).map shape
  | [x], _, h, _ => ⟨x.2, h x (by simp), by simp⟩
  | x :: y :: docs, _, h, hsafe => by
    obtain ⟨hx, hdocs⟩ := List.forall_mem_cons.mp h
    obtain ⟨all, hall, hshape⟩ := spelling_join (List.cons_ne_nil y docs) hdocs hsafe.2
    obtain ⟨all', hall', hshape'⟩ := spelling_append hx hall fun ho => not_infix_join (hsafe.1 ho)
    refine ⟨all', ?_, ?_⟩
    · simpa [Text.join, newline_eq] using hall'
    · rw [hshape', List.map_append, hshape, ← List.map_append, ← List.flatMap_cons]

/-! ## 4. A document that closes what was left open -/

/-- A document that ends in a comment, behind which there is no brace. -/
def closer : Text := "DEFINE FUNCTION fn::b() \x7b\x7d; /**/"

/-- What the document defines. -/
def closerStatement : Statement := ⟨[], "b", [], []⟩

/-- The document up to the end of its comment. -/
def closerFront : Text := "DEFINE FUNCTION fn::b() \x7b\x7d; /*"

theorem closer_eq : closer = closerFront ++ "*/" := by cbv

theorem closerFront_open : ¬ Text.of "*/" <:+: closerFront := by
  have hne : Text.of "*/" ≠ [] := by simp [blockClose_eq]
  exact (Text.indexOf?_eq_none_iff hne).mp (by cbv)

theorem spelling_closer : Spelling [closerStatement] closer := by
  have hw : closerStatement.Writable := ⟨by decide +kernel, by simp [closerStatement],
    by simp [closerStatement]⟩
  have hcomment : IsFiller (Text.of " " ++ (Text.of "/*" ++ ([] ++ (Text.of "*/" ++ [])))) :=
    isFiller_space.append ⟨_, .block (by simp [blockClose_eq]) .nil⟩
  refine ⟨by simp, _, _, ?_, .cons (definition_signature hw _) terminator_semicolon .nil,
    .filler hcomment⟩
  cbv

variable {c : Cursor} {b h : Text}

theorem toBrace_refuses (h : c.rest = []) : Refuses toBrace c := by
  have hi := (Text.indexOf?_eq_none_iff (m := ['\x7d']) (t := []) (by simp)).mpr (by simp)
  rw [Refuses, toBrace, braceClose_eq, Cursor.find?_eq_map (by simp), h, hi]
  exact fail_refuses _

/-- The comment of an open body runs up to the end of the closing document, so that no brace is
left to end the body. -/
theorem body_refuses (hb : OpenBody b) (hr : ¬ Text.of "*/" <:+: r)
    (hc : c.rest = b ++ (r ++ '\n' :: closer)) : Refuses body c := by
  obtain ⟨f, u, rfl, ⟨bodies, hf⟩, hu, hn⟩ := hb
  have hcomment : ¬ Text.of "*/" <:+: u ++ '\x7d' :: (r ++ '\n' :: closerFront) := by
    rw [blockClose_infix_iff (by decide), blockClose_infix_iff (by decide)]
    simp [hn, hr, closerFront_open]
  have hgap := (hf.append (.block hcomment .nil)).gap not_begins_nil
  have hc₁ : c.rest = Text.of "\x7b" ++ ((f ++ (Text.of "/*" ++
      ((u ++ '\x7d' :: (r ++ '\n' :: closerFront)) ++ (Text.of "*/" ++ [])))) ++ []) := by
    rw [hc, closer_eq, braceClose_eq]
    simp
  have hc₂ := Cursor.rest_past hc₁
  refine Refuses.of_ok ((single_exact isMark_brace.length_eq).complete hc₁ ⟨rfl, rfl⟩) ?_
  refine Refuses.of_ok (skip_exact.complete (v := ()) hc₂ ⟨_, hgap⟩) ?_
  exact toBrace_refuses (Cursor.rest_past hc₂)

theorem OpenBody.solid (hb : OpenBody b) : Solid b := by
  obtain ⟨f, u, rfl, -⟩ := hb
  exact isMark_brace.solid

theorem definition_refuses_open (hh : Header st h) (hb : OpenBody b) (hr : ¬ Text.of "*/" <:+: r)
    (hc : c.rest = h ++ (b ++ (r ++ '\n' :: closer))) : Refuses definition c := by
  rw [definition_eq_header]
  refine Refuses.of_ok (header_complete hc ⟨hh, hb.solid.append⟩) ?_
  exact (body_refuses hb hr (Cursor.rest_past hc)).bind

/-- **Behind a document that leaves a body open, the closing document is refused.** -/
theorem parseAll_closer (filename : Text) (hs : LeavesOpen s) (all : List Statement) :
    parseAll filename (s ++ '\n' :: closer) ≠ .ok all := by
  obtain ⟨sts, t, st, h, b, r, rfl, hdefs, hh, hb, hr⟩ := hs
  intro hparse
  obtain ⟨c', hparse⟩ := map_fst_ok_iff.mp hparse
  obtain ⟨hdoc, hend⟩ := complete_ok_iff.mp hparse
  obtain ⟨sts', c₁, hdefinitions, hskip⟩ := bind_ok_iff.mp hdoc
  have hc : (Cursor.ofSource ((t ++ (h ++ (b ++ r))) ++ '\n' :: closer) filename).rest =
      t ++ (h ++ (b ++ (r ++ '\n' :: closer))) := by simp [Cursor.ofSource, Cursor.ofOffset]
  generalize Cursor.ofSource _ filename = c at hc hdefinitions
  have hsemi := hh.head (s := b ++ (r ++ '\n' :: closer))
  obtain ⟨l, h, rfl, hl, hh, hhead⟩ := hh.exists_layout (s := b ++ (r ++ '\n' :: closer))
  rw [List.append_assoc] at hsemi
  have hc₁ : c.rest = t ++ (l ++ (h ++ (b ++ (r ++ '\n' :: closer)))) := by simp [hc]
  have hc₂ : (c.past (t ++ l)).rest = h ++ (b ++ (r ++ '\n' :: closer)) :=
    Cursor.rest_past (by simp [hc₁])
  have hstop := definition_refuses_open hh hb hr hc₂
  by_cases hne : sts = []
  · subst hne
    cases hdefs []
    -- no definition at all is read
    rw [List.nil_append] at hc₁ hstop
    obtain ⟨e, he, -⟩ := definitions_refuses hc₁ hl hhead hstop
    exact absurd (he.symm.trans hdefinitions) (by simp)
  · -- what is read ends in front of the header, which is not filler
    have hdefinitions' := definitions_complete (hdefs _) hne hc₁ hl hhead hsemi hstop
    rw [hdefinitions'] at hdefinitions
    obtain ⟨rfl, rfl⟩ := Prod.mk.inj (Except.ok.inj hdefinitions)
    obtain ⟨_, c₂, hskip, hpure⟩ := bind_ok_iff.mp hskip
    obtain ⟨-, rfl⟩ := pure_ok_iff.mp hpure
    obtain ⟨g, r', hr', rfl, bodies, hg⟩ := skip_exact.sound hskip
    rw [Cursor.rest_past hr'] at hend
    subst hend
    rw [List.append_nil, hc₂] at hr'
    exact hh.not_gap (hr' ▸ hg)

/-! ## 5. Which documents may be joined -/

/-- **Joining documents.**  The join of documents defines what these define, one after the other,
if no document leaves a body open that a later one closes; and that a document leaves a body open
is just what makes some further document unfit to stand behind it. -/
theorem parseAll_join (filename : Text) :
    (∀ docs : List (Text × List Statement), docs ≠ [] →
      (∀ x ∈ docs, parseAll filename x.1 = .ok x.2) → Safe (docs.map Prod.fst) →
        ∃ all, parseAll filename (Text.join "\n" (docs.map Prod.fst)) = .ok all ∧
          all.map shape = (docs.flatMap Prod.snd).map shape) ∧
    (∀ s sts, parseAll filename s = .ok sts →
      (LeavesOpen s ↔ ∃ y ts, parseAll filename y = .ok ts ∧
        ¬ ∃ all, parseAll filename (Text.join "\n" [s, y]) = .ok all ∧
          all.map shape = (sts ++ ts).map shape)) := by
  have hsafe : ∀ docs : List (Text × List Statement), docs ≠ [] →
      (∀ x ∈ docs, parseAll filename x.1 = .ok x.2) → Safe (docs.map Prod.fst) →
        ∃ all, parseAll filename (Text.join "\n" (docs.map Prod.fst)) = .ok all ∧
          all.map shape = (docs.flatMap Prod.snd).map shape := by
    intro docs hne hdocs hs
    obtain ⟨all, hall, hshape⟩ := spelling_join hne (fun x hx => parseAll_sound (hdocs x hx)) hs
    exact ⟨all, parseAll_complete hall, hshape⟩
  refine ⟨hsafe, fun s sts hs => ⟨fun hopen => ?_, ?_⟩⟩
  · refine ⟨closer, [closerStatement], parseAll_complete spelling_closer, ?_⟩
    rintro ⟨all, hall, -⟩
    refine parseAll_closer filename hopen all ?_
    simpa [Text.join, newline_eq] using hall
  · rintro ⟨y, ts, hy, hfail⟩
    -- a document that leaves nothing open could not fail
    refine Classical.byContradiction fun hclosed => hfail ?_
    have hpair : Safe [s, y] := ⟨fun h => absurd h hclosed, by simp, trivial⟩
    have hjoin := hsafe [(s, sts), (y, ts)] (by simp) (by simp [hs, hy]) hpair
    simpa using hjoin

/-- A document that leaves a body open, and one behind it that does not close it. -/
theorem parseAll_join_open :
    ∃ all, parseAll [] (Text.join "\n"
        ["DEFINE FUNCTION fn::a() \x7b /* \x7d;", "DEFINE FUNCTION fn::b() \x7b\x7d;"]) = .ok all ∧
      all.map shape = [([Text.of "a"], []), ([Text.of "b"], [])] := by
  have hne : Text.of "*/" ≠ [] := by simp [blockClose_eq]
  have hb : ¬ Text.of "*/" <:+: Text.of "DEFINE FUNCTION fn::b() \x7b\x7d;" :=
    (Text.indexOf?_eq_none_iff hne).mp (by cbv)
  exact (parseAll_join []).1
    [("DEFINE FUNCTION fn::a() \x7b /* \x7d;", [⟨[], "a", [], []⟩]),
      ("DEFINE FUNCTION fn::b() \x7b\x7d;", [⟨[], "b", [], []⟩])]
    (by simp)
    (List.forall_mem_cons.mpr ⟨ok_of_toOption (by decide +kernel),
      List.forall_mem_cons.mpr ⟨ok_of_toOption (by decide +kernel), by simp⟩⟩)
    ⟨fun _ => by simpa using hb, by simp, trivial⟩

/-- Two documents that define a function each, and define only one when they are joined: the
comment in the second one closes the body of the first. -/
theorem parseAll_join_unclosed :
    parseAll [] "DEFINE FUNCTION fn::a() \x7b /* \x7d;" = .ok [⟨[], "a", [], []⟩] ∧
    parseAll [] "DEFINE FUNCTION fn::b() \x7b RETURN 1; /* done */ \x7d;" = .ok [⟨[], "b", [], []⟩] ∧
    parseAll [] (Text.join "\n" ["DEFINE FUNCTION fn::a() \x7b /* \x7d;",
        "DEFINE FUNCTION fn::b() \x7b RETURN 1; /* done */ \x7d;"]) =
      .ok [⟨[], "a", [], []⟩] := by
  refine ⟨?_, ?_, ?_⟩
  · exact ok_of_toOption (by decide +kernel)
  · exact ok_of_toOption (by decide +kernel)
  · exact ok_of_toOption (by decide +kernel)

end StoredFunctions.Statement
