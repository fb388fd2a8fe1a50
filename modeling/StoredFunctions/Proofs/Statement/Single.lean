/-
# Texts of a single definition

A text with one definition can be read as a definition alone, whose semicolons may be missing, or
as a document, whose semicolons may not.  The two ways agree (`parse_iff_parseAll`): the documents
of one statement are the single definitions with a terminator behind the body, and a definition
without a terminator becomes a document by a semicolon on a line of its own.

The line end in front of that semicolon matters: the definition may end in a comment without a line
end, which would swallow it.  In the other direction nothing but the line end and the semicolon can
have been added, since a definition ends in a brace and what stands behind it is filler
(`ending_iff_newline`).
-/
import StoredFunctions.Proofs.Statement.Concatenation
import StoredFunctions.Proofs.Statement.Decomposition

namespace StoredFunctions.Statement

open StoredFunctions.Parser Filler Punctuation

variable {c : Cursor} {d e f r s t z filename : Text} {st : Statement}

/-! ## 1. Terminators -/

/-- A terminator is read wherever filler and a semicolon stand, however many semicolons and however
much white space follow. -/
theorem exists_terminator_iff :
    (∃ c', terminator c = .ok ((), c')) ↔ ∃ e r, c.rest = e ++ r ∧ Terminator e := by
  constructor
  · rintro ⟨c', h⟩
    obtain ⟨_, r, hr, -, e, l, rfl, he, -⟩ := terminator_sound h
    exact ⟨e, l ++ r, by rw [hr, List.append_assoc], he⟩
  · rintro ⟨e, r, hr, f, s, rfl, hf, n, rfl⟩
    obtain ⟨s, u, rfl, hs, hu⟩ := Text.exists_span (· == ';') r
    obtain ⟨l, v, rfl, hl, hv⟩ := Text.exists_span isLayout u
    have hs' : s = List.replicate s.length ';' :=
      List.eq_replicate_iff.mpr ⟨rfl, by simpa using hs⟩
    have hend : Terminator (f ++ (List.replicate (n + 1) ';' ++ s)) := by
      refine ⟨f, _, rfl, hf, n + s.length, ?_⟩
      rw [hs', List.length_replicate, ← List.replicate_add]
      congr 1
      omega
    have hsemi : ';' ∉ (l ++ v).head? := fun h => by simpa using hu _ h
    exact ⟨_, terminator_complete (by simpa using hr) hend hl hv hsemi⟩

/-- `Terminated c`: at `c` stands a definition, and a terminator behind it. -/
def Terminated (c : Cursor) : Prop :=
  ∃ c', (do let _ ← definition; terminator : Parser Unit) c = .ok ((), c')

theorem terminated_iff (hc : c.rest = d ++ r) (hd : Definition st d r) :
    Terminated c ↔ ∃ e s, r = e ++ s ∧ Terminator e := by
  rw [Terminated, bind_of_ok (definition_complete hc hd), exists_terminator_iff,
    Cursor.rest_past hc]

/-- What may stand at the end of a document holds no terminator. -/
theorem Ending.not_terminator (h : Ending (e ++ r)) : ¬ Terminator e := by
  rintro ⟨f, s, rfl, ⟨bodies, hf⟩, hs⟩
  obtain ⟨bodies', hg⟩ := ending_iff.mp h
  have hgap := hf.gap (hs.solid (r := r)).not_begins
  obtain ⟨-, -, hnil⟩ := documentation_exact.complete.unique hg hgap (by simp)
  obtain ⟨n, rfl⟩ := hs
  exact absurd hnil (by simp)

/-! ## 2. The line end -/

theorem not_begins_newline (hr : r ≠ []) (h : ¬ Begins r) : ¬ Begins (r ++ ['\n']) := by
  rintro (⟨x, hx, hl⟩ | ⟨mark, hm, hp⟩ | ⟨body, rest, hb⟩)
  · rw [List.head?_append_of_ne_nil r hr] at hx
    exact h (.inl ⟨x, hx, hl⟩)
  · have hline : '\n' ∉ mark := by rcases mem_lineMarks.mp hm with rfl | rfl | rfl <;> decide
    exact h (.inr (.inl ⟨mark, hm, (prefix_append_cons_iff hline).mp hp⟩))
  · have hopen : Text.of "/*" <+: r :=
      (prefix_append_cons_iff (by rw [blockOpen_eq]; decide)).mp ⟨_, hb.symm⟩
    obtain ⟨u, rfl⟩ := hopen
    rw [List.append_assoc] at hb
    have hclose : Text.of "*/" <:+: u ++ ['\n'] := by
      rw [List.append_cancel_left hb]
      exact ⟨body, rest, by simp⟩
    rcases (blockClose_infix_iff (by decide)).mp hclose with ⟨v, w, rfl⟩ | hnil
    · exact h (.inr (.inr ⟨v, w, by simp⟩))
    · exact absurd hnil (by simp [blockClose_eq])

/-- **What may stand at the end of a document** is what a line end makes filler. -/
theorem ending_iff_newline : Ending e ↔ IsFiller (e ++ ['\n']) := by
  rw [ending_iff]
  constructor
  · rintro ⟨bodies, hg⟩
    exact ⟨bodies, hg.newline rfl⟩
  · rintro ⟨bodies, hf⟩
    obtain ⟨bodies', t, r, rfl, hg⟩ := exists_gap e
    by_cases hr : r = []
    · subst hr
      rw [List.append_nil]
      exact ⟨bodies', hg⟩
    · -- the gap would end in front of `r` with the line end behind it as well
      have hgap := (hg.run hr).gap (not_begins_newline hr hg.not_begins)
      obtain ⟨-, -, hnil⟩ :=
        documentation_exact.complete.unique (hf.gap not_begins_nil) hgap (by simp)
      exact absurd hnil (by simp)

/-! ## 3. Both ways to read a definition -/

theorem spelling_singleton_iff :
    Spelling [st] s ↔ ∃ d z e, s = d ++ (z ++ e) ∧ Definition st d (z ++ e) ∧ Terminator z ∧
      Ending e := by
  constructor
  · rintro ⟨-, t, e, rfl, hdefs, he⟩
    cases hdefs with
    | @cons _ _ d z _ _ hd hz hnil =>
      cases hnil with
      | nil => exact ⟨d, z, e, by simp, hd, hz, he⟩
  · rintro ⟨d, z, e, rfl, hd, hz, he⟩
    exact ⟨by simp, d ++ (z ++ []), e, by simp, .cons hd hz .nil, he⟩

/-- A definition with a terminator is a document, and the other way round. -/
theorem spelling_iff_lone (hc : c.rest = s) :
    Spelling [st] s ↔ LoneSpelling st s ∧ Terminated c := by
  rw [spelling_singleton_iff]
  constructor
  · rintro ⟨d, z, e, rfl, hd, hz, he⟩
    exact ⟨⟨d, z, e, rfl, hd, .inr hz, he⟩, (terminated_iff hc hd).mpr ⟨z, e, rfl, hz⟩⟩
  · rintro ⟨⟨d, z, e, rfl, hd, rfl | hz, he⟩, hterm⟩
    · obtain ⟨e', r, rfl, he'⟩ := (terminated_iff hc hd).mp hterm
      exact absurd he' he.not_terminator
    · exact ⟨d, z, e, rfl, hd, hz, he⟩

/-- A definition ends in a brace, so it ends in front of a line end and a semicolon. -/
theorem Definition.exists_tail (hd : Definition st d r) (h : s ++ ['\n', ';'] = d ++ r) :
    ∃ s', s = d ++ s' := by
  obtain ⟨k, b, rfl, -, hb⟩ := hd
  obtain ⟨f, u, rfl, -, -, -⟩ := body_iff.mp hb
  rcases List.append_eq_append_iff.mp h with ⟨w, hw, htail⟩ | ⟨w, hw, -⟩
  · rcases List.eq_nil_or_concat w with rfl | ⟨w, x, rfl⟩
    · exact ⟨[], by rw [hw, List.append_nil, List.append_nil]⟩
    · -- the brace would be the line end or the semicolon
      have hlast := congrArg List.getLast? hw
      obtain rfl : '\x7d' = x := by simpa [braceClose_eq] using hlast
      have hmem : '\x7d' ∈ ['\n', ';'] := by simp [htail]
      exact absurd hmem (by decide)
  · exact ⟨w, hw⟩

/-- If filler and a semicolon begin a text only once a line end and a semicolon are put behind it,
then these two are what was missing. -/
theorem ending_of_unterminated (hf : IsFiller f) (h : s ++ ['\n', ';'] = f ++ (';' :: t))
    (hn : ¬ ∃ e r, s = e ++ r ∧ Terminator e) : Ending s := by
  rcases List.append_eq_append_iff.mp h with ⟨w, rfl, hw⟩ | ⟨w, rfl, hw⟩
  · match w with
    | [] => simp at hw
    | [x] =>
      obtain rfl : '\n' = x := by simpa using congrArg List.head? hw
      exact ending_iff_newline.mpr hf
    | x :: y :: w => simp at hw
  · match w with
    | [] => simp at hw
    | x :: w =>
      obtain ⟨rfl, -⟩ := List.cons.inj hw
      exact absurd ⟨f ++ [';'], w, by simp, f, [';'], rfl, hf, 0, rfl⟩ hn

/-- A definition without a terminator becomes a document by a line end and a semicolon. -/
theorem lone_iff_spelling_newline (hc : c.rest = s) (hn : ¬ Terminated c) :
    LoneSpelling st s ↔ Spelling [st] (s ++ ['\n', ';']) := by
  rw [spelling_singleton_iff]
  constructor
  · rintro ⟨d, z, e, rfl, hd, rfl | hz, he⟩
    · have hf : IsFiller (e ++ ['\n']) := ending_iff_newline.mp he
      have hopen : ¬ Text.of "*/" <:+: [';'] := by rw [blockClose_eq]; decide
      have hd' : Definition st d (e ++ ['\n', ';']) := hd.extend hopen
      exact ⟨d, (e ++ ['\n']) ++ [';'], [], by simp, by simpa using hd', ⟨_, _, rfl, hf, 0, rfl⟩,
        .filler isFiller_nil⟩
    · exact absurd ((terminated_iff hc hd).mpr ⟨z, e, rfl, hz⟩) hn
  · rintro ⟨d, z, e, hs, hd, ⟨f, w, rfl, hf, n, rfl⟩, -⟩
    obtain ⟨s, rfl⟩ := hd.exists_tail hs
    rw [List.append_assoc] at hs
    have htail := List.append_cancel_left hs
    rw [← htail] at hd
    have hd' : Definition st d s := hd.shorten
    rw [terminated_iff hc hd'] at hn
    have hsemi : s ++ ['\n', ';'] = f ++ (';' :: (List.replicate n ';' ++ e)) := by
      simpa [List.replicate_succ] using htail
    exact ⟨d, [], s, rfl, hd', .inl rfl, ending_of_unterminated hf hsemi hn⟩

theorem parse_ok_iff_lone : parse filename s = .ok st ↔ LoneSpelling st s :=
  ⟨parse_sound, parse_complete⟩

/-- **Both ways to read a definition agree.**  A text is the document of one statement if and only
if it is the single definition of that statement with a terminator behind the body.  Without a
terminator there, it is the single definition of a statement if and only if it becomes the document
of that statement by a line end and a semicolon. -/
theorem parse_iff_parseAll (filename s : Text) (st : Statement) :
    (parseAll filename s = .ok [st] ↔
        parse filename s = .ok st ∧ Terminated (.ofSource s filename)) ∧
      (¬ Terminated (.ofSource s filename) →
        (parse filename s = .ok st ↔ parseAll filename (s ++ "\n;") = .ok [st])) := by
  have hline : Text.of "\n;" = ['\n', ';'] := by rw [Text.of_eq]; rfl
  have hc : (Cursor.ofSource s filename).rest = s := rfl
  constructor
  · rw [parseAll_ok_iff_spelling, parse_ok_iff_lone]
    exact spelling_iff_lone hc
  · intro hn
    rw [parseAll_ok_iff_spelling, parse_ok_iff_lone, hline]
    exact lone_iff_spelling_newline hc hn

/-- A definition with an open body and a comment without a line end behind it: it has no
terminator, and is given one. -/
theorem parse_iff_parseAll_unterminated :
    let s : Text := "# 1\nDEFINE FUNCTION fn::a() \x7b /* ; \x7d -- ;"
    ¬ Terminated (.ofSource s []) ∧ parse [] s = .ok ⟨[], "a", [], ["1"]⟩ ∧
      parseAll [] (s ++ "\n;") = .ok [⟨[], "a", [], ["1"]⟩] := by
  intro s
  have hn : ¬ Terminated (.ofSource s []) := by
    rintro ⟨c', h⟩
    have hnone : ((definition >>= fun _ => terminator) (.ofSource s [])).toOption = none := by
      decide +kernel
    rw [h] at hnone
    exact absurd hnone (by simp [Except.toOption])
  have hparse : parse [] s = .ok ⟨[], "a", [], ["1"]⟩ := ok_of_toOption (by decide +kernel)
  exact ⟨hn, hparse, ((parse_iff_parseAll [] s _).2 hn).mp hparse⟩

end StoredFunctions.Statement
