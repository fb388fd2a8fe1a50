/-
# Docstrings of the generated module

The generated module has texts from outside between triple quotes.  The comments in front of a
function are written with a backslash before every quote and every backslash, so that each of
their characters is a unit of its own, and the docstring ends where it should whatever they say.
It stands for them, but for two characters that are left as they are: a carriage return, which a
module's reader takes for a line feed, and the character zero, which it refuses
(`docLines_inModule`).

The names of the sources go into the title as they are.  So it ends where it should, and says what
it should, for some of them only (`Harmless`), and just for those (`render_title_iff`).
-/
import Mathlib.Data.List.Infix
import StoredFunctions.Proofs.Bindings.Emission
import StoredFunctions.Proofs.Punctuation.Reading
import StoredFunctions.Proofs.Text.Literal

namespace StoredFunctions.Bindings

open Literal (Encodes)

variable {rule : NamingRule} {origin text : Text} {sources : List Text}
  {statements : List Statement} {depth : Nat} {first : Text} {more : List Text}

/-! ## 1. Comments -/

/-- What the docstring for comments should stand for: a single comment stands for itself, and
behind the first of several comments each line has the indentation of the docstring, but for empty
ones. -/
def docValue (depth : Nat) : List Text → Text
  | [] => []
  | [comment] => comment
  | first :: more =>
    first ++
      (more.flatMap fun c =>
        '\n' :: if c.isEmpty then [] else List.replicate (4 * depth) ' ' ++ c) ++
      '\n' :: List.replicate (4 * depth) ' '

theorem encodes_docChar (c : Char) : Encodes docQuotes (docChar c) [c] := by
  rw [docChar]
  split
  · rename_i h
    simp only [Bool.or_eq_true, decide_eq_true_eq] at h
    rcases h with rfl | rfl
    · exact Literal.encodes_single (by decide) (by decide) (by decide)
    · exact Literal.encodes_single (by decide) (by decide) (by decide)
  · rename_i h
    simp only [Bool.or_eq_true, decide_eq_true_eq, not_or] at h
    refine Literal.encodes_plain h.1 ?_ (by simp [docQuotes]) (by simp [docQuotes])
    rintro x ⟨⟩
    exact fun hx => h.2 hx.symm

theorem encodes_docText (comment : Text) : Encodes docQuotes (docText comment) comment :=
  .units fun c _ => encodes_docChar c

/-- What needs no backslash is written as it is. -/
theorem docText_of_plain {t : Text} (h : ∀ c ∈ t, c ≠ '\\' ∧ c ≠ '"') : docText t = t := by
  induction t with
  | nil => rfl
  | cons c t ih =>
    obtain ⟨⟨hb, hq⟩, ht⟩ := List.forall_mem_cons.mp h
    have hchar : docChar c = [c] := by simp [docChar, hb, hq]
    rw [docText, List.flatMap_cons, hchar, ← docText, ih ht, List.singleton_append]

theorem docText_append (s t : Text) : docText (s ++ t) = docText s ++ docText t :=
  List.flatMap_append

theorem docText_lineStart (n : Nat) :
    docText ('\n' :: List.replicate n ' ') = '\n' :: List.replicate n ' ' := by
  refine docText_of_plain (List.forall_mem_cons.mpr ⟨by decide, fun c hc => ?_⟩)
  obtain rfl := List.eq_of_mem_replicate hc
  decide

/-- A line of the docstring is what its comment is written as. -/
theorem docText_docLine (depth : Nat) (comment : Text) :
    docText ('\n' :: if comment.isEmpty then [] else List.replicate (4 * depth) ' ' ++ comment) =
      '\n' :: if comment.isEmpty then [] else line depth (docText comment) := by
  split
  · exact docText_lineStart 0
  · rw [← List.cons_append, docText_append, docText_lineStart, List.cons_append, line]

/-- **The lines of a docstring** are the quotes around what it stands for, with a backslash before
every quote and every backslash. -/
theorem join_docLines (depth : Nat) (first : Text) (more : List Text) :
    Text.join "\n" (docLines depth (first :: more)) =
      line depth (docQuotes ++ (docText (docValue depth (first :: more)) ++ docQuotes)) := by
  cases more with
  | nil => simp [docLines, docValue, Text.join]
  | cons second more =>
    have hmore : docText ((second :: more).flatMap fun c =>
          '\n' :: if c.isEmpty then [] else List.replicate (4 * depth) ' ' ++ c) =
        (second :: more).flatMap fun c =>
          '\n' :: if c.isEmpty then [] else line depth (docText c) := by
      rw [docText, List.flatMap_assoc]
      exact congrArg (List.flatMap · (second :: more)) (funext (docText_docLine depth))
    rw [docValue, docText_append, docText_append, hmore, docText_lineStart, docLines,
      List.cons_append, Text.join_cons, List.flatMap_append, List.flatMap_map]
    · simp [line, Text.lineFeed_eq]
    · simp
    · simp

/-- No characters but backslashes are put in. -/
theorem mem_docChar_iff {c d : Char} (hc : c ≠ '\\') : c ∈ docChar d ↔ c = d := by
  rw [docChar]
  split
  · simp [hc]
  · simp

theorem mem_docText_iff {c : Char} {t : Text} (hc : c ≠ '\\') : c ∈ docText t ↔ c ∈ t := by
  simp [docText, mem_docChar_iff hc]

theorem lineFeed_not_mem_head_docText {t : Text} (h : '\n' ∉ t.head?) :
    '\n' ∉ (docText t).head? := by
  cases t with
  | nil => exact h
  | cons c t =>
    rw [docText, List.flatMap_cons, docChar]
    split
    · simp
    · simpa using h

/-- Line ends are the same before and after the backslashes are put in. -/
theorem unifyLines_docText (t : Text) : (docText t).unifyLines = docText t.unifyLines := by
  induction t using Text.unifyLines_induction with
  | nil => rfl
  | pair t ih =>
    have hdoc : docText ('\r' :: '\n' :: t) = '\r' :: '\n' :: docText t := rfl
    rw [hdoc, Text.unifyLines, Text.unifyLines, if_pos rfl, if_pos rfl, ih]
    rfl
  | lone t ht ih =>
    have hdoc : docText ('\r' :: t) = '\r' :: docText t := rfl
    rw [hdoc, Text.unifyLines_return (lineFeed_not_mem_head_docText ht),
      Text.unifyLines_return ht, ih]
    rfl
  | other c t hc ih =>
    have hchar : '\r' ∉ docChar c := (mem_docChar_iff (by decide)).not.mpr hc.symm
    have hseam : '\r' ∉ (docChar c).getLast? := fun h => hchar (List.mem_of_getLast? h)
    rw [docText, List.flatMap_cons, Text.unifyLines_append fun h => absurd h hseam,
      Text.unifyLines_eq_self_iff.mpr hchar, ← docText, ih, Text.unifyLines_cons hc]
    rfl

/-- The characters of a docstring's value are those of the comments, line feeds and spaces. -/
theorem mem_docValue_iff {c : Char} (hline : c ≠ '\n') (hspace : c ≠ ' ') :
    c ∈ docValue depth (first :: more) ↔ ∃ comment ∈ first :: more, c ∈ comment := by
  cases more with
  | nil => simp [docValue]
  | cons second more =>
    have hindented : ∀ comment : Text,
        (c ∈ if comment.isEmpty then [] else List.replicate (4 * depth) ' ' ++ comment) ↔
          c ∈ comment := by
      intro comment
      cases comment with
      | nil => simp
      | cons d comment => simp [hspace]
    simp only [docValue, List.mem_append, List.mem_flatMap, List.mem_cons, List.mem_replicate,
      hindented, hline, hspace, false_or, and_false, or_false, exists_eq_or_imp]

/-- The literal between the quotes stands for the text, and ends with the quotes behind it. -/
theorem delimited_docText (named : Text → Option Char) (value behind : Text) :
    Literal.delimited named docQuotes (docQuotes ++ (docText value ++ (docQuotes ++ behind))) =
      some (value, behind) :=
  Literal.delimited_of_encodes (by decide) (encodes_docText value)

/-- A text between the quotes is read with the line ends unified, unless a zero is in it. -/
theorem docstring_inModule (named : Text → Option Char) (value : Text) :
    Literal.inModule named docQuotes (docQuotes ++ (docText value ++ docQuotes)) =
      if '\x00' ∈ value then none else some (value.unifyLines, []) := by
  have hunify : (docQuotes ++ (docText value ++ docQuotes)).unifyLines =
      (docQuotes ++ (docText value.unifyLines ++ docQuotes)) ++ [] := by
    rw [Text.unifyLines_append (by simp [docQuotes]), Text.unifyLines_append (by simp [docQuotes]),
      unifyLines_docText, Text.unifyLines_eq_self_iff.mpr (by simp [docQuotes]), List.append_nil]
  have hread : Literal.delimited named docQuotes
      (docQuotes ++ (docText value ++ docQuotes)).unifyLines = some (value.unifyLines, []) := by
    rw [hunify, List.append_assoc, List.append_assoc]
    exact delimited_docText named value.unifyLines []
  have hinside : '\x00' ∈ docText value.unifyLines ↔ '\x00' ∈ value :=
    (mem_docText_iff (by decide)).trans (Text.mem_unifyLines_iff (by decide) (by decide))
  have hzero : '\x00' ∈ docQuotes ++ (docText value.unifyLines ++ docQuotes) ↔ '\x00' ∈ value := by
    simp [docQuotes, hinside]
  rw [Literal.inModule_of_delimited hunify hread]
  simp only [hzero]

/-- **What a docstring says to the reader of its module.**  Whatever the comments are, the literal
behind the indentation is closed by the last three quotes, and its escapes stand for the comments.
But a module with the character zero in it is refused, and all line ends are line feeds to its
reader.  So the docstring stands for the comments just when no comment has a zero or a carriage
return in it. -/
theorem docLines_inModule (named : Text → Option Char) (depth : Nat) (first : Text)
    (more : List Text) :
    ∃ written, Text.join "\n" (docLines depth (first :: more)) =
        List.replicate (4 * depth) ' ' ++ written ∧
      Literal.delimited named docQuotes written = some (docValue depth (first :: more), []) ∧
      Literal.inModule named docQuotes written =
        (if ∃ comment ∈ first :: more, '\x00' ∈ comment then none
        else some ((docValue depth (first :: more)).unifyLines, [])) ∧
      (Literal.inModule named docQuotes written = some (docValue depth (first :: more), []) ↔
        ∀ comment ∈ first :: more, '\x00' ∉ comment ∧ '\r' ∉ comment) := by
  have hmodule := docstring_inModule named (docValue depth (first :: more))
  have hreturn : (docValue depth (first :: more)).unifyLines = docValue depth (first :: more) ↔
      ∀ comment ∈ first :: more, '\r' ∉ comment := by
    rw [Text.unifyLines_eq_self_iff, mem_docValue_iff (by decide) (by decide)]
    simp
  simp only [mem_docValue_iff (c := '\x00') (by decide) (by decide)] at hmodule
  have hread := delimited_docText named (docValue depth (first :: more)) []
  rw [List.append_nil] at hread
  refine ⟨_, join_docLines depth first more, hread, hmodule, ?_⟩
  rw [hmodule, forall₂_and, ← hreturn]
  split
  · rename_i hzero
    exact iff_of_false (by simp) fun h => hzero.elim fun comment hc => h.1 comment hc.1 hc.2
  · rename_i hzero
    simpa using fun _ comment hcomment hmem => hzero ⟨comment, hcomment, hmem⟩

/-- A zero in a comment spoils its module, and a carriage return comes back as a line feed. -/
theorem docLines_inModule_spoiled :
    (∃ written, Text.join "\n" (docLines 1 ["a\x00b"]) = List.replicate 4 ' ' ++ written ∧
      ∀ named, Literal.inModule named docQuotes written = none) ∧
    ∃ written, Text.join "\n" (docLines 1 ["a\rb"]) = List.replicate 4 ' ' ++ written ∧
      ∀ named, Literal.inModule named docQuotes written = some (Text.of "a\nb", []) := by
  refine ⟨⟨_, join_docLines 1 _ [], fun named => ?_⟩, ⟨_, join_docLines 1 _ [], fun named => ?_⟩⟩
  · rw [docstring_inModule, docValue, if_pos]
    rw [Text.of_eq]
    decide
  · rw [docstring_inModule, docValue, if_neg]
    · rw [Text.of_eq, Text.of_eq]
      rfl
    · rw [Text.of_eq]
      decide

/-! ## 2. The title -/

/-- What the title says. -/
def title (origin : Text) : Text :=
  "Bindings generated by surqlfn" ++
    if origin.isEmpty then Text.of "." else " from " ++ origin ++ "."

/-- Whether an origin can stand in the title as it is: it has no three quotes side by side, no
backslash in it begins an escape, and it has neither a carriage return nor a zero. -/
structure Harmless (origin : Text) : Prop where
  quotes : ¬ docQuotes <:+: origin
  backslashes : ∀ c, ['\\', c] <:+: origin → Literal.startsEscape c = false
  lineEnds : '\r' ∉ origin
  zeros : '\x00' ∉ origin

instance (origin : Text) : Decidable (Harmless origin) :=
  decidable_of_iff (¬ docQuotes <:+: origin ∧
      (∀ c ∈ origin, ['\\', c] <:+: origin → Literal.startsEscape c = false) ∧
      '\r' ∉ origin ∧ '\x00' ∉ origin) (by
    constructor
    · rintro ⟨hquotes, hbackslashes, hreturn, hzero⟩
      exact ⟨hquotes, fun c h => hbackslashes c (h.subset (by simp)) h, hreturn, hzero⟩
    · rintro ⟨hquotes, hbackslashes, hreturn, hzero⟩
      exact ⟨hquotes, fun c _ h => hbackslashes c h, hreturn, hzero⟩)

theorem titleLine_eq : titleLine origin = docQuotes ++ (title origin ++ docQuotes) := by
  simp [titleLine, title]

theorem exists_title_eq (origin : Text) : ∃ front, title origin = front ++ (origin ++ ['.']) ∧
    ∀ c ∈ front, c ≠ '"' ∧ c ≠ '\\' ∧ c ≠ '\r' ∧ c ≠ '\x00' := by
  have hdot : Text.of "." = ['.'] := by rw [Text.of_eq]; rfl
  cases origin with
  | nil =>
    refine ⟨"Bindings generated by surqlfn", by simp [title, hdot], ?_⟩
    rw [Text.of_eq]
    decide
  | cons c origin =>
    refine ⟨"Bindings generated by surqlfn" ++ " from ", by simp [title, hdot], ?_⟩
    rw [Text.of_eq, Text.of_eq]
    decide

/-- What ends a text ends with its last character. -/
theorem eq_of_suffix_concat {s t : Text} {c d : Char} (h : s ++ [c] <:+ t ++ [d]) : c = d := by
  have hlast := h.getLast (by simp)
  simpa using hlast

/-- What is around the origin in the title has none of the characters that do harm, and does not go
on with them. -/
theorem harmless_iff : Harmless origin ↔ ¬ docQuotes <:+: title origin ∧
    (∀ c, ['\\', c] <:+: title origin → Literal.startsEscape c = false) ∧
    '\r' ∉ title origin ∧ '\x00' ∉ title origin := by
  obtain ⟨front, htitle, hfront⟩ := exists_title_eq origin
  have hnot : ∀ c, c = '"' ∨ c = '\\' ∨ c = '\r' ∨ c = '\x00' → c ∉ front := by
    intro c hc hmem
    have hne := hfront c hmem
    tauto
  have hquotes : docQuotes <:+: title origin ↔ docQuotes <:+: origin := by
    rw [htitle, docQuotes, Literal.infix_append_of_not_mem (hnot _ (by simp)),
      List.infix_concat_iff]
    exact or_iff_right fun h => absurd (eq_of_suffix_concat (s := ['"', '"']) h) (by decide)
  have hbackslashes : ∀ c, ['\\', c] <:+: title origin ↔
      (['\\', c] <:+ origin ++ ['.'] ∨ ['\\', c] <:+: origin) := by
    intro c
    rw [htitle, Literal.infix_append_of_not_mem (hnot _ (by simp)), List.infix_concat_iff]
  have hreturn : '\r' ∈ title origin ↔ '\r' ∈ origin := by simp [htitle, hnot]
  have hzero : '\x00' ∈ title origin ↔ '\x00' ∈ origin := by simp [htitle, hnot]
  simp only [hquotes, hbackslashes, hreturn, hzero]
  constructor
  · rintro ⟨hq, hb, hr, hz⟩
    refine ⟨hq, ?_, hr, hz⟩
    rintro c (h | h)
    · -- the dot behind the origin begins no escape
      obtain rfl : c = '.' := eq_of_suffix_concat (s := ['\\']) h
      decide
    · exact hb c h
  · rintro ⟨hq, hb, hr, hz⟩
    exact ⟨hq, fun c h => hb c (.inr h), hr, hz⟩

/-- A title without carriage returns is read as what it says just when the rest of it does no
harm either. -/
theorem delimited_title_iff {named : Text → Option Char} {behind : Text} :
    Literal.delimited named docQuotes (docQuotes ++ (title origin ++ (docQuotes ++ behind))) =
        some (title origin, behind) ↔
      ¬ docQuotes <:+: title origin ∧
        ∀ c, ['\\', c] <:+: title origin → Literal.startsEscape c = false := by
  obtain ⟨front, htitle, -⟩ := exists_title_eq origin
  have hquote : '"' ∉ (title origin).getLast? := by simp [htitle]
  have hbackslash : '\\' ∉ (title origin).getLast? := by simp [htitle]
  rw [Literal.delimited_eq_some_iff, Literal.decode_eq_self_iff hbackslash]
  refine and_congr_left fun hescapes => ?_
  have hescaped : ¬ ['\\', '"'] <:+: title origin := fun h => absurd (hescapes '"' h) (by decide)
  exact Literal.untilClose_eq_self_iff (by decide) (by decide) (by decide) hescaped hquote
    hbackslash

/-- A title is read as what it says just when its origin is harmless. -/
theorem titleLine_inModule_iff {named : Text → Option Char} {behind : Text} :
    Literal.inModule named docQuotes (titleLine origin ++ behind) =
        some (title origin, behind.unifyLines) ↔ Harmless origin := by
  obtain ⟨front, htitle, -⟩ := exists_title_eq origin
  have hunify : (titleLine origin ++ behind).unifyLines =
      (docQuotes ++ ((title origin).unifyLines ++ docQuotes)) ++ behind.unifyLines := by
    rw [titleLine_eq, List.append_assoc, List.append_assoc,
      Text.unifyLines_append (by simp [docQuotes]), Text.unifyLines_append (by simp [htitle]),
      Text.unifyLines_append (by simp [docQuotes]),
      Text.unifyLines_eq_self_iff.mpr (by simp [docQuotes]), List.append_assoc, List.append_assoc]
  rw [Literal.inModule_eq_some_iff hunify, hunify, harmless_iff]
  simp only [List.append_assoc]
  by_cases hreturn : '\r' ∈ title origin
  · -- The value cannot be longer than what is written, and a line end there is a line feed.
    refine iff_of_false (fun h => ?_) fun h => h.2.2.1 hreturn
    have hvalue := (Literal.delimited_eq_some_iff.mp h.1).2
    have hsame := (Literal.decode_cases hvalue).resolve_right
      (Nat.not_lt.mpr (Text.length_unifyLines_le (title origin)))
    exact Text.unifyLines_eq_self_iff.mp hsame.symm hreturn
  · rw [Text.unifyLines_eq_self_iff.mpr hreturn, delimited_title_iff, and_assoc]
    simp [docQuotes, hreturn]

/-- What stands between the title and the other imports. -/
def importHead : Text := "\n\nfrom __future__ import annotations\n"

theorem exists_behind_title (h : render rule origin sources statements = .ok text) :
    ∃ behind, text = titleLine origin ++ (importHead ++ behind) := by
  obtain ⟨-, -, htext⟩ := render_eq_unlines h
  obtain ⟨rest, hpreamble⟩ : ∃ rest, preamble rule origin sources =
      titleLine origin :: [] :: Text.of "from __future__ import annotations" :: rest := ⟨_, rfl⟩
  have himport : importHead =
      '\n' :: '\n' :: (Text.of "from __future__ import annotations" ++ ['\n']) := by cbv
  refine ⟨Text.unlines rest ++ Text.unlines (walkLines rule statements), ?_⟩
  rw [htext, hpreamble, himport]
  simp

/-- **When the title is what it should be.**  The text of a module begins with its title.  The
literal there ends in front of the empty line before the imports, and says what the title says,
just when the origin is harmless. -/
theorem render_title_iff (h : render rule origin sources statements = .ok text) :
    ∃ behind, text = titleLine origin ++ (importHead ++ behind) ∧
      ∀ named, Literal.inModule named docQuotes text =
          some (title origin, importHead ++ behind.unifyLines) ↔ Harmless origin := by
  obtain ⟨behind, rfl⟩ := exists_behind_title h
  refine ⟨behind, rfl, fun named => ?_⟩
  have hunify : (importHead ++ behind).unifyLines = importHead ++ behind.unifyLines := by
    have hlast : '\r' ∉ importHead.getLast? := by decide +kernel
    rw [Text.unifyLines_append fun hend => absurd hend hlast,
      Text.unifyLines_eq_self_iff.mpr (by decide +kernel)]
  rw [← hunify]
  exact titleLine_inModule_iff

/-- Two quotes side by side, and a backslash that begins no escape, do no harm. -/
theorem render_title_quoted :
    ∃ text, render .same "a\"\"b\\d.surql" [] [⟨["a"], "b", [], []⟩] = .ok text ∧
      ∃ behind, text = titleLine "a\"\"b\\d.surql" ++ (importHead ++ behind) ∧
        ∀ named, Literal.inModule named docQuotes text =
          some (Text.of "Bindings generated by surqlfn from a\"\"b\\d.surql.",
            importHead ++ behind.unifyLines) := by
  obtain ⟨text, h⟩ : ∃ text, render .same "a\"\"b\\d.surql" [] [⟨["a"], "b", [], []⟩] = .ok text :=
    ⟨_, render_ok_iff.mpr ⟨by unfold Fit; decide +kernel, rfl⟩⟩
  obtain ⟨behind, htext, hread⟩ := render_title_iff h
  have hharmless : Harmless "a\"\"b\\d.surql" := by
    rw [Text.of_eq]
    decide +kernel
  have htitle : title "a\"\"b\\d.surql" =
      Text.of "Bindings generated by surqlfn from a\"\"b\\d.surql." := by cbv
  refine ⟨text, h, behind, htext, fun named => ?_⟩
  rw [← htitle]
  exact (hread named).mpr hharmless

/-- A name with three quotes side by side ends the title, and the rest of it is read as code. -/
theorem render_title_broken :
    ∃ text, render .same "a\"\"\"b.surql" [] [⟨["a"], "b", [], []⟩] = .ok text ∧
      ∃ behind, text = titleLine "a\"\"\"b.surql" ++ (importHead ++ behind) ∧
        ∀ named, Literal.inModule named docQuotes text =
          some (Text.of "Bindings generated by surqlfn from a",
            Text.of "b.surql.\"\"\"" ++ (importHead ++ behind).unifyLines) := by
  obtain ⟨text, h⟩ : ∃ text,
      render .same "a\"\"\"b.surql" [] [⟨["a"], "b", [], []⟩] = .ok text :=
    ⟨_, render_ok_iff.mpr ⟨by unfold Fit; decide +kernel, rfl⟩⟩
  obtain ⟨behind, htext⟩ := exists_behind_title h
  refine ⟨text, h, _, htext, fun named => ?_⟩
  have htitle : titleLine "a\"\"\"b.surql" =
      docQuotes ++ (Text.of "Bindings generated by surqlfn from a" ++
        (docQuotes ++ Text.of "b.surql.\"\"\"")) := by cbv
  have hinside : Encodes docQuotes (Text.of "Bindings generated by surqlfn from a")
      (Text.of "Bindings generated by surqlfn from a") := by
    refine Literal.encodes_self (by decide) ?_
    rw [Text.of_eq]
    decide
  have hlast : '\r' ∉ (titleLine "a\"\"\"b.surql").getLast? := by decide +kernel
  have hunify : text.unifyLines =
      (docQuotes ++ (Text.of "Bindings generated by surqlfn from a" ++ docQuotes)) ++
        (Text.of "b.surql.\"\"\"" ++ (importHead ++ behind).unifyLines) := by
    rw [htext, Text.unifyLines_append fun hend => absurd hend hlast,
      Text.unifyLines_eq_self_iff.mpr (by decide +kernel), htitle]
    simp only [List.append_assoc]
  refine (Literal.inModule_eq_some_iff hunify).mpr ⟨?_, by decide +kernel⟩
  rw [hunify, List.append_assoc, List.append_assoc]
  exact Literal.delimited_of_encodes (by decide) hinside

end StoredFunctions.Bindings
