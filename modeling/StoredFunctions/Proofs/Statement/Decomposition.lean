/-
# Documents statement by statement

An accepted document is the concatenation of one text for each of its statements, and filler.  The
text of a statement runs from the comments in front of it to its last semicolon.  Read alone it is
that statement, with its comments; and so is any stretch of neighbouring texts, read as a document,
the list of their statements (`parseAll_decomposes`).

A body may depend on the document behind it: if it begins with a comment that it does not close,
it ends at its brace only because nothing behind it closes the comment either.  So the texts of
the statements are no documents by themselves from the start.  What saves the decomposition is that
the condition is about the *absence* of a mark behind the body: cutting the document short makes it
weaker (`Body.shorten`), and so a definition stays what it was when what follows is cut off.
-/
import Mathlib.Data.List.Forall2
import StoredFunctions.Proofs.Statement.Document

namespace StoredFunctions.Statement

open StoredFunctions.Parser Filler Punctuation

variable {b d r s t : Text} {ts : List Text} {st : Statement} {sts : List Statement}

/-! ## 1. Cutting off what follows -/

/-- **A body stays a body when the document behind it is cut short.** -/
theorem Body.shorten (h : Body b (r ++ s)) : Body b r := by
  cases h with
  | plain hf hu hn ho => exact .plain hf hu hn ho
  | unclosed hf hu hn hr =>
    refine .unclosed hf hu hn ?_
    intro hclose
    exact hr (hclose.trans (List.infix_append [] r s))

theorem Definition.shorten (h : Definition st d (r ++ s)) : Definition st d r := by
  obtain ⟨h, b, rfl, hh, hb⟩ := h
  exact ⟨h, b, rfl, hh, hb.shorten⟩

/-! ## 2. One text for each statement -/

/-- `Cut sts ts r`: in front of `r`, the texts `ts` one behind the other define the statements
`sts`, each text one of them, with its semicolons. -/
inductive Cut : List Statement → List Text → Text → Prop
  | nil {r : Text} : Cut [] [] r
  | cons {st : Statement} {sts : List Statement} {d e : Text} {ts : List Text} {r : Text} :
      Definition st d (e ++ (ts.flatten ++ r)) → Terminator e → Cut sts ts r →
        Cut (st :: sts) ((d ++ e) :: ts) r

/-- Definitions can be cut apart. -/
theorem Definitions.exists_cut (h : Definitions sts t r) : ∃ ts, t = ts.flatten ∧ Cut sts ts r := by
  induction h with
  | nil => exact ⟨[], rfl, .nil⟩
  | @cons st sts d e t r hd he _ ih =>
    obtain ⟨ts, rfl, hcut⟩ := ih
    exact ⟨(d ++ e) :: ts, by simp, .cons hd he hcut⟩

/-- Texts that are cut apart are definitions together. -/
theorem Cut.definitions (h : Cut sts ts r) : Definitions sts ts.flatten r := by
  induction h with
  | nil => exact .nil
  | @cons st sts d e ts r hd he _ ih =>
    rw [List.flatten_cons, List.append_assoc]
    exact .cons hd he ih

/-- The first texts are a document that is cut apart, whatever stood behind them. -/
theorem Cut.take (h : Cut sts ts r) (n : Nat) : Cut (sts.take n) (ts.take n) [] := by
  induction h generalizing n with
  | nil => simpa using Cut.nil
  | @cons st sts d e ts r hd he _ ih =>
    cases n with
    | zero => exact .nil
    | succ n =>
      refine .cons ?_ he (ih n)
      have hsplit : e ++ (ts.flatten ++ r) =
          (e ++ ((ts.take n).flatten ++ [])) ++ ((ts.drop n).flatten ++ r) := by
        have hts : ts.flatten = (ts.take n).flatten ++ (ts.drop n).flatten := by
          rw [← List.flatten_append, List.take_append_drop]
        rw [hts]
        simp only [List.append_assoc, List.nil_append]
      rw [hsplit] at hd
      exact hd.shorten

/-- The last texts are cut apart as before. -/
theorem Cut.drop (h : Cut sts ts r) (n : Nat) : Cut (sts.drop n) (ts.drop n) r := by
  induction h generalizing n with
  | nil => simpa using Cut.nil
  | @cons st sts d e ts r hd he hcut ih =>
    cases n with
    | zero => exact .cons hd he hcut
    | succ n => exact ih n

/-! ## 3. The texts read alone -/

variable {filename : Text}

/-- Each text alone is the definition of its statement. -/
theorem Cut.forall_parse (h : Cut sts ts r) :
    List.Forall₂ (fun t st => parse filename t = .ok st) ts sts := by
  induction h with
  | nil => exact .nil
  | @cons st sts d e ts r hd he _ ih =>
    have hlone : LoneSpelling st (d ++ e) :=
      ⟨d, e, [], by simp, by simpa using hd.shorten, .inr he, .filler ⟨[], .nil⟩⟩
    exact .cons (parse_complete hlone) ih

/-- The texts together are the document of their statements. -/
theorem Cut.parseAll_flatten (h : Cut sts ts []) (hne : sts ≠ []) :
    parseAll filename ts.flatten = .ok sts :=
  parseAll_complete ⟨hne, ts.flatten, [], by simp, h.definitions, .filler ⟨[], .nil⟩⟩

/-- What may stand behind the last definition is skipped to its end. -/
theorem Ending.skip (h : Ending t) :
    Filler.skip (Cursor.ofSource t filename) = .ok ((), Cursor.ofOffset t filename t.length) := by
  have hr : (Cursor.ofSource t filename).rest = t ++ [] := (List.append_nil t).symm
  rw [← Cursor.past_ofSource]
  exact skip_exact.complete hr (ending_iff.mp h)

/-- **Accepted documents decompose.**  The document is the concatenation of texts, one for each of
its statements and in their order, and of filler behind them.  Each text alone is read as its
statement, comments included, and any stretch of the texts as the list of its statements; so
cutting the document between two statements changes neither what is in front nor what is behind. -/
theorem parseAll_decomposes (filename source : Text) (sts : List Statement)
    (h : parseAll filename source = .ok sts) :
    ∃ (ts : List Text) (f : Text), source = ts.flatten ++ f ∧
      (∀ name, List.Forall₂ (fun t st => parse name t = .ok st) ts sts) ∧
      (∀ name, Filler.skip (Cursor.ofSource f name) = .ok ((), Cursor.ofOffset f name f.length)) ∧
      ∀ name i n, (sts.drop i).take n ≠ [] →
        parseAll name ((ts.drop i).take n).flatten = .ok ((sts.drop i).take n) := by
  obtain ⟨-, t, f, rfl, hdefs, hend⟩ := parseAll_sound h
  obtain ⟨ts, rfl, hcut⟩ := hdefs.exists_cut
  refine ⟨ts, f, rfl, fun _ => hcut.forall_parse, fun _ => hend.skip, ?_⟩
  intro name i n hne
  exact ((hcut.drop i).take n).parseAll_flatten hne

/-- A document whose first body begins with a comment that nothing closes, and whose second
statement is documented and ended twice, with a comment behind it. -/
def unclosedDocument : Text :=
  "DEFINE FUNCTION fn::a() \x7b /* \x7d;\n-- b\nDEFINE FUNCTION fn::b($x: int) \x7b\x7d;; # end"

/-- What the document defines. -/
def unclosedStatements : List Statement :=
  [⟨[], "a", [], []⟩, ⟨[], "b", [⟨⟨"x"⟩, .primitive .int⟩], ["b"]⟩]

theorem unclosedDocument_decomposes :
    parseAll [] unclosedDocument = .ok unclosedStatements ∧
    ∃ (ts : List Text) (f : Text), unclosedDocument = ts.flatten ++ f ∧
      (∀ name, List.Forall₂ (fun t st => parse name t = .ok st) ts unclosedStatements) ∧
      (∀ name, Filler.skip (Cursor.ofSource f name) = .ok ((), Cursor.ofOffset f name f.length)) ∧
      ∀ name i n, (unclosedStatements.drop i).take n ≠ [] →
        parseAll name ((ts.drop i).take n).flatten = .ok ((unclosedStatements.drop i).take n) := by
  have h : parseAll [] unclosedDocument = .ok unclosedStatements :=
    ok_of_toOption (by decide +kernel)
  exact ⟨h, parseAll_decomposes [] unclosedDocument unclosedStatements h⟩

end StoredFunctions.Statement
