/-
# The source texts of a document

`Spelling sts s` says that the text `s` is one way to write the statements `sts`: each definition
with its comments in front and its semicolons behind, and filler wherever filler may stand.  The
relation is about texts alone; that the parser of documents agrees with it is proved elsewhere.

Filler is maximal nowhere but in two places, where the text itself decides how far it goes.
Behind the opening brace of a body the filler ends where none begins (`Body`).  And the last line
of a document may be a comment without a line end (`Ending`).

The body is the one part of a definition that is not known from its own text: a body that begins
with `/*` and does not close the comment is a body only as long as nothing behind it in the
document closes the comment (`Body.unclosed`).
-/
import StoredFunctions.Proofs.Kind.Reading
import StoredFunctions.Statement.Reader

namespace StoredFunctions.Statement

open Filler Punctuation

/-! ## 1. Parameters -/

/-- A parameter: its name in any style, a colon with filler around it, its kind. -/
inductive ParameterText (p : Parameter) : Text → Prop
  | intro {n f g k : Text} :
      Names.Spells p.ident.name n → IsFiller f → IsFiller g → Kind.Spelling p.kind k →
        ParameterText p ("$" ++ (n ++ (f ++ (":" ++ (g ++ k)))))

/-- What stands between the parentheses. -/
inductive ParameterList : List Parameter → Text → Prop
  | none {f : Text} : IsFiller f → ParameterList [] f
  | some {p : Parameter} {more : List Parameter} {f t u g : Text} :
      IsFiller f → ParameterText p t → Following "," ParameterText more u → IsFiller g →
        ParameterList (p :: more) (f ++ (t ++ (u ++ g)))

/-! ## 2. Definitions -/

/-- A definition up to its body: the comments that document it, the keywords in any letter case,
the path and the parameters. -/
inductive Header (st : Statement) : Text → Prop
  | intro {lead define f₁ function f₂ f₃ parameters f₄ : Text} :
      Run st.comments lead →
      define.fold = "define" → f₁ ≠ [] → IsFiller f₁ →
      function.fold = "function" → f₂ ≠ [] → IsFiller f₂ →
      Names.IsPath st.path → IsFiller f₃ →
      ParameterList st.parameters parameters → IsFiller f₄ →
        Header st (lead ++ (define ++ (f₁ ++ (function ++ (f₂ ++ ("fn::" ++
          (Text.join "::" st.path ++ (f₃ ++ ("(" ++ (parameters ++ (")" ++ f₄)))))))))))

/-- A body in front of `r`: a brace, filler, and text up to the first closing brace.  The text
begins no filler; if it begins with `/*`, then because that comment is closed nowhere. -/
inductive Body : Text → Text → Prop
  | plain {f u r : Text} :
      IsFiller f → '\x7d' ∉ u → ¬ Begins u → ¬ Text.of "/*" <+: u →
        Body ("\x7b" ++ (f ++ (u ++ "\x7d"))) r
  | unclosed {f u r : Text} :
      IsFiller f → '\x7d' ∉ u → ¬ Text.of "*/" <:+: u → ¬ Text.of "*/" <:+: r →
        Body ("\x7b" ++ (f ++ ("/*" ++ (u ++ "\x7d")))) r

/-- A definition in front of `r`, without its semicolons. -/
def Definition : Grammar Statement := fun st t r =>
  ∃ h b, t = h ++ b ∧ Header st h ∧ Body b r

/-! ## 3. Documents -/

/-- Definitions in front of `r`, each with the semicolons that end it. -/
inductive Definitions : List Statement → Text → Text → Prop
  | nil {r : Text} : Definitions [] [] r
  | cons {st : Statement} {sts : List Statement} {d e t r : Text} :
      Definition st d (e ++ (t ++ r)) → Terminator e → Definitions sts t r →
        Definitions (st :: sts) (d ++ (e ++ t)) r

/-- What may stand behind the last definition: filler, the last line of which may be a comment
without a line end. -/
inductive Ending : Text → Prop
  | filler {f : Text} : IsFiller f → Ending f
  | comment {f mark body : Text} :
      IsFiller f → mark ∈ lineMarks → isOneLine body = true → Ending (f ++ (mark ++ body))

/-- `Spelling sts s`: the document `s` defines the statements `sts`, of which there is one at
least. -/
def Spelling (sts : List Statement) (s : Text) : Prop :=
  sts ≠ [] ∧ ∃ t e, s = t ++ e ∧ Definitions sts t e ∧ Ending e

/-- `LoneSpelling st s`: the text `s` is one definition, with or without semicolons behind it. -/
def LoneSpelling (st : Statement) (s : Text) : Prop :=
  ∃ d z e, s = d ++ (z ++ e) ∧ Definition st d (z ++ e) ∧ (z = [] ∨ Terminator z) ∧ Ending e

/-! ## 4. Bodies -/

variable {b r s t u v m : Text} {st : Statement} {sts : List Statement}

theorem braceClose_eq : Text.of "\x7d" = ['\x7d'] := by rw [Text.of_eq]; rfl

/-- A text without the character `x` is not begun in front of one and ended behind it. -/
theorem prefix_append_cons_iff {x : Char} (hm : x ∉ m) : m <+: u ++ x :: r ↔ m <+: u := by
  induction u generalizing m with
  | nil =>
    cases m with
    | nil => simp
    | cons y m =>
      have hy : ¬ y = x := fun h => hm (by simp [h])
      simp [hy]
  | cons z u ih =>
    cases m with
    | nil => simp
    | cons y m =>
      rw [List.cons_append, List.cons_prefix_cons, List.cons_prefix_cons,
        ih fun h => hm (List.mem_cons_of_mem _ h)]

theorem infix_append_cons_iff {x : Char} (hm : x ∉ m) (hne : m ≠ []) :
    m <:+: u ++ x :: r ↔ m <:+: u ∨ m <:+: r := by
  induction u with
  | nil =>
    have hp := prefix_append_cons_iff (u := []) (r := r) hm
    rw [List.nil_append] at hp
    rw [List.nil_append, List.infix_cons_iff, hp]
    simp [hne]
  | cons y u ih =>
    have hp := prefix_append_cons_iff (u := y :: u) (r := r) hm
    rw [List.cons_append] at hp
    rw [List.cons_append, List.infix_cons_iff, List.infix_cons_iff, ih, hp, or_assoc]

/-- The end of a comment lies on one side of a brace, or of a line end. -/
theorem blockClose_infix_iff {x : Char} (hx : x ≠ '*' ∧ x ≠ '/') :
    Text.of "*/" <:+: u ++ x :: r ↔ Text.of "*/" <:+: u ∨ Text.of "*/" <:+: r :=
  infix_append_cons_iff (by simpa [blockClose_eq] using hx) (by simp [blockClose_eq])

theorem begins_append (h : Begins u) : Begins (u ++ r) := by
  rcases h with ⟨x, hx, hl⟩ | ⟨mark, hm, v, rfl⟩ | ⟨body, rest, rfl⟩
  · obtain ⟨v, rfl⟩ := List.head?_eq_some_iff.mp hx
    exact .inl ⟨x, rfl, hl⟩
  · exact .inr (.inl ⟨mark, hm, v ++ r, by simp⟩)
  · exact .inr (.inr ⟨body, rest ++ r, by simp⟩)

/-- Neither a mark nor an opening of a block has a brace in it. -/
theorem not_mem_mark {mark : Text} (hm : mark ∈ lineMarks) : '\x7d' ∉ mark := by
  rcases mem_lineMarks.mp hm with rfl | rfl | rfl <;> decide

theorem not_begins_plain (hu : ¬ Begins u) (ho : ¬ Text.of "/*" <+: u) :
    ¬ Begins (u ++ '\x7d' :: r) := by
  rintro (⟨x, hx, hl⟩ | ⟨mark, hm, hp⟩ | ⟨body, rest, hb⟩)
  · cases u with
    | nil =>
      obtain rfl : '\x7d' = x := by simpa using hx
      exact absurd hl (by decide)
    | cons y u => exact hu (.inl ⟨x, hx, hl⟩)
  · exact hu (.inr (.inl ⟨mark, hm, (prefix_append_cons_iff (not_mem_mark hm)).mp hp⟩))
  · refine ho ((prefix_append_cons_iff ?_).mp ⟨_, hb.symm⟩)
    rw [blockOpen_eq]
    decide

theorem not_begins_unclosed (hu : ¬ Text.of "*/" <:+: u) (hr : ¬ Text.of "*/" <:+: r) :
    ¬ Begins ("/*" ++ (u ++ '\x7d' :: r)) := by
  rw [blockOpen_eq]
  rintro (⟨x, hx, hl⟩ | ⟨mark, hm, hp⟩ | ⟨body, rest, hb⟩)
  · obtain rfl : '/' = x := by simpa using hx
    exact absurd hl (by decide)
  · rcases mem_lineMarks.mp hm with rfl | rfl | rfl <;> simp at hp
  · rw [blockOpen_eq] at hb
    have hinf : Text.of "*/" <:+: u ++ '\x7d' :: r :=
      ⟨body, rest, by simpa using (List.append_cancel_left hb).symm⟩
    rcases (blockClose_infix_iff (by decide)).mp hinf with h | h
    · exact hu h
    · exact hr h

/-- **The filler behind a brace is all the filler there is**, which is how a parser sees it. -/
theorem body_iff :
    Body b r ↔ ∃ f u, b = "\x7b" ++ (f ++ (u ++ "\x7d")) ∧ IsFiller f ∧ '\x7d' ∉ u ∧
      ¬ Begins (u ++ '\x7d' :: r) := by
  constructor
  · intro h
    cases h with
    | plain hf hu hb ho => exact ⟨_, _, rfl, hf, hu, not_begins_plain hb ho⟩
    | @unclosed f u _ hf hu hc hr =>
      refine ⟨f, "/*" ++ u, by simp, hf, ?_, by simpa using not_begins_unclosed hc hr⟩
      simpa [blockOpen_eq] using hu
  · rintro ⟨f, u, rfl, hf, hu, hb⟩
    by_cases ho : Text.of "/*" <+: u
    · obtain ⟨u, rfl⟩ := ho
      have hclosed : ¬ Text.of "*/" <:+: u ++ '\x7d' :: r := by
        rintro ⟨body, rest, h⟩
        exact hb (.inr (.inr ⟨body, rest, by rw [List.append_assoc, ← h]; simp⟩))
      rw [blockClose_infix_iff (by decide), not_or] at hclosed
      rw [List.append_assoc]
      exact .unclosed hf (fun h => hu (List.mem_append_right _ h)) hclosed.1 hclosed.2
    · exact .plain hf hu (fun h => hb (begins_append h)) ho

end StoredFunctions.Statement
