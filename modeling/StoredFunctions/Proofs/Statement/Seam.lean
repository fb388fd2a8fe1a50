/-
# Comments at the seam of two documents

When two documents are joined by a line end, the comments at the end of the first one come to stand
in front of the first definition of the second one, and document it.  Nothing else changes
(`parseAll_seam`).

The one thing that could change is a body of the first document that begins with `/*` and does not
close the comment.  Where every `/*` is closed there is no such body
(`BlocksClosed.not_leavesOpen`).
-/
import StoredFunctions.Proofs.Statement.Concatenation

namespace StoredFunctions.Statement

open StoredFunctions.Parser Filler Punctuation

/-! ## 1. Closed blocks -/

/-- Every `/*` of a text has a `*/` behind it. -/
def BlocksClosed (s : Text) : Prop :=
  ∀ p, Text.of "/*" <+: s.drop p → ∃ q, p + 2 ≤ q ∧ Text.of "*/" <+: s.drop q

variable {filename s x y : Text} {sts : List Statement}

theorem BlocksClosed.close_infix (h : BlocksClosed (x ++ ("/*" ++ y))) : Text.of "*/" <:+: y := by
  obtain ⟨q, hq, hclose⟩ := h x.length (by rw [List.drop_left]; exact List.prefix_append _ _)
  have hlen : (x ++ Text.of "/*").length = x.length + 2 := by simp [blockOpen_eq]
  rw [← List.append_assoc, List.drop_append, List.drop_eq_nil_of_le (by omega),
    List.nil_append] at hclose
  exact hclose.isInfix.trans (List.drop_suffix _ y).isInfix

/-- **No body is left open** where every `/*` is closed. -/
theorem BlocksClosed.not_leavesOpen (h : BlocksClosed s) : ¬ LeavesOpen s := by
  rintro ⟨sts, t, st, k, b, r, rfl, -, -, ⟨f, u, rfl, -, -, hu⟩, hr⟩
  have hinf : Text.of "*/" <:+: u ++ '\x7d' :: r := by
    refine BlocksClosed.close_infix (x := t ++ (k ++ ("\x7b" ++ f))) ?_
    simpa [braceClose_eq] using h
  rcases (blockClose_infix_iff (by decide)).mp hinf with hin | hin
  · exact hu hin
  · exact hr hin

/-- One `*/` behind all openings closes them all. -/
theorem blocksClosed_of_last {q : Nat} (hq : Text.of "*/" <+: s.drop q)
    (h : ∀ p < s.length, Text.of "/*" <+: s.drop p → p + 2 ≤ q) : BlocksClosed s := by
  intro p hp
  refine ⟨q, h p (Nat.lt_of_not_le fun hle => ?_) hp, hq⟩
  rw [List.drop_eq_nil_of_le hle, blockOpen_eq] at hp
  exact absurd hp (by simp)

/-! ## 2. The seam -/

/-- Where the definitions of a document end, and what is captured behind them. -/
theorem exists_ending_of_parseAll (h : parseAll filename s = .ok sts) :
    ∃ t e d bodies, s = t ++ e ∧ Definitions sts t e ∧ Gap bodies e [] ∧
      definitions (.ofSource s filename) = .ok (sts, d) ∧
      documentation d = .ok (bodies, .ofOffset s filename s.length) := by
  obtain ⟨c', h⟩ := map_fst_ok_iff.mp h
  obtain ⟨t, l, g, bodies, hs, -, hdefs, hl, hg, hdefinitions⟩ := exists_split_of_document h
  replace hs : s = (t ++ l) ++ g := hs
  have hrest : ((Cursor.ofSource s filename).past (t ++ l)).rest = g ++ [] := by
    rw [Cursor.rest_past hs, List.append_nil]
  have hlast : ((Cursor.ofSource s filename).past (t ++ l)).past g =
      .ofOffset s filename s.length := by
    rw [Cursor.past_past, ← hs, Cursor.past_ofSource]
  have hdoc := documentation_exact.complete hrest hg
  rw [hlast] at hdoc
  exact ⟨t, l ++ g, _, bodies, by rw [hs, List.append_assoc], hdefs, hg.layouts hl, hdefinitions,
    hdoc⟩

/-- **Comments at a seam.**  If every `/*` of the first of two documents is closed in it, the two
joined by a line end define what the first one defines and then what the second one defines.  The
comments behind the last terminator of the first one are put in front of those of the first
definition of the second one, and nothing else differs. -/
theorem parseAll_seam (filename a b : Text) (sts ts : List Statement)
    (ha : parseAll filename a = .ok sts) (hb : parseAll filename b = .ok ts)
    (hclosed : BlocksClosed a) :
    ∃ d bodies st more, definitions (.ofSource a filename) = .ok (sts, d) ∧
      documentation d = .ok (bodies, .ofOffset a filename a.length) ∧ ts = st :: more ∧
      parseAll filename (a ++ ("\n" ++ b)) =
        .ok (sts ++ { st with comments := bodies ++ st.comments } :: more) := by
  obtain ⟨t, e, d, bodies, rfl, hdefs, hg, hdefinitions, hdoc⟩ := exists_ending_of_parseAll ha
  have hbefore := hdefs.before (y := b) fun hopen => absurd hopen hclosed.not_leavesOpen
  obtain ⟨st, more, rfl, hspelling⟩ := Spelling.behind hbefore hg (parseAll_sound hb)
  refine ⟨d, bodies, st, more, hdefinitions, hdoc, rfl, ?_⟩
  rw [newline_eq]
  exact parseAll_complete hspelling

/-- A function without parameters, with one comment. -/
def documented (name comment : Text) : Statement := ⟨[], name, [], [comment]⟩

/-- A document with a block in its body that ends in a block and in a comment without a line end,
and one that begins with a comment. -/
theorem parseAll_seam_unended :
    let a : Text := "# 1\nDEFINE FUNCTION fn::a() \x7b /* \x7d */ \x7d; /* 2 */\n-- 3"
    let b : Text := "// 4\nDEFINE FUNCTION fn::b() \x7b\x7d;"
    parseAll [] a = .ok [documented "a" "1"] ∧ parseAll [] b = .ok [documented "b" "4"] ∧
      BlocksClosed a ∧
      ∃ d bodies st more, definitions (.ofSource a []) = .ok ([documented "a" "1"], d) ∧
        documentation d = .ok (bodies, .ofOffset a [] a.length) ∧
        [documented "b" "4"] = st :: more ∧
        parseAll [] (a ++ ("\n" ++ b)) =
          .ok ([documented "a" "1"] ++ { st with comments := bodies ++ st.comments } :: more) := by
  intro a b
  have ha : parseAll [] a = .ok [documented "a" "1"] := ok_of_toOption (by decide +kernel)
  have hb : parseAll [] b = .ok [documented "b" "4"] := ok_of_toOption (by decide +kernel)
  have hclosed : BlocksClosed a :=
    blocksClosed_of_last (q := 46) (by decide +kernel) (by decide +kernel)
  exact ⟨ha, hb, hclosed, parseAll_seam [] a b _ _ ha hb hclosed⟩

end StoredFunctions.Statement
