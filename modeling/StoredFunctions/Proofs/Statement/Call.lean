/-
# Calls read back

A call is a query of the form `RETURN fn::path($name, …)`: the words in front, the path of a
function, and in parentheses the names of variables with commas between them.  `Statement.call`
reads it with the parsers of paths, names and lists that definitions are read with.

The query by which a statement is called is such a call, of the statement's own path and with its
parameters in their order (`readCall_query`).  As in a signature, the segments of the path have to
be words and the names must not contain NUL; every statement that was read is of this kind.
-/
import StoredFunctions.Proofs.Statement.Invariant

namespace StoredFunctions.Statement

open StoredFunctions.Parser Filler Punctuation

/-! ## 1. The grammar of calls -/

/-- The argument of a call: a variable. -/
def argument : Parser Identifier := do
  let _ ← single "$"
  Identifier.parser

/-- A call: the path of the function, and the names of the variables it is called with. -/
def call : Parser (List Text × List Text) := do
  let _ ← tag "RETURN fn::"
  let path ← Names.path
  let arguments ← listed argument
  pure (path.1 :: path.2, arguments.map (·.name))

/-- The call that a query consists of. -/
def readCall (filename query : Text) : Except Fault (List Text × List Text) :=
  (complete call (Cursor.ofSource query filename)).map Prod.fst

/-! ## 2. Arguments -/

variable {c : Cursor} {filename r : Text} {st : Statement} {idents : List Identifier}

/-- An argument: a dollar sign and the name of the variable in any style. -/
def ArgumentText (ident : Identifier) (t : Text) : Prop :=
  ∃ n, t = "$" ++ n ∧ Names.Spells ident.name n

theorem ArgumentText.solid (ident : Identifier) (t : Text) (h : ArgumentText ident t) :
    Solid t := by
  obtain ⟨n, rfl, -⟩ := h
  exact isMark_dollar.solid

theorem argument_complete :
    Complete argument (fun ident t r => ArgumentText ident t ∧ Clear r) := by
  rintro c ident t r hr ⟨⟨n, rfl, hn⟩, hcl⟩
  refine ((single_exact isMark_dollar.length_eq).complete.bind fun _ => identifier_complete) hr ?_
  exact ⟨"$", "$", n, rfl, ⟨rfl, rfl⟩, hn, hcl⟩

/-- The arguments of a call in canonical spelling. -/
def argumentsText (idents : List Identifier) : Text :=
  Text.join ", " (idents.map fun i => "$" ++ i.text)

/-- **Arguments in parentheses are read**, as a query shows them. -/
theorem arguments_complete (h : ∀ ident ∈ idents, '\x00' ∉ ident.name)
    (hr : c.rest = "(" ++ (argumentsText idents ++ (")" ++ r))) :
    listed argument c = .ok (idents, c.past ("(" ++ (argumentsText idents ++ ")"))) := by
  have htext : ∀ ident ∈ idents, ArgumentText ident ("$" ++ ident.text) := fun ident hi =>
    ⟨ident.text, rfl, Names.spells_escape (h ident hi)⟩
  cases idents with
  | nil =>
    have hr₁ : c.rest = (Text.of "(" ++ []) ++ (Text.of ")" ++ r) := by
      simpa [argumentsText, Text.join] using hr
    have hnone : ¬ Text.of "$" <+: (c.past (Text.of "(" ++ [])).rest := by
      rw [Cursor.rest_past hr₁, Text.of_eq, Text.of_eq]
      simp
    exact listed_nil isFiller_nil hr₁ (single_refuses isMark_dollar.length_eq hnone).bind
  | cons ident more =>
    obtain ⟨hident, hmore⟩ := List.forall_mem_cons.mp htext
    have hu := following_flatMap (w := ",") isFiller_nil isFiller_space hmore
    rw [← spacedComma_eq] at hu
    rw [argumentsText, List.map_cons, Text.join_cons] at hr ⊢
    have hlist := listed_cons ArgumentText.solid argument_complete (c := c) (r := r)
      isFiller_nil hident hu isFiller_nil (by simpa using hr)
    simpa using hlist

/-! ## 3. Calls -/

/-- **A call is read** to its end, whatever stands behind it. -/
theorem call_complete {first : Text} {more : List Text} (hp : Names.IsPath (first :: more))
    (hn : ∀ ident ∈ idents, '\x00' ∉ ident.name)
    (hr : c.rest = "RETURN fn::" ++
      (Text.join "::" (first :: more) ++ ("(" ++ (argumentsText idents ++ (")" ++ r))))) :
    ∃ c', call c = .ok ((first :: more, idents.map (·.name)), c') ∧ c'.rest = r := by
  have hr₁ := Cursor.rest_past hr
  have hr₂ := Cursor.rest_past hr₁
  have hwords := (tag_exact (Text.of_ne_nil (by decide))).complete hr ⟨rfl, rfl⟩
  have hpath := Names.path_complete hp hr₁ (fun x hx => (isMark_open.clear x hx).1)
    (not_colons isFiller_nil)
  refine ⟨((c.past "RETURN fn::").past _).past ("(" ++ (argumentsText idents ++ ")")), ?_,
    Cursor.rest_past (by rw [hr₂]; simp)⟩
  rw [call, bind_of_ok hwords, bind_of_ok hpath, bind_of_ok (arguments_complete hn hr₂)]
  rfl

/-- **The query of a statement is read as a call** of its path with its parameters, in order. -/
theorem readCall_query (h : st.Writable) :
    readCall filename st.callQuery = .ok (st.path, st.parameterNames) := by
  obtain ⟨first, more, hpath⟩ : ∃ first more, st.path = first :: more :=
    List.exists_cons_of_ne_nil (by simp [Statement.path])
  have hp := h.path
  have hnames : ∀ ident ∈ st.parameters.map (·.ident), '\x00' ∉ ident.name := by
    simpa using h.names
  have hwords : Text.of "RETURN fn::" = Text.of "RETURN " ++ Text.of "fn::" := by cbv
  have hr : (Cursor.ofSource st.callQuery filename).rest = Text.of "RETURN fn::" ++
      (Text.join "::" (first :: more) ++
        (Text.of "(" ++ (argumentsText (st.parameters.map (·.ident)) ++ (Text.of ")" ++ [])))) := by
    show st.callQuery = _
    simp [callQuery, qualifiedName, argumentsText, hpath, hwords, Function.comp_def]
  rw [hpath] at hp
  obtain ⟨c', hcall, hend⟩ := call_complete hp hnames hr
  have hread : call (Cursor.ofSource st.callQuery filename) =
      .ok ((st.path, st.parameterNames), c') := by
    simpa [hpath, parameterNames, Function.comp_def] using hcall
  exact map_fst_ok_iff.mpr ⟨c', complete_ok_iff.mpr ⟨hread, hend⟩⟩

end StoredFunctions.Statement
