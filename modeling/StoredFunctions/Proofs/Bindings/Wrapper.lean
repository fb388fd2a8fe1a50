/-
# The wrappers of the generated module

What the generated module has for each function, told of its text as it is read.

`render_emits`: behind the preamble the module consists of the namespaces that the walk meets, one
after the other, and the reader finds the same: each statement of the list has one wrapper, and
that stands within the classes of its scope and no others.

`render_calls`: the wrapper of a statement that was read from a document asks the database what it
should.  The text of its query is a call of the statement's path with its parameters, and the
query binds the name of each parameter to the argument that stands at its place in the signature.
-/
import Mathlib.Data.List.Basic
import StoredFunctions.Proofs.Bindings.Reading
import StoredFunctions.Proofs.Statement.Call

namespace StoredFunctions.Bindings

open Code

variable {rule : NamingRule} {origin text : Text} {sources : List Text}
  {statements : List Statement} {s : Statement} {within : List Line}

/-! ## 1. Signatures in a layout -/

/-- Whether a line is the header of a function. -/
def isSignature : Line → Bool
  | .signature _ _ => true
  | _ => false

/-- The headers of functions in a layout, each with what it stands within. -/
def signatures (layout : List (List Line × Line)) : List (List Line × Line) :=
  layout.filter fun r => isSignature r.2

theorem signatures_append {l m : List (List Line × Line)} :
    signatures (l ++ m) = signatures l ++ signatures m := List.filter_append _ _

theorem signatures_flatMap {α : Type} {f : α → List (List Line × Line)} {as : List α} :
    signatures (as.flatMap f) = as.flatMap fun a => signatures (f a) := List.filter_flatMap

/-- A wrapper is one function. -/
theorem signatures_wrapperLayout :
    signatures (wrapperLayout rule within s) = [(within, signatureOf rule s)] := by
  have hstatic : signatures (if within.isEmpty then [] else [(within, .static)]) = [] := by
    split <;> rfl
  have hdoc : signatures (if s.comments.isEmpty then [] else [(within ++ [signatureOf rule s],
      .docstring (docValue (within.length + 1) s.comments))]) = [] := by
    split <;> rfl
  have hquery : signatures [(within ++ [signatureOf rule s], queryOf s)] = [] := rfl
  have hsignature : ∀ rest, signatures ((within, signatureOf rule s) :: rest) =
      (within, signatureOf rule s) :: signatures rest := fun _ => rfl
  rw [wrapperLayout, signatures_append, hstatic, hsignature, signatures_append, hdoc, hquery]
  rfl

/-- The header of a class is none. -/
theorem signatures_openingLayout {path : List Text} : signatures (openingLayout path) = [] := by
  rw [openingLayout]
  split <;> rfl

/-- **Each statement has one wrapper**, within the classes of its scope. -/
theorem perm_signatures_walkLayout : (signatures (walkLayout rule statements)).Perm
    (statements.map fun s => (s.scope.map .opening, signatureOf rule s)) := by
  have hvisit : ∀ visit ∈ Namespace.walk [] (Namespace.ofStatements statements),
      signatures (visitLayout rule visit) =
        visit.2.functions.map fun s => (s.scope.map .opening, signatureOf rule s) := by
    intro visit hvisit
    rw [visitLayout, signatures_append, signatures_openingLayout, List.nil_append,
      signatures_flatMap]
    simp only [signatures_wrapperLayout, ← List.map_eq_flatMap]
    refine List.map_congr_left fun s hs => ?_
    rw [Namespace.scope_of_mem_walk hvisit hs]
  have hall : signatures (walkLayout rule statements) =
      (Namespace.functionsOf (Namespace.walk [] (Namespace.ofStatements statements))).map
        fun s => (s.scope.map .opening, signatureOf rule s) := by
    rw [walkLayout, signatures_flatMap, Namespace.functionsOf, List.map_flatMap]
    exact List.flatMap_congr hvisit
  rw [hall]
  exact Namespace.perm_functions_walk.map _

/-! ## 2. What stands behind the preamble -/

/-- What the lines behind the preamble tell of a list of statements. -/
structure Emits (rule : NamingRule) (statements : List Statement) (lines : List Text) : Prop where
  /-- They are those of the namespaces that the walk meets, one after the other. -/
  walk : lines = (Namespace.walk [] (Namespace.ofStatements statements)).flatMap (visitLines rule)
  /-- The functions there are the statements of the list, each as often as it is in the list. -/
  functions : (Namespace.functionsOf (Namespace.walk [] (Namespace.ofStatements statements))).Perm
    statements
  /-- What is written for a function is its wrapper, at the depth of its scope. -/
  blocks : ∀ visit ∈ Namespace.walk [] (Namespace.ofStatements statements),
    ∀ s ∈ visit.2.functions, s.scope = visit.1 ∧
      wrapperLines rule visit.1.length s = .ok ((Wrapper.ofStatement rule s).lines visit.1.length)
  /-- A wrapper is marked as static just when it stands in a class. -/
  static : ∀ visit ∈ Namespace.walk [] (Namespace.ofStatements statements),
    ∀ s ∈ visit.2.functions,
      ((Wrapper.ofStatement rule s).lines visit.1.length).head? =
        some (line visit.1.length "@staticmethod") ↔ visit.1 ≠ []
  /-- Read as code, the lines have the layout of the walk. -/
  layout : ∀ named, layout? named (Text.unlines lines) = some (walkLayout rule statements)
  /-- In that there is one function for each statement, within the classes of its scope. -/
  wrappers : (signatures (walkLayout rule statements)).Perm
    (statements.map fun s => (s.scope.map .opening, signatureOf rule s))

theorem bindable_of_render (h : render rule origin sources statements = .ok text) :
    Bindable rule statements :=
  scopes_fit_iff_bindable.mp (render_ok_iff.mp h).1

theorem head?_wrapper_iff {path : List Text} :
    ((Wrapper.ofStatement rule s).lines path.length).head? =
      some (line path.length "@staticmethod") ↔ path ≠ [] := by
  cases path with
  | cons name path => simp [Wrapper.lines]
  | nil =>
    refine iff_of_false (fun h => ?_) (by simp)
    have hheader : (headerLine _ _).head? = (Text.of "@staticmethod").head? :=
      congrArg List.head? (Option.some.inj h)
    rw [head?_headerLine, Text.of_eq] at hheader
    exact absurd (Option.some.inj hheader) (by decide)

/-- **One wrapper per statement, in the right class.**  A module is its preamble and the lines of
the walk, and each statement has one wrapper among these, within the classes of its scope.
Nothing is trimmed away at the end. -/
theorem render_emits (h : render rule origin sources statements = .ok text) :
    ∃ lines, moduleLines rule origin sources statements =
        .ok (preamble rule origin sources ++ lines) ∧
      (Text.join "\n" (preamble rule origin sources ++ lines)).trimEnd =
        Text.join "\n" (preamble rule origin sources ++ lines) ∧
      text = Text.unlines (preamble rule origin sources ++ lines) ∧
      Emits rule statements lines := by
  obtain ⟨hlines, htrimmed, htext⟩ := render_eq_unlines h
  have hbindable := bindable_of_render h
  refine ⟨walkLines rule statements, hlines, htrimmed, ?_, ?_⟩
  · rw [htext, Text.unlines_append]
  · refine ⟨rfl, Namespace.perm_functions_walk, ?_, ?_, layout?_walkLines hbindable,
      perm_signatures_walkLayout⟩
    · intro visit hvisit s hs
      have hmem := Namespace.mem_of_mem_walk hvisit hs
      refine ⟨Namespace.scope_of_mem_walk hvisit hs, wrapperLines_ok_iff.mpr ?_⟩
      exact ⟨hbindable.usable_name hmem, hbindable.fit_arguments hmem, rfl⟩
    · intro visit _ s _
      exact head?_wrapper_iff

/-- Functions at three depths, one with comments and one with parameters. -/
def layered : List Statement :=
  [⟨["a", "b"], "g", [⟨⟨"in"⟩, .primitive .int⟩, ⟨⟨"é"⟩, .option (.primitive .any)⟩], []⟩,
    ⟨[], "f", [], ["First.", "Second."]⟩, ⟨["a"], "f", [], []⟩, ⟨["c"], "f", [], ["Only."]⟩]

theorem render_emits_layered :
    ∃ text, render .same [] ["x", "y"] layered = .ok text ∧
      ∃ lines, text = Text.unlines (preamble .same [] ["x", "y"] ++ lines) ∧
        Emits .same layered lines := by
  obtain ⟨text, h⟩ : ∃ text, render .same [] ["x", "y"] layered = .ok text :=
    ⟨_, render_ok_iff.mpr ⟨by unfold Fit; decide +kernel, rfl⟩⟩
  obtain ⟨lines, -, -, htext, hemits⟩ := render_emits h
  exact ⟨text, h, lines, htext, hemits⟩

/-! ## 3. Queries and their arguments -/

/-- What the lines behind the preamble have for a statement. -/
structure Calls (rule : NamingRule) (lines : List Text) (s : Statement) : Prop where
  /-- The text of the query is a call of the statement's path with its parameters, in order. -/
  call : ∀ filename, Statement.readCall filename s.callQuery = .ok (s.path, s.parameterNames)
  /-- The arguments differ from each other and from the connection. -/
  arguments : Fit (connectionName :: s.parameterNames.map argumentName)
  /-- Read as code, the lines have the wrapper of the statement: its signature with these
  arguments, and its query with the names of the parameters beside them. -/
  wrapper : ∀ named, ∃ layout, layout? named (Text.unlines lines) = some layout ∧
    wrapperLayout rule (s.scope.map .opening) s <:+: layout

theorem infix_flatMap {α β : Type} {f : α → List β} {a : α} {as : List α} (h : a ∈ as) :
    f a <:+: as.flatMap f := by
  rw [List.flatMap_def]
  exact List.infix_of_mem_flatten (List.mem_map_of_mem h)

/-- The layout of the walk has the wrapper of each statement. -/
theorem wrapperLayout_infix (hs : s ∈ statements) :
    wrapperLayout rule (s.scope.map .opening) s <:+: walkLayout rule statements := by
  obtain ⟨visit, hvisit, hmem⟩ :=
    List.mem_flatMap.mp (Namespace.perm_functions_walk.mem_iff.mpr hs)
  have hfunctions : wrapperLayout rule (s.scope.map .opening) s <:+: visitLayout rule visit := by
    rw [Namespace.scope_of_mem_walk hvisit hmem]
    exact (infix_flatMap hmem).trans (List.suffix_append _ _).isInfix
  exact hfunctions.trans (infix_flatMap hvisit)

/-- The name of the sources is bound to a literal that is read as their text. -/
theorem preamble_sources (rule : NamingRule) (origin : Text) (sources : List Text) :
    ∃ behind, Text.unlines (preamble rule origin sources) =
      Text.unlines ([titleLine origin, []] ++ importLines ++ [[], []]) ++
        (sourcesName ++ " = " ++ ((Text.join "\n" sources).quoted ++ ('\n' :: behind))) := by
  refine ⟨Text.unlines ([[], []] ++ defineLines (rule.apply defineBase)), ?_⟩
  simp [preamble]

/-- **Query text and bindings agree.**  In a module the sources are bound to their text, and each
statement that was read from a document is called by its wrapper with its parameters, each of them
bound to the argument at its place. -/
theorem render_calls (h : render rule origin sources statements = .ok text) :
    ∃ literal behind lines,
      text = Text.unlines ([titleLine origin, []] ++ importLines ++ [[], []]) ++
        (sourcesName ++ " = " ++ (literal ++ '\n' :: behind)) ∧
      (∀ named, Literal.read named (literal ++ '\n' :: behind) =
        some (Text.join "\n" sources, '\n' :: behind)) ∧
      text = Text.unlines (preamble rule origin sources ++ lines) ∧
      ∀ s ∈ statements, ∀ filename source parsed,
        Statement.parseAll filename source = .ok parsed → s ∈ parsed → Calls rule lines s := by
  obtain ⟨-, -, htext⟩ := render_eq_unlines h
  obtain ⟨behind, hsources⟩ := preamble_sources rule origin sources
  have hbindable := bindable_of_render h
  refine ⟨(Text.join "\n" sources).quoted, behind ++ Text.unlines (walkLines rule statements),
    walkLines rule statements, ?_, fun named => Literal.read_quoted (by simp), ?_, ?_⟩
  · rw [htext, hsources]
    simp
  · rw [htext, Text.unlines_append]
  · intro s hs filename source parsed hparsed hmem
    have hwritable := Statement.writable_of_parseAll hparsed hmem
    refine ⟨fun _ => Statement.readCall_query hwritable, hbindable.fit_arguments hs, ?_⟩
    intro named
    exact ⟨_, layout?_walkLines hbindable named, wrapperLayout_infix hs⟩

/-- The definitions of two functions, the first with a parameter whose name is no argument as it
stands, and one whose name has to be quoted in a query. -/
def graphSource : Text :=
  "DEFINE FUNCTION fn::graph::edges($in: any, $\x60é\x60: int) \x7b\x7d; " ++
    "DEFINE FUNCTION fn::ping() \x7b\x7d;"

/-- What they define. -/
def graph : List Statement :=
  [⟨["graph"], "edges", [⟨⟨"in"⟩, .primitive .any⟩, ⟨⟨"é"⟩, .primitive .int⟩], []⟩,
    ⟨[], "ping", [], []⟩]

theorem render_calls_graph :
    Statement.parseAll [] graphSource = .ok graph ∧
    ∃ text, render .same [] [graphSource, "\\'\""] graph = .ok text ∧
      ∃ lines, text = Text.unlines (preamble .same [] [graphSource, "\\'\""] ++ lines) ∧
        ∀ s ∈ graph, Calls .same lines s := by
  have hparsed : Statement.parseAll [] graphSource = .ok graph := ok_of_toOption (by decide +kernel)
  obtain ⟨text, h⟩ : ∃ text, render .same [] [graphSource, "\\'\""] graph = .ok text :=
    ⟨_, render_ok_iff.mpr ⟨by unfold Fit; decide +kernel, rfl⟩⟩
  obtain ⟨_, _, lines, -, -, htext, hcalls⟩ := render_calls h
  exact ⟨hparsed, text, h, lines, htext, fun s hs => hcalls s hs _ _ _ hparsed hs⟩

end StoredFunctions.Bindings
