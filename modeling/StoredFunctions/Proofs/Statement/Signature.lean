/-
# Signatures read back

The signature of a statement, with the keywords in front and an empty body behind, is a definition
of the statement without its comments (`definition_signature`).  So it is read back, by itself and
as a document.

Everything about a statement may be arbitrary, but the segments of its path have to be words,
since paths are not quoted, and names must not contain NUL, since no style of quoting has a
spelling for it.  A quoted name may well contain what would end or open something elsewhere in the
definition.
-/
import StoredFunctions.Proofs.Kind.Canonical
import StoredFunctions.Proofs.Statement.Document

namespace StoredFunctions.Statement

open Filler Punctuation Kind

/-! ## 1. Statements that can be written -/

/-- Whether a signature shows everything about the statement but its comments. -/
structure Writable (st : Statement) : Prop where
  path : Names.IsPath st.path
  names : ∀ p ∈ st.parameters, '\x00' ∉ p.ident.name
  kinds : ∀ p ∈ st.parameters, p.kind.Writable

/-- The definition with the signature of a statement and an empty body. -/
def emptyDefinition (st : Statement) : Text := "DEFINE FUNCTION " ++ st.signature ++ " \x7b\x7d"

/-! ## 2. Spellings -/

theorem parameterText_text {p : Parameter} (hn : '\x00' ∉ p.ident.name) (hk : p.kind.Writable) :
    ParameterText p p.text := by
  have h := ParameterText.intro (p := p) (Names.spells_escape hn) isFiller_nil isFiller_space
    (spelling_text p.kind hk)
  simpa [Parameter.text, Identifier.text] using h

theorem parameterList_join {ps : List Parameter} (hn : ∀ p ∈ ps, '\x00' ∉ p.ident.name)
    (hk : ∀ p ∈ ps, p.kind.Writable) :
    ParameterList ps (Text.join ", " (ps.map Parameter.text)) := by
  have htext : ∀ p ∈ ps, ParameterText p p.text := fun p hp =>
    parameterText_text (hn p hp) (hk p hp)
  cases ps with
  | nil => exact .none isFiller_nil
  | cons p ps =>
    obtain ⟨hp, hps⟩ := List.forall_mem_cons.mp htext
    have hcomma : Text.of ", " = [] ++ (Text.of "," ++ Text.of " ") := by cbv
    have hu := following_flatMap (w := ",") isFiller_nil isFiller_space hps
    rw [← hcomma] at hu
    rw [List.map_cons, Text.join_cons]
    simpa using ParameterList.some isFiller_nil hp hu isFiller_nil

/-- **A signature is the header of a definition.** -/
theorem definition_signature {st : Statement} (h : st.Writable) (r : Text) :
    Definition { st with comments := [] } st.emptyDefinition r := by
  have hspace : Text.of " " ≠ [] := Text.of_ne_nil (by decide)
  have hdefine : Text.fold "DEFINE" = "define" := by rw [Text.of_eq, Text.of_eq]; rfl
  have hfunction : Text.fold "FUNCTION" = "function" := by rw [Text.of_eq, Text.of_eq]; rfl
  have hheader : Header { st with comments := [] } ([] ++ (Text.of "DEFINE" ++ (Text.of " " ++
      (Text.of "FUNCTION" ++ (Text.of " " ++ (Text.of "fn::" ++ (Text.join "::" st.path ++ ([] ++
        (Text.of "(" ++ (Text.join ", " (st.parameters.map Parameter.text) ++
          (Text.of ")" ++ Text.of " "))))))))))) :=
    .intro .nil hdefine hspace isFiller_space hfunction hspace
      isFiller_space h.path isFiller_nil (parameterList_join h.names h.kinds) isFiller_space
  have hbody : Body (Text.of "\x7b" ++ ([] ++ ([] ++ Text.of "\x7d"))) r :=
    .plain isFiller_nil (by simp) not_begins_nil (by rw [blockOpen_eq]; simp)
  have hwords : Text.of "DEFINE FUNCTION " =
      Text.of "DEFINE" ++ (Text.of " " ++ (Text.of "FUNCTION" ++ Text.of " ")) := by cbv
  have hbraces : Text.of " \x7b\x7d" = Text.of " " ++ (Text.of "\x7b" ++ Text.of "\x7d") := by cbv
  refine ⟨_, _, ?_, hheader, hbody⟩
  simp [emptyDefinition, signature, qualifiedName, hwords, hbraces, Statement.path]

/-! ## 3. Round trip -/

theorem terminator_semicolon : Terminator ";" :=
  ⟨[], ";", rfl, isFiller_nil, 0, by rw [Text.of_eq]; rfl⟩

/-- **A signature reads back**, as the definition of a function and as a document: path,
parameters and kinds are kept, and there are no comments. -/
theorem parse_signature (filename : Text) (st : Statement) (h : st.Writable) :
    parse filename ("DEFINE FUNCTION " ++ st.signature ++ " \x7b\x7d") =
        .ok { st with comments := [] } ∧
      parseAll filename ("DEFINE FUNCTION " ++ st.signature ++ " \x7b\x7d" ++ ";") =
        .ok [{ st with comments := [] }] := by
  constructor
  · refine parse_complete ⟨_, [], [], ?_, definition_signature h _, .inl rfl, .filler isFiller_nil⟩
    simp [emptyDefinition]
  · refine parseAll_complete ⟨by simp, _, [], ?_,
      .cons (definition_signature h _) terminator_semicolon .nil, .filler isFiller_nil⟩
    simp [emptyDefinition]

/-- A statement whose names hold what would end a name, a body or a list elsewhere. -/
def delicate : Statement where
  scope := ["a"]
  name := "b_1"
  parameters :=
    [⟨⟨"\x60 \x7d, $ -- */"⟩, .either (.array .any (some 12)) (.record [⟨""⟩, ⟨"\\|>"⟩]) [.option .any]⟩]
  comments := ["dropped"]

theorem parse_signature_delicate :
    delicate.Writable ∧
      parse [] ("DEFINE FUNCTION " ++ delicate.signature ++ " \x7b\x7d") =
        .ok { delicate with comments := [] } ∧
      parseAll [] ("DEFINE FUNCTION " ++ delicate.signature ++ " \x7b\x7d" ++ ";") =
        .ok [{ delicate with comments := [] }] := by
  have hbound : IsBound (some 12) := by
    rintro n ⟨⟩
    decide +kernel
  have htables : (Kind.record [⟨""⟩, ⟨"\\|>"⟩]).Writable := by
    rw [Kind.Writable]
    decide +kernel
  have hkinds : ∀ p ∈ delicate.parameters, p.kind.Writable :=
    List.forall_mem_cons.mpr ⟨⟨⟨trivial, hbound⟩, htables, trivial, trivial⟩, by simp⟩
  have h : delicate.Writable := ⟨by decide +kernel, by decide +kernel, hkinds⟩
  exact ⟨h, parse_signature [] delicate h⟩

end StoredFunctions.Statement
