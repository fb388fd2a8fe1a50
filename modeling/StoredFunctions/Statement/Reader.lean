/-
# Reading function definitions

A document is a sequence of definitions

    -- documentation
    DEFINE FUNCTION fn::scope::name($parameter: kind, …) { body };

each ended by one semicolon or more.  The body runs from its opening brace to the *first* closing
brace: nested braces are not followed.  Between tokens there may be filler; the comments in front
of a definition are its documentation.

`parameter` keeps its name, `ignored_block` is `body`, `function` and `functions` are `definition`
and `definitions`, `_document` is `document`, and `parse_function` and `parse_functions` are
`Statement.parse` and `Statement.parseAll`.
-/
import StoredFunctions.Kind.Reader
import StoredFunctions.Statement.Basic

namespace StoredFunctions.Statement

open StoredFunctions.Parser Punctuation

/-! ## 1. The parts of a definition -/

/-- A parameter.  Behind the colon only a kind can follow, so a failure there is final. -/
def parameter : Parser Parameter := do
  let _ ← single "$"
  let ident ← Identifier.parser
  Filler.skip
  let _ ← single ":"
  Filler.skip
  let kind ← cut Kind.parser
  pure ⟨ident, kind⟩

/-- The body of a definition, up to its first closing brace. -/
def body : Parser Unit := do
  let _ ← single "\x7b"
  Filler.skip
  fun c =>
    match c.find? "\x7d" with
    | none => fail .unclosedBody c
    | some found => .ok ((), c.jump (found + 1))

/-! ## 2. Definitions -/

/-- A definition, without its semicolons. -/
def definition : Parser Statement := do
  let comments ← Filler.documentation
  Filler.skip
  let _ ← tagFolded "DEFINE"
  Filler.skip1
  let _ ← tagFolded "FUNCTION"
  Filler.skip1
  let _ ← tag "fn::"
  let (first, more) ← Names.path
  Filler.skip
  openParenthesis
  let parameters ← separated comma parameter
  closeParenthesis
  Filler.skip
  body
  pure (ofSegments first more parameters comments)

/-- Definitions, each ended by semicolons. -/
def definitions : Parser (List Statement) := do
  let _ ← layout
  let statements ← separated1 terminator definition
  terminator
  pure statements

/-- Definitions and the filler behind them. -/
def document : Parser (List Statement) := do
  let statements ← definitions
  Filler.skip
  pure statements

/-- A definition whose semicolons may be missing, and the filler behind it. -/
def lone : Parser Statement := do
  let statement ← definition
  Filler.skip
  fun c =>
    if c.peek 1 = ";" then
      (do
        terminator
        Filler.skip
        pure statement : Parser Statement) c
    else .ok (statement, c)

/-! ## 3. Whole documents -/

/-- The statement that a text consists of. -/
def parse (filename source : Text) : Except Fault Statement :=
  (complete lone (Cursor.ofSource source filename)).map Prod.fst

/-- The statements of a document. -/
def parseAll (filename source : Text) : Except Fault (List Statement) :=
  (complete document (Cursor.ofSource source filename)).map Prod.fst

end StoredFunctions.Statement
