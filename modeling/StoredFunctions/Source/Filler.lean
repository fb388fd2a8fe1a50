/-
# Filler

What stands between the tokens of a document: white space and comments.  There are four kinds of
comment: `/* … */`, which ends at the first `*/` and does not nest, and the three that run to the
end of their line, begun by `//`, `--` or `#`.

Comments are captured, trimmed, because those in front of a function are its documentation;
elsewhere the captured texts are dropped.

`block` keeps its name, the three of `_line_comment` are `slashComment`, `dashComment` and
`hashComment`, `comments` keeps its name, `mightbecomment` is `documentation`, and `mightbespace`
and `shouldbespace` are `skip` and `skip1`.
-/
import StoredFunctions.Source.Parser

namespace StoredFunctions.Filler

open StoredFunctions.Parser

/-! ## 1. Single comments, with the white space in front of them -/

/-- A comment `/* … */`, with the white space behind it as well. -/
def block : Parser Text := do
  let _ ← layout
  let _ ← tag "/*"
  let body ← takeUntil "*/"
  let _ ← tag "*/"
  let _ ← layout
  pure body.trim

/-- A comment from `marker` to the end of the line. -/
def lineComment (marker : Text) : Parser Text := do
  let _ ← layout
  let _ ← tag marker
  let body ← restOfLine
  pure body.trim

/-- A comment begun by `//`. -/
def slashComment : Parser Text := lineComment "//"

/-- A comment begun by `--`. -/
def dashComment : Parser Text := lineComment "--"

/-- A comment begun by `#`. -/
def hashComment : Parser Text := lineComment "#"

/-- A comment of any kind. -/
def comment : Parser Text := firstOf [block, slashComment, dashComment, hashComment]

/-! ## 2. Runs of filler -/

/-- One comment or more, and the white space around them. -/
def comments : Parser (List Text) := do
  let _ ← layout
  let bodies ← many1 comment
  let _ ← layout
  pure bodies

/-- Filler, possibly none, with the comments in it. -/
def documentation : Parser (List Text) :=
  firstOf [comments, do let _ ← layout; pure []]

/-- Filler, possibly none. -/
def skip : Parser Unit := do
  let _ ← documentation
  pure ()

/-- Filler, at least one character of it. -/
def skip1 : Parser Unit :=
  firstOf [do let _ ← comments; pure (), do let _ ← layout1; pure ()]

end StoredFunctions.Filler
