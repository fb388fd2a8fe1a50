/-
# Punctuation

The delimiters of the grammar with the filler that may stand around them.  The asymmetries are
deliberate: an opening delimiter allows filler behind it and a closing one in front of it, and
after the semicolons of a statement only white space is read, so that comments there stay with
the statement that follows.

`_surrounded` is `surrounded`, its instances `commas`, `verbar` and `colon` are `comma`, `bar` and
`colon`; `terminators` is `terminator`; `openparentheses`, `closeparentheses`, `openchevron` and
`closechevron` are `openParenthesis`, `closeParenthesis`, `openChevron` and `closeChevron`.
-/
import StoredFunctions.Source.Filler

namespace StoredFunctions.Punctuation

open StoredFunctions.Parser Filler

/-! ## 1. Separators -/

/-- A symbol with filler on both sides. -/
def surrounded (symbol : Text) : Parser Unit := do
  skip
  let _ ← single symbol
  skip

/-- The comma between parameters, tables and bounds. -/
def comma : Parser Unit := surrounded ","

/-- The bar between alternatives. -/
def bar : Parser Unit := surrounded "|"

/-- The colon between a name and its type. -/
def colon : Parser Unit := surrounded ":"

/-- The semicolons that end a statement. -/
def terminator : Parser Unit := do
  skip
  let _ ← many1 (single ";")
  let _ ← layout
  pure ()

/-! ## 2. Brackets -/

/-- An opening symbol. -/
def opening (symbol : Text) : Parser Unit := do
  let _ ← single symbol
  skip

/-- A closing symbol. -/
def closing (symbol : Text) : Parser Unit := do
  skip
  let _ ← single symbol
  pure ()

/-- The parenthesis before parameters. -/
def openParenthesis : Parser Unit := opening "("

/-- The parenthesis after parameters. -/
def closeParenthesis : Parser Unit := closing ")"

/-- The bracket before the arguments of a type. -/
def openChevron : Parser Unit := opening "<"

/-- The bracket after the arguments of a type. -/
def closeChevron : Parser Unit := closing ">"

end StoredFunctions.Punctuation
