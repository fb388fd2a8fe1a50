/-
# Identifiers and tables

The two kinds of names in a document.  They are spelt alike and are never the same thing: an
identifier names a parameter, a table names a set of records, and neither stands where the other
is wanted.

`Ident`, `ident` and `plain` are `Identifier`, `Identifier.parser` and `Identifier.bareParser`;
`Table` and `table` are `Table` and `Table.parser`; `tables` and `record_tables` are
`Table.commaList` and `Table.barList`, and `format_tables` is `Table.listText`.
-/
import StoredFunctions.Names.Quoting
import StoredFunctions.Source.Punctuation

namespace StoredFunctions

open StoredFunctions.Parser Punctuation

/-! ## 1. Types -/

/-- The name of a parameter. -/
structure Identifier where
  name : Text
  deriving DecidableEq, Repr

/-- The name of a table. -/
structure Table where
  name : Text
  deriving DecidableEq, Repr

namespace Identifier

/-- The canonical spelling. -/
def text (i : Identifier) : Text := Names.escape i.name

/-- The order by code points of names. -/
def le (i j : Identifier) : Bool := i.name.le j.name

/-- An identifier in any spelling. -/
def parser : Parser Identifier := Identifier.mk <$> Names.anyName

/-- An identifier without quotes. -/
def bareParser : Parser Identifier := Identifier.mk <$> Names.bare

end Identifier

namespace Table

/-- The canonical spelling. -/
def text (t : Table) : Text := Names.escape t.name

/-- The order by code points of names. -/
def le (s t : Table) : Bool := s.name.le t.name

/-- A table in any spelling. -/
def parser : Parser Table := Table.mk <$> Names.anyName

/-- Tables with commas between them. -/
def commaList : Parser (List Table) := separated1 comma parser

/-- Tables with bars between them. -/
def barList : Parser (List Table) := separated1 bar parser

/-- The canonical spellings with `separator` between them. -/
def listText (separator : Text) (tables : List Table) : Text :=
  Text.join separator (tables.map text)

end Table

/-! ## 2. Sorting -/

/-- Identifiers in order, equal ones side by side. -/
def Identifier.sort (names : List Identifier) : List Identifier := names.mergeSort Identifier.le

/-- Tables in order, equal ones side by side. -/
def Table.sort (names : List Table) : List Table := names.mergeSort Table.le

end StoredFunctions
