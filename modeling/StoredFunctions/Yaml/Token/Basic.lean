/-
# Tokens

A document is a sequence of **tokens**: words, the signs of the flow layout, and, in the block
layout, the starts and ends of containers, which no character stands for but which indentation
shows.  Names of entries and the values behind them are announced by tokens of their own.
-/
import StoredFunctions.Yaml.Problem

namespace StoredFunctions.Yaml

/-- A directive in front of a document. -/
inductive Directive where
  /-- The version of the format. -/
  | version (major : Nat)
  /-- What the handle of a tag is short for. -/
  | handle (handle expansion : Text)
  /-- A directive without a meaning. -/
  | other

/-- How a word is written. -/
inductive Style where
  | plain | marked
  deriving DecidableEq, Repr

/-- What a token is. -/
inductive TokenKind where
  | streamEnd
  | directive (d : Directive)
  | documentStart
  | documentEnd
  /-- The first item of a list in the block layout follows. -/
  | blockListStart
  /-- The first entry of a table in the block layout follows. -/
  | blockTableStart
  /-- The end of a list or a table in the block layout. -/
  | blockEnd
  | flowListStart
  | flowListEnd
  | flowTableStart
  | flowTableEnd
  /-- The comma of the flow layout. -/
  | comma
  /-- The dash of an item in the block layout. -/
  | item
  /-- A key follows. -/
  | key
  /-- A value follows. -/
  | value
  /-- The name of a value that stands elsewhere. -/
  | reference (name : Text)
  /-- A name for the value that follows. -/
  | anchor (name : Text)
  /-- A tag: its handle, if it has one, and the text behind the handle. -/
  | tag (handle : Option Text) (suffix : Text)
  | word (t : Text) (style : Style)

/-- How a message calls a token. -/
def TokenKind.text : TokenKind → Text
  | streamEnd => "<stream end>"
  | directive _ => "<directive>"
  | documentStart => "<document start>"
  | documentEnd => "<document end>"
  | blockListStart => "<block sequence start>"
  | blockTableStart => "<block mapping start>"
  | blockEnd => "<block end>"
  | flowListStart => "["
  | flowListEnd => "]"
  | flowTableStart => "\x7b"
  | flowTableEnd => "\x7d"
  | comma => ","
  | item => "-"
  | key => "?"
  | value => ":"
  | reference _ => "<alias>"
  | anchor _ => "<anchor>"
  | tag _ _ => "<tag>"
  | word _ _ => "<scalar>"

/-- A token, where it begins and where it ends. -/
structure Token where
  kind : TokenKind
  start : Mark
  stop : Mark

/-- What the reader of a token returns: the token and the place behind it. -/
abbrev Scanned := Except Error (Token × Place)

/-- The token from one place to another. -/
def Token.between (kind : TokenKind) (start stop : Place) : Token × Place :=
  (⟨kind, start.mark, stop.mark⟩, stop)

/-- What a line end and the empty lines behind it amount to inside a word: one line end is a
space, more of them are one less, and the separators of Unicode stay. -/
def folded (first : Char) (others : Text) : Text :=
  if first != '\n' then first :: others
  else if others.isEmpty then [' ']
  else others

end StoredFunctions.Yaml
