/-
# Places in a document

A **mark** is a place in a document by its numbers: how many characters come before it, its line
and its column, all from zero.  A **place** is a mark with the text behind it.

Lines end at a line feed, a carriage return, both together, a next-line control, or one of the two
separators of Unicode.  A byte order mark takes no column.
-/
import StoredFunctions.Text.Basic

namespace StoredFunctions.Yaml

/-! ## 1. Characters -/

/-- Whether a character ends a line. -/
def isBreak (c : Char) : Bool :=
  c == '\n' || c == '\r' || c == '\u0085' || c == '\u2028' || c == '\u2029'

/-- Whether a character is a space or a tab. -/
def isBlankChar (c : Char) : Bool := c == ' ' || c == '\t'

/-- Whether a character separates tokens. -/
def isGap (c : Char) : Bool := isBlankChar c || isBreak c

/-- Whether a text begins with a gap or is at its end. -/
def atGap : Text → Bool
  | [] => true
  | c :: _ => isGap c

/-- Whether a character may stand in the name of an anchor, a directive or a tag's handle. -/
def isNameChar (c : Char) : Bool := c.isAlphanum || c == '-' || c == '_'

/-! ## 2. Marks -/

/-- A place by its numbers. -/
structure Mark where
  offset : Nat
  line : Nat
  column : Nat
  deriving DecidableEq, Repr

namespace Mark

/-- The start of a document. -/
def start : Mark := ⟨0, 0, 0⟩

/-- The mark behind a character with a text behind it. -/
def after (m : Mark) (c : Char) (rest : Text) : Mark :=
  if isBreak c && !(c == '\r' && rest.head? == some '\n') then ⟨m.offset + 1, m.line + 1, 0⟩
  else ⟨m.offset + 1, m.line, if c == '\ufeff' then m.column else m.column + 1⟩

end Mark

/-! ## 3. Places -/

/-- A mark with the text behind it. -/
structure Place where
  rest : Text
  mark : Mark

namespace Place

/-- The start of a document. -/
def ofText (t : Text) : Place := ⟨t, Mark.start⟩

/-- The column of a place. -/
def column (p : Place) : Nat := p.mark.column

/-- Whether nothing is left to read. -/
def atEnd (p : Place) : Bool := p.rest.isEmpty

/-- The character `count` places further on; NUL behind the end. -/
def ahead (p : Place) (count : Nat) : Char := (p.rest[count]?).getD '\x00'

/-- The next character; NUL at the end. -/
def peek (p : Place) : Char := p.ahead 0

/-- The next character as a message shows it. -/
def shown (p : Place) : Text := [p.peek]

/-- Whether the document goes on with this text. -/
def startsWith (p : Place) (t : Text) : Bool := t.isPrefixOf p.rest

/-- The place behind the next character. -/
def next (p : Place) : Place :=
  match p.rest with
  | [] => p
  | c :: more => ⟨more, p.mark.after c more⟩

/-- The place `count` characters further on, or the end. -/
def advance (p : Place) : Nat → Place
  | 0 => p
  | count + 1 => p.next.advance count

/-- The characters in front of a text up to the first one that fails a test, and the place of that
one. -/
def spanFrom (ok : Char → Bool) : Text → Mark → Text × Place
  | [], m => ([], ⟨[], m⟩)
  | c :: more, m =>
    if ok c then
      let (taken, p) := spanFrom ok more (m.after c more)
      (c :: taken, p)
    else ([], ⟨c :: more, m⟩)

/-- The characters up to the first one that fails a test, and the place of that one. -/
def span (p : Place) (ok : Char → Bool) : Text × Place := spanFrom ok p.rest p.mark

/-- The place of the first character that fails a test. -/
def skip (p : Place) (ok : Char → Bool) : Place := (p.span ok).2

/-- The line end at a place, as the one character that it counts for, and the place behind it.
Only the separators of Unicode count for themselves. -/
def lineBreak? (p : Place) : Option (Char × Place) :=
  match p.rest with
  | '\r' :: '\n' :: _ => some ('\n', p.advance 2)
  | c :: _ =>
    if c == '\u2028' || c == '\u2029' then some (c, p.next)
    else if isBreak c then some ('\n', p.next)
    else none
  | [] => none

/-- The place behind the spaces and the comment at a place. -/
def skipComment (p : Place) : Place :=
  let p := p.skip (· == ' ')
  if p.peek == '#' then p.skip (!isBreak ·) else p

/-- The signs that separate documents. -/
def separators : List Text := ["---", "..."]

/-- Whether the sign of a separator stands at a place, with a gap behind it. -/
def hasSeparator (p : Place) (sign : Text) : Bool :=
  p.startsWith sign && atGap (p.rest.drop sign.length)

/-- Whether a separator of documents stands at a place. -/
def atSeparator (p : Place) : Bool := separators.any p.hasSeparator

end Place

end StoredFunctions.Yaml
