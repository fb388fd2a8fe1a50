/-
# Problems of documents

A **problem** says what is wrong with a document and where, and possibly what was being read and
where that began.  Its wording shows each place with the line itself and a mark under the column.
-/
import StoredFunctions.Calendar.Basic
import StoredFunctions.Source.Failure
import StoredFunctions.Text.Base64
import StoredFunctions.Text.Utf8
import StoredFunctions.Yaml.Place

namespace StoredFunctions.Yaml

/-! ## 1. Findings -/

/-- What is wrong at a place. -/
inductive Finding where
  /-- Something else was expected than the character or token found. -/
  | expected (wanted found : Text)
  /-- Something else was expected between the parts of a container than the token found. -/
  | expectedMark (wanted found : Text)
  /-- Something of another sort was expected. -/
  | expectedSort (wanted found : Text)
  /-- A character that begins no token. -/
  | noToken (c : Text)
  /-- Something that may not stand here. -/
  | notAllowed (what : Text)
  /-- The name of an entry without a colon behind it. -/
  | missingColon
  | unexpectedEnd
  | unexpectedSeparator
  | unknownEscape (c : Text)
  | undecodable (e : Utf8.DecodeError)
  /-- A second directive for the version. -/
  | repeatedVersion
  /-- A version other than one. -/
  | wrongVersion
  | repeatedHandle (handle : Text)
  | unknownHandle (handle : Text)
  | unknownAnchor (name : Text)
  /-- An anchor that was set before. -/
  | repeatedAnchor
  | anotherDocument
  | unknownTag (tag : Text)
  /-- A container where a key is wanted. -/
  | containerAsKey
  | notBase64 (e : Base64.Error)

/-- The wording of a finding. -/
def Finding.message : Finding → Text
  | expected wanted found => "expected " ++ wanted ++ ", but found " ++ found.quoted
  | expectedMark wanted found => "expected " ++ wanted ++ ", but got " ++ found.quoted
  | expectedSort wanted found => "expected " ++ wanted ++ ", but found " ++ found
  | noToken c => "found character " ++ c.quoted ++ " that cannot start any token"
  | notAllowed what => what ++ " are not allowed here"
  | missingColon => "could not find expected ':'"
  | unexpectedEnd => "found unexpected end of stream"
  | unexpectedSeparator => "found unexpected document separator"
  | unknownEscape c => "found unknown escape character " ++ c.quoted
  | undecodable e => e.message
  | repeatedVersion => "found duplicate YAML directive"
  | wrongVersion => "found incompatible YAML document (version 1.* is required)"
  | repeatedHandle handle => "duplicate tag handle " ++ handle.quoted
  | unknownHandle handle => "found undefined tag handle " ++ handle.quoted
  | unknownAnchor name => "found undefined alias " ++ name.quoted
  | repeatedAnchor => "second occurrence"
  | anotherDocument => "but found another document"
  | unknownTag tag => "could not determine a constructor for the tag " ++ tag.quoted
  | containerAsKey => "found unhashable key"
  | notBase64 e => e.message

/-! ## 2. Problems -/

/-- What was being read when a problem was met, and where that began. -/
structure Context where
  what : Text
  began : Option Mark

/-- A finding, its place, and what was being read. -/
structure Problem where
  context : Option Context
  finding : Finding
  place : Mark

/-- How many characters of a line a message shows on either side of a place. -/
def shownWidth : Nat := 36

/-- What stands for the characters of a line that a message leaves out. -/
def ellipsis : Text := " ... "

/-- A place in a message: line, column, the text around and a mark under it. -/
def Mark.describe (source : Text) (m : Mark) : Text :=
  let before := ((source.take m.offset).reverse.takeWhile (!isBreak ·)).reverse
  let after := (source.drop m.offset).takeWhile (!isBreak ·)
  let cut := shownWidth + 1 - ellipsis.length
  let (head, before) : Text × Text :=
    if shownWidth < before.length then (ellipsis, before.drop (before.length - cut))
    else ([], before)
  let (after, tail) : Text × Text :=
    if shownWidth < after.length then (after.take cut, ellipsis) else (after, [])
  "  in \"<unicode string>\", line " ++ Text.ofNat (m.line + 1) ++
    ", column " ++ Text.ofNat (m.column + 1) ++
    ":\n    " ++ head ++ before ++ after ++ tail ++ "\n" ++
    List.replicate (4 + before.length + head.length) ' ' ++ "^"

/-- Whether two marks are in the same line and column. -/
def Mark.sameSpot (m n : Mark) : Bool := m.line == n.line && m.column == n.column

/-- The wording of a problem in a document. -/
def Problem.message (source : Text) (p : Problem) : Text :=
  let context : List Text :=
    match p.context with
    | none => []
    | some ⟨what, none⟩ => [what]
    | some ⟨what, some began⟩ =>
      if began.sameSpot p.place then [what] else [what, began.describe source]
  Text.join "\n" (context ++ [p.finding.message, p.place.describe source])

/-! ## 3. Errors -/

/-- Why a word has no value. -/
inductive WordError where
  /-- An integer with this many digits, too many to read. -/
  | oversized (digits : Nat)
  /-- A text that spells no integer to this base. -/
  | notAnInteger (base : Nat) (t : Text)
  /-- A text that spells no number. -/
  | notANumber (t : Text)
  /-- A text without a character, where a number is wanted. -/
  | emptyNumber
  /-- A number with so many places to the base sixty that they leave the range of numbers. -/
  | hugeNumber
  /-- A word that is neither true nor false. -/
  | notATruthValue (word : Text)
  /-- A text that is written like no date. -/
  | notADate
  /-- A table with a default value where a date is wanted. -/
  | dateInTable
  | calendar (e : CalendarError)
  /-- The number of no character. -/
  | noCharacter
  /-- A number too large to be asked for its character. -/
  | hugeCharacter
  deriving DecidableEq, Repr

/-- The wording of an error. -/
def WordError.message : WordError → Text
  | oversized digits => oversizedMessage digits
  | notAnInteger base t =>
    "invalid literal for int() with base " ++ Text.ofNat base ++ ":" ++ " " ++ t.quoted
  | notANumber t => "could not convert string to float:" ++ " " ++ t.quoted
  | emptyNumber => "string index out of range"
  | hugeNumber => "int too large to convert to float"
  | notATruthValue word => word.quoted
  | notADate => "'NoneType' object has no attribute 'groupdict'"
  | dateInTable => "expected string or bytes-like object, got 'list'"
  | calendar e => e.message
  | noCharacter => "chr() arg not in range(0x110000)"
  | hugeCharacter => "Python int too large to convert to C int"

/-- Why a document has no value. -/
inductive Error where
  /-- A character that may not stand in a document, and the number of those before it. -/
  | forbidden (c : Char) (position : Nat)
  | problem (p : Problem)
  /-- A word of the document has no value. -/
  | word (e : WordError)

/-- The error of a finding at a mark. -/
def Error.at (finding : Finding) (place : Mark) : Error := .problem ⟨none, finding, place⟩

/-- The error of a finding at a mark while something was being read that began at another one. -/
def Error.within (what : Text) (began : Mark) (finding : Finding) (place : Mark) : Error :=
  .problem ⟨some ⟨what, some began⟩, finding, place⟩

/-- The wording of an error in a document. -/
def Error.message (source : Text) : Error → Text
  | forbidden c position =>
    "unacceptable character #x" ++ Text.hex 4 c.toNat ++
      ":" ++ " special characters are not allowed\n  in \"<unicode string>\", position " ++
      Text.ofNat position
  | problem p => p.message source
  | word e => e.message

/-- **Why a document has no value, for those who do not look into it**: the wording, and whether
the document breaks the rules of the format. -/
inductive Failure where
  /-- The document breaks the rules. -/
  | form (wording : Text)
  /-- It follows them, and something in it has no value. -/
  | word (wording : Text)

/-- An error in a document as others see it. -/
def Error.failure (source : Text) : Error → Failure
  | word e => .word e.message
  | e => .form (e.message source)

end StoredFunctions.Yaml
