/-
# Cursors

A **cursor** is a place in a document: the whole text, the name of the file it came from, and an
offset.  It carries the text from the offset on as well, and its length, so that looking ahead and
moving on cost no more than the characters looked at; the fields `rest_eq` and `left_eq` say that
all of these agree.

An offset may lie past the end of the text.  Nothing is left to read there, and only `advance`
comes back from it, to the end.

Locations are a function of text and offset.  A line ends at a line feed and at nothing else;
lines and columns are counted from one.

The class `Cursor`: `eof` is `atEnd`, `rest` the field of that name, `startswith` is `startsWith`,
or `startsWithFolded` where letter case does not count, `find` is `find?`, `take_while` is
`takeWhile`, and `peek`, `advance`, `jump` and `location` keep their names.
-/
import StoredFunctions.Text.LowerCase

namespace StoredFunctions

/-! ## 1. Locations in a text -/

namespace Text

/-- How many characters of a text belong to lines that a line feed has ended. -/
def endedLines (t : Text) : Nat := t.length - (t.reverse.takeWhile (· != '\n')).length

/-- The line of an offset. -/
def lineAt (t : Text) (offset : Nat) : Nat := (t.take offset).count '\n' + 1

/-- The column of an offset. -/
def columnAt (t : Text) (offset : Nat) : Nat := offset - endedLines (t.take offset) + 1

end Text

/-! ## 2. Cursors and what they see -/

/-- A place in a document. -/
structure Cursor where
  /-- The whole document. -/
  source : Text
  /-- The name that error messages give to the document. -/
  filename : Text
  /-- How many characters come before the place. -/
  offset : Nat
  /-- The document from the place on. -/
  rest : Text
  /-- How many characters come behind the place. -/
  left : Nat
  rest_eq : rest = source.drop offset
  left_eq : left = rest.length

namespace Cursor

/-- The place `offset` of a document. -/
def ofOffset (source filename : Text) (offset : Nat) : Cursor :=
  ⟨source, filename, offset, source.drop offset, (source.drop offset).length, rfl, rfl⟩

/-- The start of a document. -/
def ofSource (source filename : Text) : Cursor := ofOffset source filename 0

/-- Whether nothing is left to read. -/
def atEnd (c : Cursor) : Bool := c.rest.isEmpty

/-- The next `count` characters, or fewer at the end. -/
def peek (c : Cursor) (count : Nat) : Text := c.rest.take count

/-- Whether the document goes on with `t`. -/
def startsWith (c : Cursor) (t : Text) : Bool := c.peek t.length == t

/-- Whether the document goes on with as many characters as `t` has, equal to it in lower case. -/
def startsWithFolded (c : Cursor) (t : Text) : Bool := (c.peek t.length).lower == t.lower

/-- The offset of the first occurrence of `t` at or after the place. -/
def find? (c : Cursor) (t : Text) : Option Nat :=
  if c.atEnd && c.source.length < c.offset then none
  else (c.rest.indexOf? t).map (c.offset + ·)

/-- The line and the column of the place. -/
def location (c : Cursor) : Nat × Nat := (c.source.lineAt c.offset, c.source.columnAt c.offset)

/-! ## 3. Moving -/

private theorem drop_length_takeWhile (p : Char → Bool) (t : Text) :
    t.drop (t.takeWhile p).length = t.dropWhile p := by
  induction t with
  | nil => rfl
  | cons c more ih => by_cases h : p c = true <;> simp [h, ih]

/-- The same document at another offset. -/
def jump (c : Cursor) (offset : Nat) : Cursor :=
  if h : c.offset ≤ offset then
    { source := c.source
      filename := c.filename
      offset
      rest := c.rest.drop (offset - c.offset)
      left := c.left - (offset - c.offset)
      rest_eq := by rw [c.rest_eq, List.drop_drop, Nat.add_sub_cancel' h]
      left_eq := by rw [c.left_eq, List.length_drop] }
  else ofOffset c.source c.filename offset

/-- The place `count` characters further on, or the end of the document. -/
def advance (c : Cursor) (count : Nat) : Cursor where
  source := c.source
  filename := c.filename
  offset := if c.left = 0 then c.source.length else c.offset + min count c.left
  rest := c.rest.drop count
  left := c.left - count
  rest_eq := by
    have hl : c.left = c.source.length - c.offset := by rw [c.left_eq, c.rest_eq, List.length_drop]
    rw [c.rest_eq, List.drop_drop]
    split
    · rw [List.drop_length, List.drop_eq_nil_of_le (by omega)]
    · rcases Nat.le_total count c.left with hc | hc
      · rw [Nat.min_eq_left hc]
      · rw [Nat.min_eq_right hc, List.drop_eq_nil_of_le (by omega),
          List.drop_eq_nil_of_le (by omega)]
  left_eq := by rw [c.left_eq, List.length_drop]

/-- The characters up to the first one that fails `p`, and the place of that one. -/
def takeWhile (c : Cursor) (p : Char → Bool) : Text × Cursor :=
  let taken := c.rest.takeWhile p
  (taken,
    { source := c.source
      filename := c.filename
      offset := c.offset + taken.length
      rest := c.rest.dropWhile p
      left := c.left - taken.length
      rest_eq := by rw [← List.drop_drop, ← c.rest_eq, drop_length_takeWhile]
      left_eq := by rw [c.left_eq, ← drop_length_takeWhile, List.length_drop] })

/-- How far the place is from the end of the document, on either side of it.  Every step of a
repetition makes this smaller. -/
def distance (c : Cursor) : Nat :=
  if c.left = 0 then c.offset - c.source.length else c.left

/-! ## 4. Small facts -/

@[ext] theorem ext {c d : Cursor} (hs : c.source = d.source) (hf : c.filename = d.filename)
    (ho : c.offset = d.offset) : c = d := by
  obtain ⟨s, f, o, r, n, hr, hn⟩ := c
  obtain ⟨s', f', o', r', n', hr', hn'⟩ := d
  simp only at hs hf ho
  subst hs hf ho
  subst hr hr'
  subst hn hn'
  rfl

theorem jump_eq (c : Cursor) (n : Nat) : c.jump n = ofOffset c.source c.filename n := by
  unfold jump
  split
  · exact ext rfl rfl rfl
  · rfl

@[simp] theorem source_jump (c : Cursor) (n : Nat) : (c.jump n).source = c.source := by
  rw [jump_eq]; rfl

@[simp] theorem filename_jump (c : Cursor) (n : Nat) : (c.jump n).filename = c.filename := by
  rw [jump_eq]; rfl

@[simp] theorem offset_jump (c : Cursor) (n : Nat) : (c.jump n).offset = n := by
  rw [jump_eq]; rfl

@[simp] theorem rest_jump (c : Cursor) (n : Nat) : (c.jump n).rest = c.source.drop n := by
  rw [jump_eq]; rfl

@[simp] theorem source_advance (c : Cursor) (n : Nat) : (c.advance n).source = c.source := rfl
@[simp] theorem filename_advance (c : Cursor) (n : Nat) :
    (c.advance n).filename = c.filename := rfl

theorem rest_length (c : Cursor) : c.rest.length = c.source.length - c.offset := by
  rw [c.rest_eq, List.length_drop]

theorem left_eq_sub (c : Cursor) : c.left = c.source.length - c.offset := by
  rw [c.left_eq, rest_length]

/-- **Advancing is clamped to the end**, from both sides of it. -/
theorem offset_advance (c : Cursor) (n : Nat) :
    (c.advance n).offset = min (c.offset + n) c.source.length := by
  have hl := c.left_eq_sub
  unfold advance
  simp only
  split <;> omega

theorem distance_eq (c : Cursor) :
    c.distance = (c.source.length - c.offset) + (c.offset - c.source.length) := by
  have hl := c.left_eq_sub
  unfold distance
  split <;> omega

end Cursor

end StoredFunctions
