/-
# Parsers

A **parser** reads a value at a cursor and says where it stopped.  Choice is prioritised: the
first alternative that succeeds is taken, and nothing that happens later goes back on it.  When
all alternatives fail, the failure that got furthest is reported, the last of them on ties.

Repetition recovers from failures that are not committed, by stopping where the last complete
element ended.  It goes on only while it gets nearer to the end of the document, which is also
why it ends: `Cursor.distance` falls with every element.

`char` is `single`, `take_while1` is `takeWhile1`, `take_until` is `takeUntil`, `multispace0` and
`multispace1` are `layout` and `layout1`, `not_line_ending` is `restOfLine`, `alt` is `firstOf`,
`many0` and `many1` are `many` and `many1`, `separated_list0` and `separated_list1` are
`separated` and `separated1`, `all_consuming` is `complete`; `tag` and `cut` keep their names.
-/
import StoredFunctions.Source.Failure
import StoredFunctions.Text.Blank

namespace StoredFunctions

/-- A reader of values of type `α` at a cursor. -/
abbrev Parser (α : Type) := StateT Cursor (Except Fault) α

namespace Parser

variable {α β : Type}

/-! ## 1. Failing and looking -/

/-- Fails at the cursor. -/
def fail (cause : Cause) : Parser α := fun c => .error (.failure ⟨cause, c, false⟩)

/-- Fails at `place`, finally. -/
def abort (place : Cursor) (cause : Cause) : Parser α :=
  fun _ => .error (.failure ⟨cause, place, true⟩)

/-- The characters that satisfy `p`, possibly none. -/
def takeWhile (p : Char → Bool) : Parser Text := fun c => .ok (c.takeWhile p)

/-! ## 2. Single characters and words -/

/-- The next character, which has to be the one that `wanted` consists of.  Where nothing is left
the next character is the empty text. -/
def single (wanted : Text) : Parser Text := fun c =>
  if c.peek 1 = wanted then .ok (wanted, c.advance 1) else fail (.expectedText wanted) c

/-- Exactly the text `wanted`. -/
def tag (wanted : Text) : Parser Text := fun c =>
  if c.startsWith wanted then .ok (c.peek wanted.length, c.advance wanted.length)
  else fail (.expectedText wanted) c

/-- The text `wanted` in any letter case; the value is the text as it stands. -/
def tagFolded (wanted : Text) : Parser Text := fun c =>
  if c.startsWithFolded wanted then .ok (c.peek wanted.length, c.advance wanted.length)
  else fail (.expectedText wanted) c

/-- One or more characters that satisfy `p`, described as `what`. -/
def takeWhile1 (p : Char → Bool) (what : Text) : Parser Text := fun c =>
  match c.takeWhile p with
  | ([], _) => fail (.expected what) c
  | (t, after) => .ok (t, after)

/-- Everything up to the first occurrence of `marker`, which is left unread. -/
def takeUntil (marker : Text) : Parser Text := fun c =>
  match c.find? marker with
  | none => fail (.expectedText marker) c
  | some found => .ok (c.rest.take (found - c.offset), c.jump found)

/-- White space, possibly none. -/
def layout : Parser Text := takeWhile isLayout

/-- White space, at least one character of it. -/
def layout1 : Parser Text := takeWhile1 isLayout "whitespace"

/-- The rest of the line. -/
def restOfLine : Parser Text := takeWhile fun c => !isLineEnd c

/-! ## 3. Choice -/

/-- The first success among alternatives, after `furthest`, the failure to report of those
before them. -/
def choose : Option Failure → List (Parser α) → Parser α
  | none, [] => fail .noAlternatives
  | some f, [] => fun _ => .error (.failure f)
  | furthest, p :: more => fun c =>
    match p c with
    | .error (.failure f) =>
      if f.committed then .error (.failure f)
      else choose (some (furthest.elim f (·.further f))) more c
    | outcome => outcome

/-- The first success among alternatives. -/
def firstOf (alternatives : List (Parser α)) : Parser α := choose none alternatives

/-- Makes every failure of `p` final. -/
def cut (p : Parser α) : Parser α := fun c =>
  match p c with
  | .error (.failure f) => .error (.failure f.commit)
  | outcome => outcome

/-! ## 4. Repetition -/

/-- The value of `p`, or `fallback` at the same place when `p` fails without being committed. -/
def orElse (p : Parser α) (fallback : α) : Parser α := fun c =>
  match p c with
  | .error (.failure f) => if f.committed then .error (.failure f) else .ok (fallback, c)
  | outcome => outcome

/-- As many elements as there are. -/
def many (p : Parser α) (c : Cursor) : Except Fault (List α × Cursor) :=
  match p c with
  | .error (.failure f) => if f.committed then .error (.failure f) else .ok ([], c)
  | .error fault => .error fault
  | .ok (item, after) =>
    if after.distance < c.distance then
      match many p after with
      | .ok (items, last) => .ok (item :: items, last)
      | .error fault => .error fault
    else .ok ([], c)
termination_by c.distance

/-- One element or more. -/
def many1 (p : Parser α) : Parser (List α) := do
  let first ← p
  let more ← many p
  pure (first :: more)

/-- One element or more, with separators between them.  A separator that no element follows is
left unread. -/
def separated1 (separator : Parser β) (element : Parser α) : Parser (List α) := do
  let first ← element
  let more ← many do
    let _ ← separator
    element
  pure (first :: more)

/-- Elements with separators between them, possibly none. -/
def separated (separator : Parser β) (element : Parser α) : Parser (List α) :=
  orElse (separated1 separator element) []

/-! ## 5. The end of the document -/

/-- How many characters of an unread rest a message shows. -/
def shownTrailing : Nat := 20

/-- Reads with `p` and insists that nothing is left. -/
def complete (p : Parser α) : Parser α := do
  let value ← p
  fun c => if c.atEnd then .ok (value, c) else fail (.trailingInput (c.peek shownTrailing)) c

end Parser

end StoredFunctions
