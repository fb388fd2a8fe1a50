/-
# Reading kinds

A kind is a keyword in any letter case, followed directly by its arguments between chevrons.
`array`, `set` and `record` may stand without arguments.

The reader of nested kinds is given how deep it may go.  A kind that contains another is at least
one character longer, so the length of the unread text, which `Kind.parser` supplies, is deep
enough for every document.

`kind` is `Kind.parser`, by way of `nested`, and its table of composites is `arguments`: `_option`
is `optionArguments`, `_collection` with `_at_comma` and `_limit` is `collection` with `limit?`
and `limit`, `_record` is `recordArguments`, `_either` is `eitherArguments`, and `_geometry` with
`_geometry_subtype` is `geometryArguments` with `shape`.
-/
import StoredFunctions.Kind.Basic

namespace StoredFunctions.Kind

open StoredFunctions.Parser Punctuation

/-! ## 1. Keywords -/

/-- The keywords of kinds that take arguments. -/
inductive Former where
  | option | array | set | record | either | geometry
  deriving DecidableEq, Repr

/-- All keywords of kinds that take arguments. -/
def Former.all : List Former := [.option, .array, .set, .record, .either, .geometry]

/-- The keyword. -/
def Former.text : Former → Text
  | .option => "option"
  | .array => "array"
  | .set => "set"
  | .record => "record"
  | .either => "either"
  | .geometry => "geometry"

/-- The former that a word in lower case names. -/
def Former.ofText? (word : Text) : Option Former := Former.all.find? fun f => f.text == word

/-! ## 2. Arguments -/

/-- The number that bounds a collection. -/
def limit : Parser Nat := fun c =>
  match c.takeWhile isDigit with
  | ([], _) => fail (.expected "a non-negative collection limit") c
  | (digits, after) =>
    if digitLimit < digits.length then .error (.oversizedLimit digits.length)
    else .ok (digits.toNat, after)

/-- A comma and a bound, if a comma follows. -/
def limit? : Parser (Option Nat) := fun c =>
  match comma c with
  | .error _ => .ok (none, c)
  | .ok (_, after) => (some <$> limit) after

/-- A word for a sort of geometry, in any letter case. -/
def shape : Parser Shape := fun c =>
  let (word, after) := c.takeWhile isWordChar
  match Shape.ofText? word.fold with
  | none => fail (.unknownShape word) c
  | some s => .ok (s, after)

/-- The arguments of a sequence or a set, if there are any. -/
def collection (former : Kind → Option Nat → Kind) (inner : Parser Kind) : Parser Kind := fun c =>
  if c.peek 1 = "<" then
    (do
      openChevron
      let element ← inner
      let bound ← limit?
      closeChevron
      pure (former element bound) : Parser Kind) c
  else .ok (former any none, c)

/-- The arguments of a record, if there are any. -/
def recordArguments : Parser Kind := fun c =>
  if c.peek 1 = "<" then
    (do
      openChevron
      let tables ← Table.barList
      closeChevron
      pure (record tables) : Parser Kind) c
  else .ok (record [], c)

/-- The member of an option. -/
def optionArguments (inner : Parser Kind) : Parser Kind := do
  openChevron
  let member ← inner
  closeChevron
  pure (option member)

/-- The shapes of a geometry. -/
def geometryArguments : Parser Kind := do
  openChevron
  let first ← shape
  let more ← many do
    bar
    shape
  closeChevron
  pure (geometry first more)

/-- The members of a union whose keyword stands at `start`. -/
def eitherArguments (start : Cursor) (inner : Parser Kind) : Parser Kind := do
  openChevron
  let members ← separated1 bar inner
  closeChevron
  match members with
  | first :: second :: more => pure (either first second more)
  | _ => fun _ => fail .lonelyUnion start

/-- The arguments of the kind whose keyword stands at `start`. -/
def arguments (start : Cursor) (inner : Parser Kind) : Former → Parser Kind
  | .option => optionArguments inner
  | .array => collection array inner
  | .set => collection set inner
  | .record => recordArguments
  | .either => eitherArguments start inner
  | .geometry => geometryArguments

/-! ## 3. Kinds -/

/-- A kind with at most `depth` kinds around one another. -/
def nested : Nat → Parser Kind
  | 0 => fail (.expected "a type")
  | depth + 1 => fun c =>
    let (word, after) := c.takeWhile isWordChar
    if word.isEmpty then fail (.expected "a type") c
    else match Primitive.ofText? word.fold with
      | some p => .ok (primitive p, after)
      | none =>
        match Former.ofText? word.fold with
        | some former => arguments c (nested depth) former after
        | none => fail (.unknownType word) c

/-- A kind. -/
def parser : Parser Kind := fun c => nested (c.left + 1) c

end StoredFunctions.Kind
