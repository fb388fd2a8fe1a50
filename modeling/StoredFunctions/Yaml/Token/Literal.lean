/-
# Words in lines of their own

A word may be written as the lines below a sign: the bar keeps their line ends, and the angle
bracket folds them into spaces as other words do.  The lines are indented, by what a digit behind
the sign says or else as the first of them is.  A plus sign there keeps all line ends at the end,
a minus sign none of them, and without either one is kept.

The readers are given fuel, of which every step takes one unit; one unit more than there are unread
characters is enough, because every step but the last takes a character.
-/
import StoredFunctions.Yaml.Token.Basic

namespace StoredFunctions.Yaml

/-! ## 1. The sign -/

/-- Which line ends at the end of a word are kept. -/
inductive Chomping where
  | one | none | all
  deriving DecidableEq, Repr

/-- The chomping that a sign asks for. -/
def Chomping.ofChar? (c : Char) : Option Chomping :=
  if c == '+' then some .all else if c == '-' then some .none else Option.none

/-- What was being read in a word of lines. -/
def literalContext : Text := "while scanning a block scalar"

/-- The chomping that is asked for at a place, if any is. -/
def chompingAt (p : Place) : Option Chomping × Place :=
  match Chomping.ofChar? p.peek with
  | some chomping => (some chomping, p.next)
  | none => (none, p)

/-- The indentation that is asked for at a place, if any is. -/
def indentationAt (start : Mark) (p : Place) : Except Error (Option Nat × Place) :=
  let c := p.peek
  if c == '0' then
    .error (.within literalContext start
      (.expectedSort "indentation indicator in the range 1-9" "0") p.mark)
  else if isDigit c then .ok (some (c.toNat - 48), p.next)
  else .ok (none, p)

/-- The chomping and the indentation behind the sign, in either order, and the place of the first
line.  There may be a comment in between. -/
def literalHeader (start : Mark) (p : Place) :
    Except Error (Chomping × Option Nat × Place) := do
  let (first, p) := chompingAt p
  let (indentation, p) ← indentationAt start p
  let (second, p) := if first.isNone && indentation.isSome then chompingAt p else (first, p)
  if !p.atEnd && p.peek != ' ' && !isBreak p.peek then
    .error (.within literalContext start
      (.expected "chomping or indentation indicators" p.shown) p.mark)
  else
    let p := p.skipComment
    match p.lineBreak? with
    | some (_, after) => pure (second.getD .one, indentation, after)
    | none =>
      if p.atEnd then pure (second.getD .one, indentation, p)
      else .error (.within literalContext start
        (.expected "a comment or a line break" p.shown) p.mark)

/-! ## 2. The lines -/

/-- The line ends among the spaces and line ends at a place, and the greatest column met there. -/
def leadingBreaks : Nat → Place → Text × Nat × Place
  | 0, p => ([], 0, p)
  | fuel + 1, p =>
    if p.peek == ' ' then
      let (breaks, widest, last) := leadingBreaks fuel p.next
      (breaks, max p.next.column widest, last)
    else match p.lineBreak? with
      | none => ([], 0, p)
      | some (b, after) =>
        let (breaks, widest, last) := leadingBreaks fuel after
        (b :: breaks, widest, last)

/-- The place behind the spaces at a place, but not beyond the column `indent`. -/
def skipIndent (indent : Nat) (p : Place) : Place :=
  p.advance (min (indent - p.column) (p.rest.takeWhile (· == ' ')).length)

/-- The line ends of the lines at a place that are no longer than their indentation, and the place
behind the indentation of the next one. -/
def emptyLines (indent : Nat) : Nat → Place → Text × Place
  | 0, p => ([], p)
  | fuel + 1, p =>
    let p := skipIndent indent p
    match p.lineBreak? with
    | none => ([], p)
    | some (b, after) =>
      let (others, last) := emptyLines indent fuel after
      (b :: others, last)

/-- Lines of a word: their text up to the last line end, that line end, those of the empty lines
behind it, and the place behind them. -/
structure Lines where
  text : Text
  lineEnd : Text
  breaks : Text
  stop : Place

/-- Whether a line of a word begins at a place. -/
def atLine (indent : Nat) (p : Place) : Bool := p.column == indent && !p.atEnd

/-- The lines at a place, behind empty lines with the given line ends. -/
def linesFrom (fold : Bool) (indent : Nat) : Nat → Text → Place → Lines
  | 0, breaks, p => ⟨[], [], breaks, p⟩
  | fuel + 1, breaks, p =>
    if !atLine indent p then ⟨[], [], breaks, p⟩
    else
      let (line, last) := p.span (!isBreak ·)
      let (lineEnd, last) : Text × Place := match last.lineBreak? with
        | some (b, after) => ([b], after)
        | none => ([], last)
      let (others, next) := emptyLines indent (fuel + 1) last
      if !atLine indent next then ⟨breaks ++ line, lineEnd, others, next⟩
      else
        let folds := fold && lineEnd == ['\n'] && !isBlankChar p.peek && !isBlankChar next.peek
        let between := if !folds then lineEnd else if others.isEmpty then [' '] else []
        let more := linesFrom fold indent fuel others next
        { more with text := breaks ++ line ++ between ++ more.text }

/-- The text of lines, with the line ends at the end that are kept. -/
def Lines.chomped (l : Lines) : Chomping → Text
  | .none => l.text
  | .one => l.text ++ l.lineEnd
  | .all => l.text ++ l.lineEnd ++ l.breaks

/-- The word whose sign stands at a place.  Its lines begin in the column `least` or behind it. -/
def literalWord (fold : Bool) (least fuel : Nat) (p : Place) : Scanned := do
  let (chomping, indentation, first) ← literalHeader p.mark p.next
  let lines :=
    match indentation with
    | some n =>
      let indent := least + n - 1
      let (breaks, at1) := emptyLines indent fuel first
      linesFrom fold indent fuel breaks at1
    | none =>
      let (breaks, widest, at1) := leadingBreaks fuel first
      linesFrom fold (max least widest) fuel breaks at1
  pure (Token.between (.word (lines.chomped chomping) .marked) p lines.stop)

end StoredFunctions.Yaml
