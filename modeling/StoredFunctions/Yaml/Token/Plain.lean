/-
# Plain words

A word without quotes ends at a gap, at a colon that ends a key, or, in the flow layout, at one of
its signs.  It goes on behind spaces, and on lines below that are indented enough; a comment ends
it, and so does a separator of documents.

The readers are given fuel, of which every step takes one unit; the number of unread characters is
enough, because every step takes a character.
-/
import StoredFunctions.Yaml.Token.Basic

namespace StoredFunctions.Yaml

/-- The signs of the flow layout that end a word behind a colon. -/
def flowSigns : Text := ",[]\x7b\x7d"

/-- The characters that begin something else than a plain word. -/
def signs : Text := "-?:,[]\x7b\x7d#&*!|>'\"%@\x60"

/-- Whether a plain word may begin with a text. -/
def beginsPlain (inFlow : Bool) : Text → Bool
  | [] => false
  | c :: more =>
    if signs.contains c then
      !atGap more && (c == '-' || (!inFlow && (c == '?' || c == ':')))
    else !isGap c

/-- Whether a plain word ends in front of a text. -/
def endsPlain (inFlow : Bool) : Text → Bool
  | [] => true
  | c :: more =>
    isGap c ||
      (c == ':' && (atGap more || (inFlow && flowSigns.contains (more.headD ' ')))) ||
      (inFlow && (c == '?' || flowSigns.contains c))

/-- How many characters of a text belong to a plain word before its next gap or end. -/
def chunkLength (inFlow : Bool) : Text → Nat
  | [] => 0
  | c :: more =>
    if endsPlain inFlow (c :: more) then 0 else chunkLength inFlow more + 1

/-- The line ends among the spaces and line ends at a place, and the place behind them; nothing if
a separator of documents follows one of them. -/
def breaksFrom : Nat → Place → Option Text × Place
  | 0, p => (some [], p)
  | fuel + 1, p =>
    if p.peek == ' ' then breaksFrom fuel p.next
    else match p.lineBreak? with
      | none => (some [], p)
      | some (b, after) =>
        if after.atSeparator then (none, after)
        else
          let (others, last) := breaksFrom fuel after
          (others.map (b :: ·), last)

/-- The space between two parts of a plain word. -/
structure PlainSpace where
  /-- What it amounts to; nothing ends the word. -/
  text : Text
  /-- Whether a line ended. -/
  broken : Bool
  /-- The place behind it. -/
  stop : Place

/-- The space at a place of a plain word. -/
def plainSpace (fuel : Nat) (p : Place) : PlainSpace :=
  let (spaces, p) := p.span (· == ' ')
  match p.lineBreak? with
  | none => ⟨spaces, false, p⟩
  | some (b, after) =>
    if after.atSeparator then ⟨[], true, after⟩
    else match breaksFrom fuel after with
      | (some others, last) => ⟨folded b others, true, last⟩
      | (none, last) => ⟨[], true, last⟩

/-- A plain word, where it ends, the place behind the space that follows it, and whether that
space has a line end in it. -/
structure PlainWord where
  text : Text
  stop : Mark
  behind : Place
  broken : Bool

/-- The plain word at a place, which goes on from column `indent` on, and in the flow layout from
any. -/
def plainFrom (inFlow : Bool) (indent : Nat) : Nat → Place → PlainWord
  | 0, p => ⟨[], p.mark, p, false⟩
  | fuel + 1, p =>
    let length := chunkLength inFlow p.rest
    let chunk := p.rest.take length
    let last := p.advance length
    let space := plainSpace fuel last
    let next := space.stop
    if space.text.isEmpty || next.peek == '#' || (!inFlow && next.column < indent) ||
        endsPlain inFlow next.rest then
      ⟨chunk, last.mark, next, space.broken⟩
    else
      let more := plainFrom inFlow indent fuel next
      { more with text := chunk ++ space.text ++ more.text }

end StoredFunctions.Yaml
