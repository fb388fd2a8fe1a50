/-
# Anchors, tags and directives

A value may carry a name, its **anchor**, by which it is referred to elsewhere, and a **tag**, which
says what it is.  A tag is written with a handle, which a directive in front of the document may
explain, or in full between angle brackets; its characters may be escaped by their bytes.
-/
import StoredFunctions.Text.Unit
import StoredFunctions.Yaml.Token.Basic

namespace StoredFunctions.Yaml

/-- Whether nothing, a space or a line end follows. -/
def atWordEnd (p : Place) : Bool := p.atEnd || p.peek == ' ' || isBreak p.peek

/-! ## 1. Anchors and references -/

/-- The characters other than gaps that may follow a name. -/
def nameEnds : Text := "?:,]\x7d%@\x60"

/-- The anchor or the reference at a place. -/
def namedToken (isReference : Bool) (p : Place) : Scanned :=
  let what : Text := if isReference then "while scanning an alias" else "while scanning an anchor"
  let (name, last) := p.next.span isNameChar
  if name.isEmpty || !(atGap last.rest || nameEnds.contains last.peek) then
    .error (.within what p.mark (.expected "alphabetic or numeric character" last.shown) last.mark)
  else .ok (Token.between (if isReference then .reference name else .anchor name) p last)

/-! ## 2. Tags -/

/-- Whether a character may stand in a tag, or introduces an escape there. -/
def isTagChar (c : Char) : Bool :=
  c.isAlphanum || ("-;/?:@&=+$,_.!~*'()[]%" : Text).contains c

/-- The bytes of escapes at a place.  Every escape takes a unit of fuel and three characters. -/
def tagBytes (what : Text) (start : Mark) : Nat → Place → Except Error (List UInt8 × Place)
  | 0, p => .ok ([], p)
  | fuel + 1, p =>
    if p.peek != '%' then .ok ([], p)
    else
      let p := p.next
      match Text.hexDigit? p.peek, Text.hexDigit? (p.ahead 1) with
      | some a, some b => do
        let (more, last) ← tagBytes what start fuel (p.advance 2)
        pure (UInt8.ofNat (a * 16 + b) :: more, last)
      | first, _ =>
        let found := if first.isNone then p.peek else p.ahead 1
        .error (.within ("while scanning a " ++ what) start
          (.expected "URI escape sequence of 2 hexadecimal numbers" [found]) p.mark)

/-- The text of a tag at a place.  Every part takes a unit of fuel and a character. -/
def tagParts (what : Text) (start : Mark) : Nat → Place → Except Error (Text × Place)
  | 0, p => .ok ([], p)
  | fuel + 1, p =>
    let (plain, after) := p.span fun c => isTagChar c && c != '%'
    if after.peek != '%' then .ok (plain, after)
    else do
      let (bytes, last) ← tagBytes what start (after.rest.length + 1) after
      match Utf8.decode bytes with
      | .error e =>
        .error (.within ("while scanning a " ++ what) start (.undecodable e) after.mark)
      | .ok decoded =>
        let (more, last) ← tagParts what start fuel last
        pure (plain ++ decoded ++ more, last)

/-- The text of a tag at a place, which may not be empty. -/
def tagText (what : Text) (start : Mark) (p : Place) : Except Error (Text × Place) :=
  if isTagChar p.peek then tagParts what start (p.rest.length + 1) p
  else .error (.within ("while parsing a " ++ what) start (.expected "URI" p.shown) p.mark)

/-- The handle of a tag at a place: a name between exclamation marks, or one mark alone. -/
def tagHandle (what : Text) (start : Mark) (p : Place) : Except Error (Text × Place) :=
  let context : Text := "while scanning a " ++ what
  if p.peek != '!' then .error (.within context start (.expected "'!'" p.shown) p.mark)
  else if p.ahead 1 == ' ' then .ok (['!'], p.next)
  else
    let (name, last) := p.next.span isNameChar
    if last.peek != '!' then .error (.within context start (.expected "'!'" last.shown) last.mark)
    else .ok ('!' :: name ++ ['!'], last.next)

/-- Whether the tag that begins with a text has a handle with a name or two exclamation marks. -/
def hasHandle (t : Text) : Bool :=
  ((t.drop 1).takeWhile fun c => c != ' ' && !isBreak c).contains '!'

/-- The handle and the rest of the tag at a place. -/
def tagPieces (p : Place) : Except Error (Option Text × Text × Place) :=
  if p.ahead 1 == '<' then do
    let (suffix, last) ← tagText "tag" p.mark (p.advance 2)
    if last.peek != '>' then
      .error (.within "while parsing a tag" p.mark (.expected "'>'" last.shown) last.mark)
    else pure (none, suffix, last.next)
  else if atGap (p.rest.drop 1) then .ok (none, ['!'], p.next)
  else do
    let (handle, after) ←
      if hasHandle p.rest then tagHandle "tag" p.mark p else pure (['!'], p.next)
    let (suffix, last) ← tagText "tag" p.mark after
    pure (some handle, suffix, last)

/-- The tag at a place. -/
def tagToken (p : Place) : Scanned := do
  let (handle, suffix, last) ← tagPieces p
  if atWordEnd last then pure (Token.between (.tag handle suffix) p last)
  else .error (.within "while scanning a tag" p.mark (.expected "' '" last.shown) last.mark)

/-! ## 3. Directives -/

/-- What was being read in a directive. -/
def directiveContext : Text := "while scanning a directive"

/-- The error of something else than was wanted in a directive that began at `start`. -/
def unexpectedIn (start : Mark) (wanted : Text) (p : Place) : Error :=
  .within directiveContext start (.expected wanted p.shown) p.mark

/-- The digits at a place of a directive, as a number. -/
def directiveNumber (start : Mark) (p : Place) : Except Error (Nat × Place) :=
  let (digits, last) := p.span isDigit
  if digits.isEmpty then .error (unexpectedIn start "a digit" p)
  else if digitLimit < digits.length then .error (.word (.oversized digits.length))
  else .ok (Text.toNat digits, last)

/-- The version at a place: two numbers with a point between them. -/
def directiveVersion (start : Mark) (p : Place) : Except Error (Directive × Place) := do
  let (major, p) ← directiveNumber start (p.skip (· == ' '))
  if p.peek != '.' then .error (unexpectedIn start "a digit or '.'" p)
  else
    let (_, p) ← directiveNumber start p.next
    if atWordEnd p then pure (.version major, p)
    else .error (unexpectedIn start "a digit or ' '" p)

/-- The handle at a place and what it is short for. -/
def directiveHandle (start : Mark) (p : Place) : Except Error (Directive × Place) := do
  let (handle, p) ← tagHandle "directive" start (p.skip (· == ' '))
  if p.peek != ' ' then .error (unexpectedIn start "' '" p)
  else
    let (expansion, p) ← tagText "directive" start (p.skip (· == ' '))
    if atWordEnd p then pure (.handle handle expansion, p)
    else .error (unexpectedIn start "' '" p)

/-- The directive at a place, with its line. -/
def directiveToken (p : Place) : Scanned := do
  let (name, after) := p.next.span isNameChar
  if name.isEmpty || !atWordEnd after then
    .error (unexpectedIn p.mark "alphabetic or numeric character" after)
  else
    let (directive, last) ←
      if name = "YAML" then directiveVersion p.mark after
      else if name = "TAG" then directiveHandle p.mark after
      else pure (.other, after.skip (!isBreak ·))
    let behind := last.skipComment
    match behind.lineBreak? with
    | some (_, next) => pure (⟨.directive directive, p.mark, last.mark⟩, next)
    | none =>
      if behind.atEnd then pure (⟨.directive directive, p.mark, last.mark⟩, behind)
      else .error (unexpectedIn p.mark "a comment or a line break" behind)

end StoredFunctions.Yaml
