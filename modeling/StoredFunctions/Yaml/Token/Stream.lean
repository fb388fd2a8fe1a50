/-
# The tokens of a document

The tokens of a document are found from left to right.  In the block layout the columns at which
lists and tables begin are kept on a stack, and a token in a smaller column ends what began further
to the right.

That something is a key shows only at the colon behind it, which must follow on the same line and
within 1024 characters.  Until then it is a **candidate**, one for each container around the place,
and no token from the first candidate on is handed out, because the announcement of a key goes in
front of it.  An error therefore comes behind all tokens that were settled before it, and before
those that were not.
-/
import StoredFunctions.Yaml.Token.Literal
import StoredFunctions.Yaml.Token.Plain
import StoredFunctions.Yaml.Token.Property
import StoredFunctions.Yaml.Token.Quoted

namespace StoredFunctions.Yaml

/-! ## 1. The state of the search -/

/-- A token that is a key if a colon follows. -/
structure Candidate where
  /-- How many tokens come before it. -/
  number : Nat
  /-- Whether nothing else than a key may stand there. -/
  required : Bool
  mark : Mark

/-- How far the search for tokens has got. -/
structure Search where
  /-- How many characters the document has. -/
  size : Nat
  place : Place
  /-- The tokens that were found and are not handed out yet. -/
  queue : List Token
  /-- How many tokens were handed out. -/
  taken : Nat
  /-- The columns of the lists and tables in the block layout around the place, inside first. -/
  columns : List Nat
  /-- Whether a key may begin at the place. -/
  keyAllowed : Bool
  /-- The candidate in the innermost container. -/
  candidate : Option Candidate
  /-- The candidates in front of the brackets and braces around the place, inside first. -/
  outer : List (Option Candidate)
  /-- Whether the end of the document was found. -/
  ended : Bool

namespace Search

/-- The start of a document. -/
def start (t : Text) : Search := ⟨t.length, Place.ofText t, [], 0, [], true, none, [], false⟩

/-- Whether the place is inside brackets or braces. -/
def inFlow (s : Search) : Bool := !s.outer.isEmpty

/-- The first column in which the inside of the innermost block may stand. -/
def innerColumn (s : Search) : Nat :=
  match s.columns with
  | [] => 0
  | column :: _ => column + 1

/-- The search with tokens added that begin and end at the place. -/
def push (s : Search) (kinds : List TokenKind) : Search :=
  { s with queue := s.queue ++ kinds.map fun kind => ⟨kind, s.place.mark, s.place.mark⟩ }

/-- The search with a token added, behind that token. -/
def accept (s : Search) (t : Token) (behind : Place) : Search :=
  { s with queue := s.queue ++ [t], place := behind }

/-- The search behind a sign of so many characters, which is a token. -/
def acceptSign (s : Search) (kind : TokenKind) (length : Nat) : Search :=
  let (token, behind) := Token.between kind s.place (s.place.advance length)
  s.accept token behind

/-! ## 2. Candidates -/

/-- How far behind a key its colon may stand. -/
def keyLength : Nat := 1024

/-- The error of a key without its colon. -/
def lostKey (s : Search) (c : Candidate) : Error :=
  .within "while scanning a simple key" c.mark .missingColon s.place.mark

/-- The candidate, unless it is too far from the place. -/
def fresh (s : Search) : Option Candidate → Except Error (Option Candidate)
  | none => .ok none
  | some c =>
    if c.mark.line == s.place.mark.line && s.place.mark.offset ≤ c.mark.offset + keyLength then
      .ok (some c)
    else if c.required then .error (s.lostKey c)
    else .ok none

/-- The search without the candidates that are too far from the place. -/
def dropStale (s : Search) : Except Error Search := do
  let outer ← s.outer.mapM s.fresh
  let candidate ← s.fresh s.candidate
  pure { s with outer, candidate }

/-- The search without the candidate in the innermost container. -/
def dropCandidate (s : Search) : Except Error Search :=
  match s.candidate with
  | none => .ok s
  | some c => if c.required then .error (s.lostKey c) else .ok { s with candidate := none }

/-- The search with a candidate at the place, if a key may begin there. -/
def markCandidate (s : Search) : Except Error Search :=
  if !s.keyAllowed then .ok s
  else do
    let required := !s.inFlow && s.columns.head? == some s.place.column
    let s ← s.dropCandidate
    pure { s with candidate := some ⟨s.taken + s.queue.length, required, s.place.mark⟩ }

/-- Whether the first token of the queue may be handed out: there is no candidate in front of it. -/
def isSettled (s : Search) : Bool :=
  (s.candidate :: s.outer).all fun c => c.all fun c => s.taken < c.number

/-! ## 3. Blocks -/

/-- The search with the blocks ended that begin to the right of a column; all of them where the
column is none.  Inside brackets and braces no block ends. -/
def endBlocks (s : Search) (column : Option Nat) : Search :=
  if s.inFlow then s
  else
    let ends (c : Nat) : Bool := column.all (· < c)
    let ended := s.columns.takeWhile ends
    { s.push (ended.map fun _ => .blockEnd) with columns := s.columns.dropWhile ends }

/-- Whether a block begins at a column. -/
def beginsBlock (s : Search) (column : Nat) : Bool :=
  match s.columns with
  | [] => true
  | inner :: _ => inner < column

/-- The search with a block of this kind begun at the place, if one begins there. -/
def beginBlock (s : Search) (kind : TokenKind) : Search :=
  if s.beginsBlock s.place.column then
    { s.push [kind] with columns := s.place.column :: s.columns }
  else s

/-- The search in which a part of a block begins at the place; outside brackets and braces this
needs a place where keys may begin. -/
def beginPart (s : Search) (kind : TokenKind) (what : Text) : Except Error Search :=
  if s.inFlow then .ok s
  else if !s.keyAllowed then .error (.at (.notAllowed what) s.place.mark)
  else .ok (s.beginBlock kind)

/-! ## 4. Tokens -/

/-- The search at the place of the next token: behind spaces, line ends and comments.  Every line
takes a unit of fuel. -/
def toToken : Nat → Search → Search
  | 0, s => s
  | fuel + 1, s =>
    let p := s.place.skipComment
    match p.lineBreak? with
    | none => { s with place := p }
    | some (_, after) =>
      toToken fuel { s with place := after, keyAllowed := s.keyAllowed || !s.inFlow }

/-- The search at the place of the next token, also behind a byte order mark at the start. -/
def skipSpace (s : Search) : Search :=
  let atMark := s.place.mark.offset == 0 && s.place.peek == '\ufeff'
  let s := if atMark then { s with place := s.place.next } else s
  toToken (s.size + 1) s

/-- The end of the document. -/
def atEnd (s : Search) : Except Error Search := do
  let s ← (s.endBlocks none).dropCandidate
  pure { s.push [.streamEnd] with
    keyAllowed := false, candidate := none, outer := [], ended := true }

/-- A directive. -/
def directive (s : Search) : Except Error Search := do
  let s ← (s.endBlocks none).dropCandidate
  let (token, behind) ← directiveToken s.place
  pure ({ s with keyAllowed := false }.accept token behind)

/-- The start or the end of a document. -/
def separator (s : Search) (kind : TokenKind) : Except Error Search := do
  let s ← (s.endBlocks none).dropCandidate
  pure ({ s with keyAllowed := false }.acceptSign kind 3)

/-- An opening bracket or brace, which may begin a key. -/
def flowStart (s : Search) (kind : TokenKind) : Except Error Search := do
  let s ← s.markCandidate
  pure ({ s with candidate := none, outer := s.candidate :: s.outer, keyAllowed := true }.acceptSign
    kind 1)

/-- A closing bracket or brace. -/
def flowEnd (s : Search) (kind : TokenKind) : Except Error Search := do
  let s ← s.dropCandidate
  let s := { s with candidate := s.outer.head?.join, outer := s.outer.drop 1, keyAllowed := false }
  pure (s.acceptSign kind 1)

/-- A comma between the parts of a list or a table. -/
def comma (s : Search) : Except Error Search := do
  let s ← s.dropCandidate
  pure ({ s with keyAllowed := true }.acceptSign .comma 1)

/-- The dash in front of an item. -/
def item (s : Search) : Except Error Search := do
  let s ← s.beginPart .blockListStart "sequence entries"
  let s ← s.dropCandidate
  pure ({ s with keyAllowed := true }.acceptSign .item 1)

/-- The question mark in front of a key. -/
def key (s : Search) : Except Error Search := do
  let s ← s.beginPart .blockTableStart "mapping keys"
  let s ← s.dropCandidate
  pure ({ s with keyAllowed := !s.inFlow }.acceptSign .key 1)

/-- The search with the announcement of a key in front of the candidate, and with the start of a
table in front of that if one begins there. -/
def announce (s : Search) (c : Candidate) : Search :=
  let position := c.number - s.taken
  let begins := !s.inFlow && s.beginsBlock c.mark.column
  let kinds : List TokenKind := if begins then [.blockTableStart, .key] else [.key]
  let tokens := kinds.map fun kind => (⟨kind, c.mark, c.mark⟩ : Token)
  { s with
    queue := s.queue.take position ++ tokens ++ s.queue.drop position
    columns := if begins then c.mark.column :: s.columns else s.columns
    candidate := none
    keyAllowed := false }

/-- The colon behind a key. -/
def value (s : Search) : Except Error Search :=
  match s.candidate with
  | some c => .ok ((s.announce c).acceptSign .value 1)
  | none => do
    let s ← s.beginPart .blockTableStart "mapping values"
    pure ({ s with keyAllowed := !s.inFlow }.acceptSign .value 1)

/-- A word, an anchor or a tag that may be a key or begin one. -/
def keyToken (s : Search) (scan : Place → Scanned) : Except Error Search := do
  let s ← s.markCandidate
  let (token, behind) ← scan s.place
  pure ({ s with keyAllowed := false }.accept token behind)

/-- A word in lines of its own. -/
def literal (s : Search) (fold : Bool) : Except Error Search := do
  let s ← s.dropCandidate
  let (token, behind) ← literalWord fold (max 1 s.innerColumn) (s.size + 1) s.place
  pure ({ s with keyAllowed := true }.accept token behind)

/-- A plain word. -/
def plain (s : Search) : Except Error Search := do
  let s ← s.markCandidate
  let word := plainFrom s.inFlow s.innerColumn s.size s.place
  let token : Token := ⟨.word word.text .plain, s.place.mark, word.stop⟩
  pure ({ s with keyAllowed := word.broken }.accept token word.behind)

/-- The search behind the token that begins with `c` at the place. -/
def token (s : Search) (c : Char) : Except Error Search :=
  let p := s.place
  let gapBehind := atGap (p.rest.drop 1)
  if p.column == 0 && c == '%' then s.directive
  else if p.column == 0 && p.hasSeparator "---" then s.separator .documentStart
  else if p.column == 0 && p.hasSeparator "..." then s.separator .documentEnd
  else if c == '[' then s.flowStart .flowListStart
  else if c == '\x7b' then s.flowStart .flowTableStart
  else if c == ']' then s.flowEnd .flowListEnd
  else if c == '\x7d' then s.flowEnd .flowTableEnd
  else if c == ',' then s.comma
  else if c == '-' && gapBehind then s.item
  else if c == '?' && (s.inFlow || gapBehind) then s.key
  else if c == ':' && (s.inFlow || gapBehind) then s.value
  else if c == '*' then s.keyToken (namedToken true)
  else if c == '&' then s.keyToken (namedToken false)
  else if c == '!' then s.keyToken tagToken
  else if c == '|' && !s.inFlow then s.literal false
  else if c == '>' && !s.inFlow then s.literal true
  else if c == '\'' then s.keyToken (quotedWord false (s.size + 1))
  else if c == '"' then s.keyToken (quotedWord true (s.size + 1))
  else if beginsPlain s.inFlow p.rest then s.plain
  else
    .error (.problem ⟨some ⟨"while scanning for the next token", none⟩, .noToken p.shown, p.mark⟩)

/-- The search behind the next token. -/
def step (s : Search) : Except Error Search := do
  let s ← s.skipSpace.dropStale
  let s := s.endBlocks (some s.place.column)
  match s.place.rest with
  | [] => s.atEnd
  | c :: _ => s.token c

/-! ## 5. All tokens -/

/-- Tokens, and the error that comes behind them, if there is one. -/
abbrev Tokens := List Token × Option Error

/-- The tokens from some state of the search on.  Every token, and every step to the next one,
takes a unit of fuel. -/
def tokens : Nat → Search → Tokens
  | 0, _ => ([], none)
  | fuel + 1, s =>
    match s.queue with
    | [] =>
      if s.ended then ([], none)
      else match s.step with
        | .error e => ([], some e)
        | .ok s => tokens fuel s
    | t :: others =>
      match (if s.ended then .ok s else s.dropStale) with
      | .error e => ([], some e)
      | .ok s =>
        if s.ended || s.isSettled then
          let (more, stop) := tokens fuel { s with queue := others, taken := s.taken + 1 }
          (t :: more, stop)
        else match s.step with
          | .error e => ([], some e)
          | .ok s => tokens fuel s

end Search

/-- The tokens of a document, and the error behind them, if there is one.  To a character belong at
most one step of the search and four tokens: one of its own, the announcement of a key, and the
start and the end of a block. -/
def tokensOf (t : Text) : Search.Tokens := (Search.start t).tokens (8 * t.length + 16)

end StoredFunctions.Yaml
