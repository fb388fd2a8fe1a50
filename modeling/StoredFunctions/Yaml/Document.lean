/-
# Documents

A text holds one document, possibly behind directives and between separators.  A document without
a node has no value of its own; it counts as nothing.
-/
import StoredFunctions.Yaml.Node.Reader
import StoredFunctions.Yaml.Node.Value

namespace StoredFunctions.Yaml

open Reader

/-! ## 1. Directives -/

/-- What the handles of tags are short for without directives. -/
def standardHandles : List (Text × Text) := [("!", "!"), ("!!", Tag.common)]

/-- The directives in front of a document: the handles that they explain.  Every directive takes a
unit of fuel. -/
def readDirectives : Nat → Bool → List (Text × Text) → Reader (List (Text × Text))
  | 0, _, handles => pure handles
  | fuel + 1, hasVersion, handles => do
    let t ← peek
    match t.kind with
    | .directive d =>
      let _ ← take
      match d with
      | .version major =>
        if hasVersion then fail (.at .repeatedVersion t.start)
        else if major != 1 then fail (.at .wrongVersion t.start)
        else readDirectives fuel true handles
      | .handle handle expansion =>
        if (handles.lookup handle).isSome then fail (.at (.repeatedHandle handle) t.start)
        else readDirectives fuel hasVersion (handles ++ [(handle, expansion)])
      | .other => readDirectives fuel hasVersion handles
    | _ => pure handles

/-- How many tokens are left. -/
def tokensLeft : Reader Nat := fun s => .ok (s.tokens.length, s)

/-- The handles in front of a document that starts with a separator, and where it begins. -/
def readStart : Reader Mark := do
  let first ← peek
  let handles ← readDirectives (← tokensLeft) false []
  if ← next TokenKind.isDocumentStart then
    let _ ← take
    fun s => .ok (first.start, { s with handles := handles ++ standardHandles })
  else
    let t ← peek
    fail (.at (.expected "'<document start>'" t.kind.text) t.start)

/-! ## 2. Documents -/

/-- The node of a document. -/
def readRoot : Reader Node := do readNode (4 * (← tokensLeft) + 4) true false

/-- Whether a document ends in front of the token without a node. -/
def TokenKind.endsDocument (k : TokenKind) : Bool :=
  k.isDirective || k.isDocumentStart || k.isDocumentEnd || k.isStreamEnd

/-- Takes the signs for the end of a document.  Every sign takes a unit of fuel. -/
def skipEnds : Nat → Reader Unit
  | 0 => pure ()
  | fuel + 1 => do
    if ← next TokenKind.isDocumentEnd then
      let _ ← take
      skipEnds fuel
    else pure ()

/-- The node of a text's one document, if it has one. -/
def readDocument : Reader (Option Node) := do
  if ← next TokenKind.isStreamEnd then pure none
  else
    let isBare ← next fun k => !k.isDirective && !k.isDocumentStart
    let n ←
      if isBare then readRoot
      else do
        let _ ← readStart
        if ← next TokenKind.endsDocument then pure (Node.empty (← peek).start) else readRoot
    skipEnds (← tokensLeft)
    if ← next TokenKind.isStreamEnd then pure (some n)
    else
      let other ← readStart
      fail (.within "expected a single document in the stream" n.start .anotherDocument other)

/-! ## 3. Texts -/

/-- Whether a character may stand in a document. -/
def isAllowed (c : Char) : Bool :=
  c == '\t' || c == '\n' || c == '\r' || (0x20 ≤ c.toNat && c.toNat ≤ 0x7E) || c.toNat == 0x85 ||
    (0xA0 ≤ c.toNat && c.toNat ≤ 0xFFFD) || 0x10000 ≤ c.toNat

/-- The node of a text, if it has one. -/
def node? (t : Text) : Except Error (Option Node) :=
  match t.dropWhile isAllowed with
  | c :: _ => .error (.forbidden c (t.takeWhile isAllowed).length)
  | [] =>
    let (tokens, stop) := tokensOf t
    match readDocument ⟨tokens, stop, standardHandles, []⟩ with
    | .ok (n, _) => .ok n
    | .error e => .error e

/-- The value of a text. -/
def parse (t : Text) : Except Error Value := do
  match ← node? t with
  | none => pure .null
  | some n => n.value

/-- **A reader of documents**, of which nothing is known but that it has a value for a text or a
failure. -/
abbrev DocumentReader := Text → Except Failure Value

/-- The reader of this library. -/
def reader : DocumentReader := fun t => (parse t).mapError (Error.failure t)

end StoredFunctions.Yaml
