/-
# Reading nodes

The node of a document's tokens.  Containers in the block layout end with a token of their own,
except for items that stand in the column of the entry they belong to; containers in the flow
layout have commas between their parts, and a part of a list may be an entry.  Where a value is
missing it is nothing.

A node is read by fuel, of which every call takes a unit; four units for each token are enough,
because every list, table and part of one takes a token.
-/
import StoredFunctions.Yaml.Node.Schema
import StoredFunctions.Yaml.Token.Stream

namespace StoredFunctions.Yaml

/-! ## 1. The state of a reader -/

/-- What is left to read, and what was read that matters further on. -/
structure Reading where
  tokens : List Token
  /-- The error behind the last token, if there is one. -/
  stop : Option Error
  /-- What the handles of tags are short for. -/
  handles : List (Text × Text)
  /-- The nodes with anchors, the last one first. -/
  anchors : List (Text × Node)

/-- A reader of nodes and their parts. -/
abbrev Reader (α : Type) := Reading → Except Error (α × Reading)

namespace Reader

/-- Readers follow one another; the first error ends them. -/
instance : Monad Reader where
  pure a := fun s => .ok (a, s)
  bind r f := fun s =>
    match r s with
    | .ok (a, s) => f a s
    | .error e => .error e

/-- A reader that fails. -/
def fail {α : Type} (e : Error) : Reader α := fun _ => .error e

/-- The token behind the last one, where nothing is wrong. -/
def lastToken : Token := ⟨.streamEnd, Mark.start, Mark.start⟩

/-- The next token, which is not taken. -/
def peek : Reader Token := fun s =>
  match s.tokens, s.stop with
  | t :: _, _ => .ok (t, s)
  | [], some e => .error e
  | [], none => .ok (lastToken, s)

/-- Takes the next token. -/
def take : Reader Token := do
  let t ← peek
  fun s => .ok (t, { s with tokens := s.tokens.drop 1 })

/-- Whether the next token passes a test. -/
def next (test : TokenKind → Bool) : Reader Bool := do pure (test (← peek).kind)

/-- Fails at the next token, where something else is wanted in what began at a mark. -/
def unexpected {α : Type} (what : Text) (began : Mark) (finding : Text → Finding) : Reader α := do
  let t ← peek
  fail (.within what began (finding t.kind.text) t.start)

/-- The node with an anchor. -/
def anchored? (name : Text) : Reader (Option Node) := fun s => .ok (s.anchors.lookup name, s)

/-- Gives a node an anchor, if there is one. -/
def setAnchor (anchor : Option Text) (n : Node) : Reader Node := fun s =>
  .ok (n, { s with anchors := (anchor.map fun name => (name, n)).toList ++ s.anchors })

end Reader

open Reader

/-! ## 2. Kinds of tokens -/

namespace TokenKind

/-- Whether the token announces a key. -/
def isKey : TokenKind → Bool
  | key => true
  | _ => false

/-- Whether the token announces a value. -/
def isValue : TokenKind → Bool
  | value => true
  | _ => false

/-- Whether the token is the dash of an item. -/
def isItem : TokenKind → Bool
  | item => true
  | _ => false

/-- Whether the token is a comma. -/
def isComma : TokenKind → Bool
  | comma => true
  | _ => false

/-- Whether the token ends a block. -/
def isBlockEnd : TokenKind → Bool
  | blockEnd => true
  | _ => false

/-- Whether the token ends a list or a table in the flow layout. -/
def isFlowEnd (ofTable : Bool) : TokenKind → Bool
  | flowListEnd => !ofTable
  | flowTableEnd => ofTable
  | _ => false

/-- Whether the token is a directive. -/
def isDirective : TokenKind → Bool
  | directive _ => true
  | _ => false

/-- Whether the token starts a document. -/
def isDocumentStart : TokenKind → Bool
  | documentStart => true
  | _ => false

/-- Whether the token ends a document. -/
def isDocumentEnd : TokenKind → Bool
  | documentEnd => true
  | _ => false

/-- Whether the token is the last one. -/
def isStreamEnd : TokenKind → Bool
  | streamEnd => true
  | _ => false

/-- Whether nothing stands for a key or a value in the block layout in front of the token. -/
def endsBlockEntry (k : TokenKind) : Bool := k.isKey || k.isValue || k.isBlockEnd

/-- Whether nothing stands for a value in the flow layout in front of the token. -/
def endsFlowValue (ofTable : Bool) (k : TokenKind) : Bool := k.isComma || k.isFlowEnd ofTable

/-- Whether nothing stands for a key in the flow layout in front of the token. -/
def endsFlowKey (ofTable : Bool) (k : TokenKind) : Bool := k.isValue || k.endsFlowValue ofTable

end TokenKind

/-! ## 3. Properties -/

/-- The anchor and the tag in front of a node, and where they begin. -/
structure Properties where
  anchor : Option Text
  tag : Option Text
  start : Option Mark

/-- The tag of a handle and the text behind it. -/
def fullTag (start : Mark) (t : Token) (handle : Option Text) (suffix : Text) : Reader Text :=
  match handle with
  | none => pure suffix
  | some handle => fun s =>
    match s.handles.lookup handle with
    | some expansion => .ok (expansion ++ suffix, s)
    | none => .error (.within "while parsing a node" start (.unknownHandle handle) t.start)

/-- The anchor and the tag at a place, in either order. -/
def properties : Reader Properties := do
  let first ← peek
  match first.kind with
  | .anchor name =>
    let _ ← take
    let second ← peek
    match second.kind with
    | .tag handle suffix =>
      let _ ← take
      let tag ← fullTag first.start second handle suffix
      pure ⟨some name, some tag, some first.start⟩
    | _ => pure ⟨some name, none, some first.start⟩
  | .tag handle suffix =>
    let _ ← take
    let second ← peek
    match second.kind with
    | .anchor name =>
      let _ ← take
      let tag ← fullTag first.start first handle suffix
      pure ⟨some name, some tag, some first.start⟩
    | _ =>
      let tag ← fullTag first.start first handle suffix
      pure ⟨none, some tag, some first.start⟩
  | _ => pure ⟨none, none, none⟩

/-- The tag of a node that is asked to be one: by its name, or by what it is where only the mark
of a tag stands. -/
def Properties.tagOr (p : Properties) (byForm : Tag) : Tag :=
  match p.tag with
  | none => byForm
  | some name => if name = "!" then byForm else Tag.ofName name

/-- The tag of a word: a quoted word without a tag is a text, and the mark of a tag alone has it
taken as a plain one. -/
def Properties.tagOfWord (p : Properties) (t : Text) (style : Style) : Tag :=
  match p.tag, style with
  | none, .marked => .text
  | _, _ => p.tagOr (Tag.ofPlain t)

/-- Refuses an anchor that was set before, on a node that begins at a mark. -/
def checkAnchor (anchor : Option Text) (start : Mark) : Reader Unit := fun s =>
  match anchor with
  | none => .ok ((), s)
  | some name =>
    match s.anchors.lookup name with
    | none => .ok ((), s)
    | some first =>
      .error (.within ("found duplicate anchor " ++ name.quoted ++ "; first occurrence")
        first.start .repeatedAnchor start)

/-! ## 4. Ends of containers -/

/-- Fails at a token that neither goes on with a block that began at a mark nor ends it. -/
def unexpectedInBlock {α : Type} (what : Text) (began : Mark) : Reader α :=
  unexpected what began (.expected "<block end>")

/-- Whether a list or a table in the flow layout that began at a mark ends here.  Takes the sign
that ends it, or the comma in front of another part. -/
def flowEnds (ofTable : Bool) (began : Mark) (isFirst : Bool) : Reader Bool := do
  if ← next (TokenKind.isFlowEnd ofTable) then
    let _ ← take
    pure true
  else if isFirst then pure false
  else if ← next TokenKind.isComma then
    let _ ← take
    if ← next (TokenKind.isFlowEnd ofTable) then
      let _ ← take
      pure true
    else pure false
  else if ofTable then
    unexpected "while parsing a flow mapping" began (.expectedMark "',' or '\x7d'")
  else unexpected "while parsing a flow sequence" began (.expectedMark "',' or ']'")

/-! ## 5. Nodes -/

mutual

/-- A node.  Blocks may begin there where `block` holds, and items in the column of the entry
around them where `items` holds. -/
def readNode : Nat → Bool → Bool → Reader Node
  | 0, _, _ => do pure (.empty (← peek).start)
  | fuel + 1, block, items => do
    let first ← peek
    match first.kind with
    | .reference name =>
      let _ ← take
      match ← anchored? name with
      | some n => pure n
      | none => fail (.at (.unknownAnchor name) first.start)
    | _ =>
      let p ← properties
      let t ← peek
      let start := p.start.getD t.start
      let list (inside : Reader (List Node)) : Reader Node := do
        checkAnchor p.anchor start
        let _ ← setAnchor p.anchor (.enclosing false start)
        setAnchor p.anchor (.list (p.tagOr .list) (← inside) start)
      let table (inside : Reader (List (Node × Node))) : Reader Node := do
        checkAnchor p.anchor start
        let _ ← setAnchor p.anchor (.enclosing true start)
        setAnchor p.anchor (.table (p.tagOr .table) (← inside) start)
      match t.kind, block, items with
      | .item, _, true => list (readLooseItems fuel)
      | .word w style, _, _ =>
        let _ ← take
        checkAnchor p.anchor start
        setAnchor p.anchor (.word (p.tagOfWord w style) w start)
      | .flowListStart, _, _ => list (do readFlowItems fuel (← take).start true)
      | .flowTableStart, _, _ => table (do readFlowEntries fuel (← take).start true)
      | .blockListStart, true, _ => list (do readItems fuel (← take).start)
      | .blockTableStart, true, _ => table (do readEntries fuel (← take).start)
      | _, _, _ =>
        if p.start.isSome then
          checkAnchor p.anchor start
          setAnchor p.anchor (.word (p.tagOr .null) [] start)
        else
          let what : Text :=
            if block then "while parsing a block node" else "while parsing a flow node"
          unexpected what start (.expected "the node content")

/-- A node, or nothing at `mark` if the next token passes a test. -/
def readNodeUnless : Nat → Bool → Bool → (TokenKind → Bool) → Mark → Reader Node
  | 0, _, _, _, mark => pure (.empty mark)
  | fuel + 1, block, items, test, mark => do
    if ← next test then pure (.empty mark) else readNode fuel block items

/-- The items of a list in the block layout that begins at a mark. -/
def readItems : Nat → Mark → Reader (List Node)
  | 0, _ => pure []
  | fuel + 1, began => do
    if ← next TokenKind.isItem then
      let dash ← take
      let n ← readNodeUnless fuel true false (fun k => k.isItem || k.isBlockEnd) dash.stop
      pure (n :: (← readItems fuel began))
    else if ← next TokenKind.isBlockEnd then do
      let _ ← take
      pure []
    else unexpectedInBlock "while parsing a block collection" began

/-- The items of a list in the column of the entry around it. -/
def readLooseItems : Nat → Reader (List Node)
  | 0 => pure []
  | fuel + 1 => do
    if ← next TokenKind.isItem then
      let dash ← take
      let n ← readNodeUnless fuel true false (fun k => k.isItem || k.endsBlockEntry) dash.stop
      pure (n :: (← readLooseItems fuel))
    else pure []

/-- The entries of a table in the block layout that begins at a mark. -/
def readEntries : Nat → Mark → Reader (List (Node × Node))
  | 0, _ => pure []
  | fuel + 1, began => do
    if ← next TokenKind.isKey then
      let announcement ← take
      let k ← readNodeUnless fuel true true TokenKind.endsBlockEntry announcement.stop
      let v ← readValue fuel true TokenKind.endsBlockEntry
      pure ((k, v) :: (← readEntries fuel began))
    else if ← next TokenKind.isBlockEnd then do
      let _ ← take
      pure []
    else unexpectedInBlock "while parsing a block mapping" began

/-- The value of an entry whose key was read; nothing if it has none. -/
def readValue : Nat → Bool → (TokenKind → Bool) → Reader Node
  | 0, _, _ => do pure (.empty (← peek).start)
  | fuel + 1, block, test => do
    if ← next TokenKind.isValue then
      let colon ← take
      readNodeUnless fuel block block test colon.stop
    else pure (.empty (← peek).start)

/-- The items of a list in the flow layout that begins at a mark. -/
def readFlowItems : Nat → Mark → Bool → Reader (List Node)
  | 0, _, _ => pure []
  | fuel + 1, began, isFirst => do
    if ← flowEnds false began isFirst then pure []
    else if ← next TokenKind.isKey then
      let announcement ← take
      let k ← readNodeUnless fuel false false (TokenKind.endsFlowKey false) announcement.stop
      let v ← readValue fuel false (TokenKind.endsFlowValue false)
      let n := Node.table .table [(k, v)] announcement.start
      pure (n :: (← readFlowItems fuel began false))
    else
      let n ← readNode fuel false false
      pure (n :: (← readFlowItems fuel began false))

/-- The entries of a table in the flow layout that begins at a mark. -/
def readFlowEntries : Nat → Mark → Bool → Reader (List (Node × Node))
  | 0, _, _ => pure []
  | fuel + 1, began, isFirst => do
    if ← flowEnds true began isFirst then pure []
    else if ← next TokenKind.isKey then
      let announcement ← take
      let k ← readNodeUnless fuel false false (TokenKind.endsFlowKey true) announcement.stop
      let v ← readValue fuel false (TokenKind.endsFlowValue true)
      pure ((k, v) :: (← readFlowEntries fuel began false))
    else
      let k ← readNode fuel false false
      let v := Node.empty (← peek).start
      pure ((k, v) :: (← readFlowEntries fuel began false))

end

end StoredFunctions.Yaml
