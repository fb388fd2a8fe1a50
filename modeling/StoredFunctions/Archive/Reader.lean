/-
# Reading archives

Every node's identifier is made again from its content and compared with the one it carries,
before anything else of the node is looked at.  Then its members are read in order; members that
are not asked for are ignored.

Where a list is wanted, a string stands for the list of its characters and an object for the list
of its member names.  Names, tables, comments and segments of paths are not looked at, so what is
read are entries.

`from_json` is `Archive.read`, `_verify_hash` is `verified`, and `_deserialize_statement` and
`_deserialize_kind` are `readStatement` and `readKind`.
-/
import StoredFunctions.Archive.Entry
import StoredFunctions.Archive.Node
import StoredFunctions.Json.Reader
import StoredFunctions.Kind.Build
import StoredFunctions.Value.Display

namespace StoredFunctions.Archive

/-! ## 1. Errors -/

/-- Why a text is no archive. -/
inductive ReadError where
  /-- The text is no Json value. -/
  | unreadable (e : Json.ReadError)
  | notAList
  | notAStatement
  | missingId
  | wrongId
  /-- A node with half a surrogate pair in it, for which no identifier can be made. -/
  | unencodable
  /-- A node of a type that is not expected there, as a message shows it. -/
  | unknownNode (shown : Text)
  /-- A kind of a type that does not exist, as a message shows it. -/
  | unknownKind (shown : Text)
  /-- A node without a member that it needs. -/
  | missingMember (name : Text)
  /-- Something that has no members, where a node is wanted. -/
  | notANode
  /-- Something that has no items, where a list is wanted. -/
  | notIterable
  /-- Something else, where a number is wanted. -/
  | notANumber
  /-- Parts that make no kind. -/
  | badKind (e : KindError)
  | emptyPath
  deriving DecidableEq, Repr

/-- The wording of the errors that have one. -/
def ReadError.message? : ReadError → Option Text
  | .unreadable .malformed => none
  | .unreadable (.oversized digits) => some (oversizedMessage digits)
  | .notAList => some "Serialized payload must be a list of statements"
  | .notAStatement => some "Serialized statement must be an object"
  | .missingId => some "Serialized node is missing 'id'"
  | .wrongId => some "Serialized node failed integrity check"
  | .unknownNode shown => some ("Unknown node type '" ++ shown ++ "'")
  | .unknownKind shown => some ("Unknown kind type '" ++ shown ++ "'")
  | .missingMember name => some name.quoted
  | .unencodable | .notANode | .notIterable | .notANumber => none
  | .badKind e => some e.message
  | .emptyPath => some "function path must have at least one segment"

/-- What a reader of nodes returns. -/
abbrev Read (α : Type) := Except ReadError α

/-! ## 2. Members and items -/

/-- The value of a member that a node needs. -/
def member (name : Text) (members : List (Text × Json)) : Read Json :=
  match Json.find? name members with
  | some v => .ok v
  | none => .error (.missingMember name)

/-- The value of a member that may be missing. -/
def memberOr (name : Text) (fallback : Json) (members : List (Text × Json)) : Json :=
  (Json.find? name members).getD fallback

/-- The items of a value. -/
def items : Json → Read (List Json)
  | .array vs => .ok vs
  | .string t => .ok (t.map fun c => .string [c])
  | .object members => .ok (members.map fun m => .string m.1)
  | .torn v => items v
  | .null | .bool _ | .int _ | .float _ => .error .notIterable

/-- The members of a node whose identifier is the one made from its content.  A node that carries an
identifier but that none can be made for is refused for that. -/
def verified (v : Json) : Read (List (Text × Json)) :=
  match v.members? with
  | none => .error .notANode
  | some members =>
    match memberOr idName .null members with
    | .null => .error .missingId
    | id =>
      if (v.without idName).isTorn then .error .unencodable
      else if id.isString (identifier (preimage v)) then .ok members
      else .error .wrongId

/-! ## 3. Kinds -/

/-- A limit, which must not be negative, or none. -/
def limit : Json → Read (Option Limit)
  | .null => .ok none
  | .int (.ofNat n) => .ok (some (.number n))
  | .int (.negSucc _) => .error (.badKind .negativeLimit)
  | .bool b => .ok (some (.truth b))
  | .float x =>
    if x.atMostZero && !x.isZero then .error (.badKind .negativeLimit)
    else .ok (some (.float x))
  | .string _ | .array _ | .object _ | .torn _ => .error .notANumber

/-- The entry of what parts of a kind make. -/
def built : Except KindError Kind → Read KindEntry
  | .ok k => .ok k.entry
  | .error e => .error (.badKind e)

/-- The union of kinds. -/
def union : List KindEntry → Read KindEntry
  | first :: second :: more => .ok (.either first second more)
  | _ => .error (.badKind .tooFewMembers)

/-- The keyword kind that a value names. -/
def keyword : Json → Except KindError Kind
  | .string word => Kind.ofKeyword word
  | v => .error (.unknownPrimitive (Value.ofJson v).literal)

/-- The shape that a value names, if there is one, and how a message shows the value. -/
def shape : Json → Option Shape × Text
  | .string word => (Shape.ofText? word, word.quoted)
  | v => (none, (Value.ofJson v).literal)

/-- A kind at most `depth` nodes deep. -/
def readKind : Nat → Json → Read KindEntry
  | 0, _ => .error .notANode
  | depth + 1, v => do
    let members ← verified v
    let type := memberOr "type" .null members
    if type.isString "Primitive" then
      built (keyword (← member "value" members))
    else if type.isString "Geometry" then
      built (Kind.ofShapes ((← items (← member "subtypes" members)).map shape))
    else if type.isString "Record" then
      pure (.record (← items (← member "tables" members)))
    else if type.isString "Option" then
      pure (.option (← readKind depth (← member "inner" members)))
    else if type.isString "Array" then
      let inner ← readKind depth (← member "inner" members)
      pure (.array inner (← limit (memberOr "limit" .null members)))
    else if type.isString "Set" then
      let inner ← readKind depth (← member "inner" members)
      pure (.set inner (← limit (memberOr "limit" .null members)))
    else if type.isString "Either" then
      union (← (← items (← member "kinds" members)).mapM (readKind depth))
    else .error (.unknownKind (Value.ofJson type).display)

/-! ## 4. Statements -/

/-- The parameter of a node. -/
def readParameter (v : Json) : Read ParameterEntry := do
  let members ← verified v
  let name ← member "name" members
  let kind ← member "kind" members
  pure ⟨name, ← readKind kind.depth kind⟩

/-- What is read of a statement once its identifier is verified. -/
def readFunction (members : List (Text × Json)) : Read StatementEntry := do
  let type := memberOr "type" .null members
  if !type.isString "FunctionStatement" then .error (.unknownNode (Value.ofJson type).display)
  else
    let parameters ← (← items (memberOr "parameters" (.array []) members)).mapM readParameter
    let path ← items (← member "path" members)
    let comments ← items (memberOr "comments" (.array []) members)
    match StatementEntry.ofPath? path parameters comments with
    | some s => pure s
    | none => .error .emptyPath

/-- The statement of a node. -/
def readStatement (v : Json) : Read StatementEntry :=
  match v.members? with
  | none => .error .notAStatement
  | some _ => do readFunction (← verified v)

/-- The statements of an archive's value. -/
def readValue : Json → Read (List StatementEntry)
  | .array nodes => nodes.mapM readStatement
  | _ => .error .notAList

/-- The statements of an archive. -/
def read (t : Text) : Read (List StatementEntry) :=
  match Json.parse t with
  | .error e => .error (.unreadable e)
  | .ok v => readValue v

end StoredFunctions.Archive
