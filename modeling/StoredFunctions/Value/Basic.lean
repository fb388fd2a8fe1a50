/-
# Values

What settings hold: nothing, truth values, numbers, texts, bytes, dates, moments, lists, pairs,
tables and sets.  A table has any value that is no container for a key, keeps its entries in the
order in which their keys first appeared, and has one entry for a key; a set has keys alone.  Keys
that are equal as numbers are one key, whatever their kinds: `1`, `1.0` and true, or both zeros and
false.
-/
import StoredFunctions.Calendar.Basic
import StoredFunctions.Json.Basic
import StoredFunctions.Numbers.Arithmetic

namespace StoredFunctions

/-- A value of settings. -/
inductive Value where
  | null
  | bool (b : Bool)
  | int (n : Int)
  | float (x : Binary64)
  | text (t : Text)
  | bytes (b : List UInt8)
  | date (d : Date)
  | moment (m : Moment)
  | list (items : List Value)
  | table (entries : List (Value × Value))
  /-- An entry that stands by itself. -/
  | pair (key value : Value)
  | set (keys : List Value)
  /-- A list or a table that holds the place where this stands. -/
  | enclosing (isTable : Bool)
  deriving Repr, Inhabited

namespace Value

/-! ## 1. Keys -/

/-- The integer that a value counts as. -/
def asInt? : Value → Option Int
  | bool b => some (if b then 1 else 0)
  | int n => some n
  | _ => none

/-- Whether a number and a value are equal. -/
def isNumber (x : Binary64) (v : Value) : Bool :=
  match v with
  | float y => x.samePoint y
  | v =>
    match v.asInt? with
    | some n => x.isInt n
    | none => false

/-- Whether two values are the same key. -/
def sameKey : Value → Value → Bool
  | null, null => true
  | text s, text t => s == t
  | bytes a, bytes b => a == b
  | date d, date e => d == e
  | moment m, moment n => m.same n
  | float x, v => isNumber x v
  | v, float x => isNumber x v
  | v, w =>
    match v.asInt?, w.asInt? with
    | some a, some b => a == b
    | _, _ => false

/-- Whether a value can be a key. -/
def isKey : Value → Bool
  | list _ | table _ | pair _ _ | set _ | enclosing _ => false
  | _ => true

/-- The entries with `key` set to `value`: in place if the key is there already, and otherwise
behind the others. -/
def put (entries : List (Value × Value)) (key value : Value) : List (Value × Value) :=
  match entries with
  | [] => [(key, value)]
  | (k, v) :: more =>
    if k.sameKey key then (k, value) :: more else (k, v) :: put more key value

/-- The given entries, of which the last one of each key counts. -/
def putAll (entries : List (Value × Value)) : List (Value × Value) :=
  entries.foldl (fun known e => put known e.1 e.2) []

/-- The table with the given entries. -/
def ofEntries (entries : List (Value × Value)) : Value := table (putAll entries)

/-- The set of the keys of the given entries. -/
def ofKeys (entries : List (Value × Value)) : Value := set ((putAll entries).map Prod.fst)

/-- Whether a value is this text. -/
def isText (wanted : Text) : Value → Bool
  | text t => t == wanted
  | _ => false

/-- The value of the entry with this name. -/
def find? (name : Text) (entries : List (Value × Value)) : Option Value :=
  (entries.find? fun e => e.1.isText name).map Prod.snd

/-! ## 2. Questions -/

/-- Whether a value counts as true: all but nothing, false, zero and what is empty. -/
def isTruthy : Value → Bool
  | null => false
  | bool b => b
  | int n => n != 0
  | float x => !x.isZero
  | text t => !t.isEmpty
  | bytes b => !b.isEmpty
  | list items | set items => !items.isEmpty
  | table entries => !entries.isEmpty
  | date _ | moment _ | pair _ _ | enclosing _ => true

/-! ## 3. Json values -/

mutual

/-- The value that a Json value stands for. -/
def ofJson : Json → Value
  | .null => null
  | .bool b => bool b
  | .int n => int n
  | .float x => float x
  | .string t => text t
  | .array items => list (ofItems items)
  | .object members => table (ofMembers members)
  | .torn v => ofJson v

/-- The values of items. -/
def ofItems : List Json → List Value
  | [] => []
  | v :: more => ofJson v :: ofItems more

/-- The entries of members. -/
def ofMembers : List (Text × Json) → List (Value × Value)
  | [] => []
  | (n, v) :: more => (text n, ofJson v) :: ofMembers more

end

end Value

end StoredFunctions
