/-
# Kinds

The **kind** of a parameter: what values it accepts.  Kinds are closed under the seven
constructors below, and a value of the type is always a kind that a document can spell: a geometry
has at least one shape, a union at least two members, and a limit is a natural number.

`Kind.text` is the canonical spelling, in lower case and with single spaces.

The classes `Primitive`, `Geometry`, `Record`, `Option`, `Array`, `Set` and `Either` are the
constructors of `Kind`, and `GEOMETRY_SUBTYPES` are the `Shape`s.  `format_kind` is `Kind.text`,
and `_format_collection` is `Kind.collectionText`.
-/
import StoredFunctions.Names.Basic

namespace StoredFunctions

/-! ## 1. Keyword kinds -/

/-- Kinds that take no arguments. -/
inductive Primitive where
  | any | bool | bytes | datetime | decimal | duration | float | int | number | object | point
  | string | uuid
  deriving DecidableEq, Repr

namespace Primitive

/-- All keyword kinds, in alphabetical order. -/
def all : List Primitive :=
  [any, bool, bytes, datetime, decimal, duration, float, int, number, object, point, string, uuid]

/-- The keyword. -/
def text : Primitive → Text
  | any => "any"
  | bool => "bool"
  | bytes => "bytes"
  | datetime => "datetime"
  | decimal => "decimal"
  | duration => "duration"
  | float => "float"
  | int => "int"
  | number => "number"
  | object => "object"
  | point => "point"
  | string => "string"
  | uuid => "uuid"

/-- The keyword kind that a word in lower case names. -/
def ofText? (word : Text) : Option Primitive := all.find? fun p => p.text == word

/-- Whether the values are numbers. -/
def isNumeric : Primitive → Bool
  | float | int | decimal | number => true
  | _ => false

end Primitive

/-! ## 2. Shapes -/

/-- The sorts of geometry. -/
inductive Shape where
  | feature | point | line | polygon | multipoint | multiline | multipolygon | collection
  deriving DecidableEq, Repr

namespace Shape

/-- All sorts of geometry. -/
def all : List Shape :=
  [feature, point, line, polygon, multipoint, multiline, multipolygon, collection]

/-- The word for a sort of geometry. -/
def text : Shape → Text
  | feature => "feature"
  | point => "point"
  | line => "line"
  | polygon => "polygon"
  | multipoint => "multipoint"
  | multiline => "multiline"
  | multipolygon => "multipolygon"
  | collection => "collection"

/-- The sort of geometry that a word in lower case names. -/
def ofText? (word : Text) : Option Shape := all.find? fun s => s.text == word

end Shape

/-! ## 3. Kinds -/

/-- The kind of a parameter. -/
inductive Kind where
  /-- A keyword kind. -/
  | primitive (p : Primitive)
  /-- A geometry of one of these shapes. -/
  | geometry (first : Shape) (more : List Shape)
  /-- A record of one of these tables; without tables, of any. -/
  | record (tables : List Table)
  /-- A value that may be absent. -/
  | option (inner : Kind)
  /-- A sequence, of at most `limit` elements. -/
  | array (inner : Kind) (limit : Option Nat)
  /-- A set, of at most `limit` elements. -/
  | set (inner : Kind) (limit : Option Nat)
  /-- A value of one of these kinds. -/
  | either (first second : Kind) (more : List Kind)
  deriving Repr

namespace Kind

/-- The kind that accepts everything. -/
def any : Kind := primitive .any

/-- Whether a kind is the one that accepts everything. -/
def isAny : Kind → Bool
  | primitive .any => true
  | _ => false

/-! ## 4. Canonical spelling -/

/-- The spelling of a sequence or a set with the given element.  The element is left out where it
may be anything and no limit follows. -/
def collectionText (keyword : Text) (innerIsAny : Bool) (inner : Text) : Option Text → Text
  | none => if innerIsAny then keyword else keyword ++ "<" ++ inner ++ ">"
  | some limit => keyword ++ "<" ++ inner ++ ", " ++ limit ++ ">"

mutual

/-- The canonical spelling of a kind. -/
def text : Kind → Text
  | primitive p => p.text
  | geometry first more =>
    "geometry<" ++ Text.join " | " (first.text :: more.map Shape.text) ++ ">"
  | record [] => "record"
  | record (t :: more) => "record<" ++ Table.listText " | " (t :: more) ++ ">"
  | option inner => "option<" ++ inner.text ++ ">"
  | array inner limit => collectionText "array" inner.isAny inner.text (limit.map Text.ofNat)
  | set inner limit => collectionText "set" inner.isAny inner.text (limit.map Text.ofNat)
  | either first second more =>
    "either<" ++ Text.join " | " (first.text :: second.text :: texts more) ++ ">"

/-- The canonical spellings of kinds. -/
def texts : List Kind → List Text
  | [] => []
  | k :: more => k.text :: texts more

end

theorem texts_eq_map (kinds : List Kind) : texts kinds = kinds.map text := by
  induction kinds with
  | nil => rfl
  | cons k more ih => simp [texts, ih]

/-! ## 5. Equality -/

mutual

/-- Whether two kinds are equal. -/
def beq : Kind → Kind → Bool
  | primitive p, primitive q => p == q
  | geometry a as, geometry b bs => a == b && as == bs
  | record as, record bs => as == bs
  | option a, option b => beq a b
  | array a m, array b n => beq a b && m == n
  | set a m, set b n => beq a b && m == n
  | either a b cs, either x y zs => beq a x && beq b y && beqList cs zs
  | _, _ => false

/-- Whether two lists of kinds are equal. -/
def beqList : List Kind → List Kind → Bool
  | [], [] => true
  | a :: as, b :: bs => beq a b && beqList as bs
  | _, _ => false

end

mutual

theorem beq_self : (k : Kind) → beq k k = true
  | primitive p => by simp [beq]
  | geometry a as => by simp [beq]
  | record as => by simp [beq]
  | option a => by simp [beq, beq_self a]
  | array a m => by simp [beq, beq_self a]
  | set a m => by simp [beq, beq_self a]
  | either a b cs => by simp [beq, beq_self a, beq_self b, beqList_self cs]

theorem beqList_self : (ks : List Kind) → beqList ks ks = true
  | [] => by simp [beqList]
  | k :: more => by simp [beqList, beq_self k, beqList_self more]

end

mutual

theorem eq_of_beq : (k l : Kind) → beq k l = true → k = l
  | primitive p, l, h => by cases l <;> simp_all [beq]
  | geometry a as, l, h => by cases l <;> simp_all [beq]
  | record as, l, h => by cases l <;> simp_all [beq]
  | option a, l, h => by
    cases l <;> simp [beq] at h
    case option b => rw [eq_of_beq a b h]
  | array a m, l, h => by
    cases l <;> simp [beq] at h
    case array b n => rw [eq_of_beq a b h.1, h.2]
  | set a m, l, h => by
    cases l <;> simp [beq] at h
    case set b n => rw [eq_of_beq a b h.1, h.2]
  | either a b cs, l, h => by
    cases l <;> simp [beq] at h
    case either x y zs =>
      rw [eq_of_beq a x h.1.1, eq_of_beq b y h.1.2, eq_of_beqList cs zs h.2]

theorem eq_of_beqList : (ks ls : List Kind) → beqList ks ls = true → ks = ls
  | [], ls, h => by cases ls <;> simp_all [beqList]
  | k :: more, ls, h => by
    cases ls <;> simp [beqList] at h
    case cons l rest => rw [eq_of_beq k l h.1, eq_of_beqList more rest h.2]

end

instance : DecidableEq Kind := fun k l =>
  if h : beq k l = true then .isTrue (eq_of_beq k l h)
  else .isFalse fun e => h (e ▸ beq_self k)

end Kind

end StoredFunctions
