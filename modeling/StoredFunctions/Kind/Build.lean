/-
# Kinds from their parts

Building a kind from words and numbers that someone else supplies can fail: a word may name no
keyword kind and no shape, a limit may be negative, and a geometry or a union may have too few
members.

These are the checks that the classes of kinds make whenever one is built, `_check_limit` being
`checkLimit`.
-/
import StoredFunctions.Kind.Basic

namespace StoredFunctions

/-- Why parts make no kind. -/
inductive KindError where
  /-- What stands where a keyword should, as a message shows it. -/
  | unknownPrimitive (shown : Text)
  | noShapes
  /-- What stands where a shape should, as a message shows it. -/
  | unknownShape (shown : Text)
  | negativeLimit
  | tooFewMembers
  deriving DecidableEq, Repr

/-- The wording of an error. -/
def KindError.message : KindError → Text
  | unknownPrimitive shown => shown ++ " is not a valid Primitive"
  | noShapes => "geometry requires at least one subtype"
  | unknownShape shown => "unknown geometry subtype " ++ shown
  | negativeLimit => "collection limit must be non-negative"
  | tooFewMembers => "either requires at least two kinds"

namespace Kind

/-- The keyword kind with this name. -/
def ofKeyword (word : Text) : Except KindError Kind :=
  match Primitive.ofText? word with
  | some p => .ok (primitive p)
  | none => .error (.unknownPrimitive word.quoted)

/-- The geometry of shapes, each with the text that a message shows for it.  The first unknown
shape is reported. -/
def ofShapes (shapes : List (Option Shape × Text)) : Except KindError Kind := do
  let known ← shapes.mapM fun (shape, shown) =>
    match shape with
    | some s => .ok s
    | none => .error (.unknownShape shown)
  match known with
  | [] => .error .noShapes
  | first :: more => .ok (geometry first more)

/-- The geometry of shapes with these names. -/
def ofShapeNames (words : List Text) : Except KindError Kind :=
  ofShapes (words.map fun w => (Shape.ofText? w, w.quoted))

/-- A limit, which must not be negative. -/
def checkLimit : Option Int → Except KindError (Option Nat)
  | none => .ok none
  | some (.ofNat n) => .ok (some n)
  | some (.negSucc _) => .error .negativeLimit

/-- The sequence of elements of a kind. -/
def ofArray (inner : Kind) (limit : Option Int) : Except KindError Kind :=
  (checkLimit limit).map (array inner)

/-- The set of elements of a kind. -/
def ofSet (inner : Kind) (limit : Option Int) : Except KindError Kind :=
  (checkLimit limit).map (set inner)

/-- The union of kinds. -/
def ofMembers : List Kind → Except KindError Kind
  | first :: second :: more => .ok (either first second more)
  | _ => .error .tooFewMembers

end Kind

end StoredFunctions
