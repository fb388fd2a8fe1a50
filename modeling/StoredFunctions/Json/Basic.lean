/-
# Json values

The values of the data format in which statements are archived.  The members of an object keep the
order in which their names first appeared, and a name appears once.

A string of the format may hold one half of a surrogate pair, which is no character, so that the
string is no text and cannot be encoded.  A string or an object that has such a half in it, or in
the name of a member, is **torn**.
-/
import StoredFunctions.Numbers.Binary64
import StoredFunctions.Text.Basic

namespace StoredFunctions

/-- A value of the data format. -/
inductive Json where
  | null
  | bool (b : Bool)
  | int (n : Int)
  | float (x : Binary64)
  | string (t : Text)
  | array (items : List Json)
  | object (members : List (Text × Json))
  /-- A string with half a surrogate pair in it, or an object with such a name: what it would be if
  the halves were replaced. -/
  | torn (v : Json)
  deriving Repr, Inhabited

namespace Json

/-! ## 1. Members -/

/-- The member list with `name` set to `value`: in place if the name is there already, and
otherwise behind the others. -/
def set (members : List (Text × Json)) (name : Text) (value : Json) : List (Text × Json) :=
  match members with
  | [] => [(name, value)]
  | (n, v) :: more => if n = name then (n, value) :: more else (n, v) :: set more name value

/-- The object with the given members, of which the last one of each name counts. -/
def ofMembers (members : List (Text × Json)) : Json :=
  object (members.foldl (fun known m => set known m.1 m.2) [])

/-- The value of the first member with this name. -/
def find? (name : Text) (members : List (Text × Json)) : Option Json :=
  (members.find? fun m => m.1 == name).map Prod.snd

/-- The members of an object. -/
def members? : Json → Option (List (Text × Json))
  | object members => some members
  | torn v => v.members?
  | null | bool _ | int _ | float _ | string _ | array _ => none

/-- The array of these texts. -/
def ofTexts (texts : List Text) : Json := array (texts.map string)

/-- Whether a value is this string. -/
def isString (wanted : Text) : Json → Bool
  | string t => t == wanted
  | _ => false

/-- The text that a value is, if it is one. -/
def text? : Json → Option Text
  | string t => some t
  | _ => none

mutual

/-- How many containers a value has around one another: none for a value that is no container. -/
def depth : Json → Nat
  | array items => depthOfItems items + 1
  | object members => depthOfMembers members + 1
  | torn v => v.depth
  | null | bool _ | int _ | float _ | string _ => 0

/-- The greatest depth of the items. -/
def depthOfItems : List Json → Nat
  | [] => 0
  | v :: more => max v.depth (depthOfItems more)

/-- The greatest depth of the members' values. -/
def depthOfMembers : List (Text × Json) → Nat
  | [] => 0
  | (_, v) :: more => max v.depth (depthOfMembers more)

end

mutual

/-- Whether anything is torn in a value, at any depth. -/
def isTorn : Json → Bool
  | array items => areTorn items
  | object members => haveTorn members
  | torn _ => true
  | null | bool _ | int _ | float _ | string _ => false

/-- Whether anything is torn in items. -/
def areTorn : List Json → Bool
  | [] => false
  | v :: more => v.isTorn || areTorn more

/-- Whether anything is torn in the values of members. -/
def haveTorn : List (Text × Json) → Bool
  | [] => false
  | (_, v) :: more => v.isTorn || haveTorn more

end

/-! ## 2. Rearranging at every depth -/

mutual

/-- The value without the members called `name`, at every depth. -/
def without (name : Text) : Json → Json
  | array items => array (withoutItems name items)
  | object members => object (withoutMembers name members)
  | torn v => torn (without name v)
  | null => null
  | bool b => bool b
  | int n => int n
  | float x => float x
  | string t => string t

/-- The items without the members called `name`. -/
def withoutItems (name : Text) : List Json → List Json
  | [] => []
  | v :: more => without name v :: withoutItems name more

/-- The members not called `name`, and their values without such members. -/
def withoutMembers (name : Text) : List (Text × Json) → List (Text × Json)
  | [] => []
  | (n, v) :: more =>
    if n = name then withoutMembers name more else (n, without name v) :: withoutMembers name more

end

/-- A member put in front of the first one whose name does not come before its own. -/
def insertSorted (name : Text) (value : Json) : List (Text × Json) → List (Text × Json)
  | [] => [(name, value)]
  | (n, v) :: more =>
    if name.le n then (name, value) :: (n, v) :: more else (n, v) :: insertSorted name value more

mutual

/-- The value with the members of every object in the order of their names. -/
def sorted : Json → Json
  | array items => array (sortedItems items)
  | object members => object (sortedMembers members)
  | torn v => torn (sorted v)
  | null => null
  | bool b => bool b
  | int n => int n
  | float x => float x
  | string t => string t

/-- The items with sorted members. -/
def sortedItems : List Json → List Json
  | [] => []
  | v :: more => sorted v :: sortedItems more

/-- The members in the order of their names, and their values with sorted members. -/
def sortedMembers : List (Text × Json) → List (Text × Json)
  | [] => []
  | (n, v) :: more => insertSorted n (sorted v) (sortedMembers more)

end

end Json

end StoredFunctions
