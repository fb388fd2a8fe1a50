/-
# File paths

A path is a root, if it is absolute, and the names on the way.  Repeated slashes and the name `.`
are dropped when a path is read, and `..` is kept.  A path that begins with exactly two slashes
keeps both.
-/
import StoredFunctions.Text.Basic

namespace StoredFunctions

/-- A path to a file or a directory. -/
structure FilePath where
  /-- The slashes at the start of an absolute path. -/
  root : Text
  /-- The names on the way. -/
  names : List Text
  deriving DecidableEq, Repr

namespace FilePath

/-- The pieces of a text between slashes. -/
def pieces : Text → List Text
  | [] => [[]]
  | c :: more =>
    if c = '/' then [] :: pieces more
    else match pieces more with
      | [] => [[c]]
      | piece :: others => (c :: piece) :: others

/-- The root of the path that a text spells. -/
def rootOf (t : Text) : Text :=
  match (t.takeWhile (· == '/')).length with
  | 0 => []
  | 2 => ['/', '/']
  | _ => ['/']

/-- The path that a text spells. -/
def ofText (t : Text) : FilePath :=
  ⟨rootOf t, (pieces t).filter fun piece => !piece.isEmpty && piece != ['.']⟩

/-- The spelling of a path; the empty path is the directory `.`. -/
def text (p : FilePath) : Text :=
  if p.root.isEmpty && p.names.isEmpty then "." else p.root ++ Text.join "/" p.names

/-- Whether a path starts at the root. -/
def isAbsolute (p : FilePath) : Bool := !p.root.isEmpty

/-- Whether the NUL character occurs in a path. -/
def hasNul (p : FilePath) : Bool := p.names.any fun name => name.contains '\x00'

/-- The last name, or nothing. -/
def name (p : FilePath) : Text := p.names.getLastD []

/-- The path of the directory that holds a path. -/
def parent (p : FilePath) : FilePath := { p with names := p.names.dropLast }

/-- The path of an entry of a directory. -/
def child (p : FilePath) (entry : Text) : FilePath := { p with names := p.names ++ [entry] }

/-- The end of a name from its last dot on.  A dot that is the first or the last character does
not count. -/
def suffixOf (name : Text) : Text :=
  let back := name.reverse.takeWhile (· != '.')
  let front := name.length - back.length
  if back.isEmpty || front ≤ 1 then [] else '.' :: back.reverse

/-- The suffix of the last name. -/
def suffix (p : FilePath) : Text := suffixOf p.name

end FilePath

end StoredFunctions
