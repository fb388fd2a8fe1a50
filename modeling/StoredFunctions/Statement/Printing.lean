/-
# Statements in print

A number with more than `digitLimit` digits has no text.  So a statement with such a limit has no
header that could be shown, and statements with such a limit have no archive.

So `signature` is `Statement.signature?` and `to_json` is `Archive.write?` where they meet
statements that were read.
-/
import StoredFunctions.Archive.Writer

namespace StoredFunctions

namespace Kind

/-- Whether a limit, if there is one, has a text. -/
def limitPrints (limit : Option Nat) : Bool :=
  limit.all fun n => (Text.ofNat n).length ≤ digitLimit

mutual

/-- Whether all limits of a kind have a text. -/
def prints : Kind → Bool
  | primitive _ | geometry _ _ | record _ => true
  | option inner => inner.prints
  | array inner limit | set inner limit => inner.prints && limitPrints limit
  | either first second more => first.prints && second.prints && allPrint more

/-- Whether all limits of all kinds have a text. -/
def allPrint : List Kind → Bool
  | [] => true
  | k :: more => k.prints && allPrint more

end

end Kind

/-- Whether all limits of a statement have a text. -/
def Statement.prints (s : Statement) : Bool := s.parameters.all fun p => p.kind.prints

/-- The header of the definition, if it has a text. -/
def Statement.signature? (s : Statement) : Option Text :=
  if s.prints then some s.signature else none

/-- The text of an archive, if it has one. -/
def Archive.write? (asciiOnly : Bool) (statements : List Statement) : Option Text :=
  if statements.all Statement.prints then some (write asciiOnly statements) else none

end StoredFunctions
