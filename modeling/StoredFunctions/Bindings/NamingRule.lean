/-
# Naming rules

How the name of a generated wrapper is made from the name of its function: kept, with something in
front, or with something behind.  A rule is written `is`, `front_$` or `$_back`, where `$` stands
for the function's name.

`Alias` is `NamingRule`, with `parse` and `transform` as `parse` and `apply`.
-/
import StoredFunctions.Text.Blank
import StoredFunctions.Text.Quoted

namespace StoredFunctions

/-- A rule for the names of wrappers. -/
inductive NamingRule where
  /-- The function's name itself. -/
  | same
  /-- The affix, then the function's name. -/
  | front (affix : Text)
  /-- The function's name, then the affix. -/
  | back (affix : Text)
  deriving DecidableEq, Repr

/-- A text that is no naming rule. -/
structure NamingError where
  written : Text
  deriving DecidableEq, Repr

/-- The wording of the error. -/
def NamingError.message (e : NamingError) : Text :=
  "invalid alias " ++ e.written.quoted ++ ":" ++
    " expected `is`, `$_suffix` or `prefix_$`"

namespace NamingRule

/-- The rule that a text writes, blanks around it aside.  Exactly one `$` is allowed, at one of the
ends, and something else beside it. -/
def parse (written : Text) : Except NamingError NamingRule :=
  let value := written.trim
  if value = "is" then .ok same
  else if value.count '$' != 1 || value.length = 1 then .error ⟨written⟩
  else if value.getLast? = some '$' then .ok (front value.dropLast)
  else if value.head? = some '$' then .ok (back (value.drop 1))
  else .error ⟨written⟩

/-- The wrapper's name for a function's name. -/
def apply : NamingRule → Text → Text
  | same, name => name
  | front affix, name => affix ++ name
  | back affix, name => name ++ affix

/-- What is added to names. -/
def affix : NamingRule → Text
  | same => []
  | front affix => affix
  | back affix => affix

/-- The rule as it is written. -/
def text : NamingRule → Text
  | same => "is"
  | front affix => affix ++ "$"
  | back affix => "$" ++ affix

end NamingRule

end StoredFunctions
