/-
# Path templates

A path may refer to variables as `$NAME`.  A variable's name is the longest run of ASCII letters,
digits and underscores behind the `$` that does not begin with a digit.  References are replaced
from left to right in one pass: what a variable stands for is not looked at again.

`resolve_path` is `resolve`, and `parse_identifier` is `splitName?`.  `MalformedVariableError` and
`MissingVariableError` are `TemplateError.malformed` and `TemplateError.unset`.
-/
import StoredFunctions.Text.Basic

namespace StoredFunctions

/-- Why a template has no path. -/
inductive TemplateError where
  /-- A `$` without a name behind it; the template from there on. -/
  | malformed (rest : Text)
  /-- A variable without a value. -/
  | unset (variableName : Text)
  deriving DecidableEq, Repr

/-- The wording of an error. -/
def TemplateError.message : TemplateError → Text
  | malformed rest => "Unable to parse a variable from \"" ++ rest ++ "\""
  | unset variableName => "Unable to resolve $" ++ variableName

namespace PathTemplate

/-! ## 1. Replacing -/

/-- The name at the start of a text and what follows it, if there is one. -/
def splitName? (t : Text) : Option (Text × Text) :=
  match t with
  | [] => none
  | c :: _ =>
    if isWordChar c && !isDigit c then some (t.takeWhile isWordChar, t.dropWhile isWordChar)
    else none

theorem length_of_splitName? {t name rest : Text} (h : splitName? t = some (name, rest)) :
    rest.length ≤ t.length := by
  unfold splitName? at h
  split at h
  · simp at h
  · split at h
    · simp only [Option.some.injEq, Prod.mk.injEq] at h
      rw [← h.2]
      exact (List.dropWhile_suffix isWordChar).length_le
    · simp at h

/-- The path that a template stands for, with the values of variables given by `lookup`. -/
def resolve (lookup : Text → Option Text) : Text → Except TemplateError Text
  | [] => .ok []
  | c :: more =>
    if c = '$' then
      match _h : splitName? more with
      | none => .error (.malformed (c :: more))
      | some (name, rest) =>
        match lookup name with
        | none => .error (.unset name)
        | some value => (resolve lookup rest).map (value ++ ·)
    else (resolve lookup more).map (c :: ·)
termination_by t => t.length
decreasing_by
  · have := length_of_splitName? _h
    simp only [List.length_cons]
    omega
  · simp

theorem resolve_plain (lookup : Text → Option Text) {c : Char} (hc : c ≠ '$') (more : Text) :
    resolve lookup (c :: more) = (resolve lookup more).map (c :: ·) := by
  rw [resolve]
  simp [hc]

theorem resolve_malformed (lookup : Text → Option Text) {more : Text}
    (h : splitName? more = none) :
    resolve lookup ('$' :: more) = .error (.malformed ('$' :: more)) := by
  rw [resolve]
  split
  · split <;> simp_all
  · contradiction

theorem resolve_reference (lookup : Text → Option Text) {more name rest : Text}
    (h : splitName? more = some (name, rest)) :
    resolve lookup ('$' :: more) =
      match lookup name with
      | none => .error (.unset name)
      | some value => (resolve lookup rest).map (value ++ ·) := by
  rw [resolve]
  split
  · split <;> simp_all
  · contradiction

/-! ## 2. Variables -/

/-- The variables that a template refers to, up to a reference without a name. -/
def mentioned : Text → List Text
  | [] => []
  | c :: more =>
    if c = '$' then
      match _h : splitName? more with
      | none => []
      | some (name, rest) => name :: mentioned rest
    else mentioned more
termination_by t => t.length
decreasing_by
  · have := length_of_splitName? _h
    simp only [List.length_cons]
    omega
  · simp

end PathTemplate

end StoredFunctions
