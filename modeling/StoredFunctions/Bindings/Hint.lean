/-
# Type hints

The type hint of an argument in the generated module, for the kind of its parameter.

`python_type` is `Kind.hint`.
-/
import StoredFunctions.Kind.Basic

namespace StoredFunctions

/-- The type hint of a keyword kind. -/
def Primitive.hint : Primitive → Text
  | any => "Any"
  | bool => "bool"
  | bytes => "bytes"
  | datetime => "datetime.datetime"
  | decimal => "Decimal"
  | duration => "datetime.timedelta"
  | float => "float"
  | int => "int"
  | number => "int | float | Decimal"
  | object => "dict[str, Any]"
  | point => "tuple[float, float]"
  | string => "str"
  | uuid => "UUID"

mutual

/-- The type hint of a kind. -/
def Kind.hint : Kind → Text
  | .primitive p => p.hint
  | .geometry _ _ => "dict[str, Any]"
  | .record _ => "str"
  | .option inner => "Optional[" ++ inner.hint ++ "]"
  | .array inner _ => "list[" ++ inner.hint ++ "]"
  | .set inner _ => "list[" ++ inner.hint ++ "]"
  | .either first second more => Text.join " | " (first.hint :: second.hint :: hints more)

/-- The type hints of kinds. -/
def Kind.hints : List Kind → List Text
  | [] => []
  | k :: more => k.hint :: hints more

end

end StoredFunctions
