/-
# Names in the generated module

The generated module is written in Python.  A name in it is spelt like a name and is not one of
the language's keywords.
-/
import StoredFunctions.Text.NameCharacter

namespace StoredFunctions.Bindings

/-- The keywords of the generated module's language. -/
def keywords : List Text :=
  ["False", "None", "True", "and", "as", "assert", "async", "await", "break", "class", "continue",
    "def", "del", "elif", "else", "except", "finally", "for", "from", "global", "if", "import",
    "in", "is", "lambda", "nonlocal", "not", "or", "pass", "raise", "return", "try", "while",
    "with", "yield"].map Text.of

/-- Whether a text is a keyword. -/
def isKeyword (name : Text) : Bool := keywords.contains name

/-- Whether a text can name something in the generated module. -/
def isUsable (name : Text) : Bool := name.isName && !isKeyword name

/-- The name of the argument for a parameter: a keyword gets an underscore behind it. -/
def argumentName (parameter : Text) : Text :=
  if isKeyword parameter then parameter ++ "_" else parameter

end StoredFunctions.Bindings
