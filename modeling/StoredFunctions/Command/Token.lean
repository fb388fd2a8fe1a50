/-
# Tokens of the command line

Before arguments are given a meaning each one is told apart: a switch, the sign that nothing
behind it is a switch, or a word.  A switch may be shortened as long as no other switch begins so,
and its value may follow behind `=`.  A shortened switch that could be several is refused, wherever
it stands.
-/
import StoredFunctions.Text.DecimalDigit

namespace StoredFunctions.Command

/-! ## 1. Switches and tokens -/

/-- What a switch does. -/
inductive Effect where
  /-- It is present or absent. -/
  | flag
  /-- It takes a value. -/
  | value
  /-- It asks for help. -/
  | help
  deriving DecidableEq, Repr

/-- A switch as it is written in full, and what it does. -/
structure Switch where
  name : Text
  effect : Effect
  deriving DecidableEq, Repr

/-- What an argument is. -/
inductive Token where
  /-- A value of a switch, or a path, or the name of a command. -/
  | word (t : Text)
  /-- The sign that nothing behind it is a switch. -/
  | separator
  /-- A known switch, and the value behind `=` if there is one. -/
  | switch (s : Switch) (attached : Option Text)
  /-- The letters right behind a short switch. -/
  | letters (behind : Text)
  /-- Something that looks like a switch and is not known. -/
  | unknown
  deriving DecidableEq, Repr

/-! ## 2. Telling arguments apart -/

/-- The sign that nothing behind it is a switch. -/
def separatorText : Text := "--"

/-- Whether all characters are decimal digits of any script, and there is one. -/
def isNumeral (t : Text) : Bool := !t.isEmpty && t.all fun c => (digitValue? c).isSome

/-- Whether a text is a minus sign and a number, which is never a switch. -/
def isNegativeNumber (t : Text) : Bool :=
  match t with
  | '-' :: more =>
    isNumeral more ||
      (match more.dropWhile fun c => (digitValue? c).isSome with
       | '.' :: behind => isNumeral behind
       | _ => false)
  | _ => false

/-- The part of a text before the first `=`, and the part behind it if there is one. -/
def splitEquals (t : Text) : Text × Option Text :=
  (t.takeWhile (· != '='),
    match t.dropWhile (· != '=') with
    | [] => none
    | _ :: behind => some behind)

/-- What an argument may be that is a shortened switch, or a short one with letters behind it. -/
def candidates (known : List Switch) (arg : Text) : List Token :=
  match arg with
  | '-' :: '-' :: _ =>
    let (written, attached) := splitEquals arg
    (known.filter fun s => written.isPrefixOf s.name).map fun s => .switch s attached
  | _ => (known.filter fun s => s.name == arg.take 2).map fun _ => .letters (arg.drop 2)

/-- What an argument is, if it can be told. -/
def token? (known : List Switch) (arg : Text) : Option Token :=
  if arg.head? != some '-' then some (.word arg)
  else match known.find? fun s => s.name == arg with
    | some s => some (.switch s none)
    | none =>
      if arg.length = 1 then some (.word arg)
      else
        let (written, attached) := splitEquals arg
        match attached, known.find? fun s => s.name == written with
        | some _, some s => some (.switch s attached)
        | _, _ =>
          match candidates known arg with
          | _ :: _ :: _ => none
          | [one] => some one
          | [] =>
            if isNegativeNumber arg || arg.contains ' ' then some (.word arg) else some .unknown

/-- What the arguments are, if that can be told of all of them. -/
def tokens? (known : List Switch) : List Text → Option (List Token)
  | [] => some []
  | arg :: more =>
    if arg = separatorText then some (.separator :: more.map .word)
    else do
      let first ← token? known arg
      let others ← tokens? known more
      pure (first :: others)

end StoredFunctions.Command
