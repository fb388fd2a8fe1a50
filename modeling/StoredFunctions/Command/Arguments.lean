/-
# Command-line arguments

    [--config PATH] [--log-level LEVEL] parse    [--suffix S] [--sequential] [--json] PATH…
    [--config PATH] [--log-level LEVEL] generate [--suffix S] [--sequential]
                                                 [--alias RULE] [--output PATH] PATH…

A switch may be shortened as long as no other switch begins so, and its value may follow behind
`=`.  Behind `--` nothing is a switch.  The paths of a command stand together: a second group of
them, behind a switch, is refused, as is everything else that is left over.

Arguments are first told apart (`Token`), by the switches that are known, and then consumed from
left to right.

`build_parser` declares these switches; `readArguments` is its `parse_args`.
-/
import StoredFunctions.Command.Token
import StoredFunctions.Files.Path

namespace StoredFunctions.Command

/-! ## 1. Consuming switches -/

/-- Why arguments are not carried out. -/
inductive Refusal where
  /-- They do not follow the rules. -/
  | invalid
  /-- They ask for help. -/
  | help
  deriving DecidableEq, Repr

/-- The switches found, by their full names, with their values; the last of each counts. -/
abbrev Found := List (Text × Text)

/-- The value of a switch. -/
def Found.value? (found : Found) (name : Text) : Option Text :=
  (found.reverse.find? fun f => f.1 == name).map Prod.snd

/-- Whether a switch is there. -/
def Found.has (found : Found) (name : Text) : Bool := found.any fun f => f.1 == name

/-- What the letters right behind the short switch for help lead to.  Letters that ask for help
again are passed over, and an unknown one is left over, which matters no more; a minus sign or a
value is refused. -/
def letters : Text → Refusal
  | [] => .help
  | c :: more =>
    if c = '-' then .invalid
    else if c != 'h' then .help
    else if more.head? == some '=' then .invalid
    else letters more

/-- The switch at the front of tokens with its value, and how many of the tokens behind it belong
to it. -/
def consume (s : Switch) (attached : Option Text) (behind : List Token) :
    Except Refusal ((Text × Text) × Nat) :=
  match s.effect, attached with
  | .flag, none => .ok ((s.name, []), 0)
  | .help, none => .error .help
  | .value, some v => .ok ((s.name, v), 0)
  | .value, none =>
    match behind with
    | .word v :: _ => .ok ((s.name, v), 1)
    | _ => .error .invalid
  | _, some _ => .error .invalid

/-- Whether a token can belong to a group of paths. -/
def Token.inGroup : Token → Bool
  | word _ | separator => true
  | _ => false

/-- Whether a token is a word. -/
def Token.isWord : Token → Bool
  | word _ => true
  | _ => false

/-- The words of a group of paths; of the signs that nothing behind is a switch the first is
dropped. -/
def groupWords (group : List Token) : List Text :=
  group.filterMap fun
    | .word t => some t
    | _ => none

/-! ## 2. The arguments of a command -/

/-- What a command's arguments are made of. -/
structure Parts where
  found : Found
  paths : Option (List Text)
  /-- Whether something was left over. -/
  leftover : Bool

/-- Consumes the tokens of a command. -/
def commandParts (parts : Parts) : List Token → Except Refusal Parts
  | [] => .ok parts
  | .switch s attached :: behind =>
    match consume s attached behind with
    | .error e => .error e
    | .ok (f, count) => commandParts { parts with found := parts.found ++ [f] } (behind.drop count)
  | .letters behind :: _ => .error (letters behind)
  | .unknown :: behind => commandParts { parts with leftover := true } behind
  | first :: behind =>
    let group := first :: behind.takeWhile Token.inGroup
    let rest := behind.dropWhile Token.inGroup
    if parts.paths.isNone && group.any Token.isWord then
      commandParts { parts with paths := some (groupWords group) } rest
    else commandParts { parts with leftover := true } rest
termination_by tokens => tokens.length
decreasing_by
  · simp only [List.length_drop, List.length_cons]; omega
  · simp
  · have := (List.dropWhile_suffix (l := behind) Token.inGroup).length_le
    simp only [List.length_cons]; omega
  · have := (List.dropWhile_suffix (l := behind) Token.inGroup).length_le
    simp only [List.length_cons]; omega

/-! ## 3. All arguments -/

/-- The commands. -/
inductive Verb where
  /-- Print the functions found, as signatures or as an archive. -/
  | parse (json : Bool)
  /-- Generate a module, for standard output or into a file. -/
  | generate (naming : Option Text) (output : Option FilePath)
  deriving DecidableEq, Repr

/-- What the arguments ask for. -/
structure Arguments where
  config : Option FilePath
  logLevel : Option Text
  verb : Verb
  templates : List Text
  suffix : Option Text
  sequential : Bool
  deriving DecidableEq, Repr

/-- The switches that ask for help. -/
def helpSwitches : List Switch := [⟨"-h", .help⟩, ⟨"--help", .help⟩]

/-- The switches in front of a command. -/
def commonSwitches : List Switch :=
  helpSwitches ++ [⟨"--config", .value⟩, ⟨"--log-level", .value⟩]

/-- The switches of all commands. -/
def sourceSwitches : List Switch :=
  helpSwitches ++ [⟨"--suffix", .value⟩, ⟨"--sequential", .flag⟩]

/-- The switches of `parse`. -/
def parseSwitches : List Switch := sourceSwitches ++ [⟨"--json", .flag⟩]

/-- The switches of `generate`. -/
def generateSwitches : List Switch :=
  sourceSwitches ++ [⟨"--alias", .value⟩, ⟨"--output", .value⟩]

/-- The parts of a command's arguments. -/
def readCommand (known : List Switch) (args : List Text) :
    Except Refusal (Found × List Text) :=
  match tokens? known args with
  | none => .error .invalid
  | some tokens =>
    match commandParts ⟨[], none, false⟩ tokens with
    | .error e => .error e
    | .ok parts =>
      match parts.paths with
      | some paths => if parts.leftover then .error .invalid else .ok (parts.found, paths)
      | none => .error .invalid

/-- What the arguments from a command's name on ask for. -/
def readVerb (common : Found) : List Text → Except Refusal Arguments
  | [] => .error .invalid
  | name :: args =>
    let arguments (found : Found) (paths : List Text) (verb : Verb) : Arguments :=
      { config := (common.value? "--config").map FilePath.ofText
        logLevel := common.value? "--log-level"
        verb
        templates := paths
        suffix := found.value? "--suffix"
        sequential := found.has "--sequential" }
    if name = "parse" then
      (readCommand parseSwitches args).map fun (found, paths) =>
        arguments found paths (.parse (found.has "--json"))
    else if name = "generate" then
      (readCommand generateSwitches args).map fun (found, paths) =>
        arguments found paths
          (.generate (found.value? "--alias") ((found.value? "--output").map FilePath.ofText))
    else .error .invalid

/-- Consumes the tokens in front of a command, which stand for the arguments `args`. -/
def readCommon (found : Found) (leftover : Bool) (args : List Text) :
    List Token → Except Refusal Arguments
  | [] => .error .invalid
  | .separator :: _ => .error .invalid
  | .word _ :: _ =>
    match readVerb found args with
    | .ok arguments => if leftover then .error .invalid else .ok arguments
    | .error e => .error e
  | .letters behind :: _ => .error (letters behind)
  | .unknown :: behind => readCommon found true (args.drop 1) behind
  | .switch s attached :: behind =>
    match consume s attached behind with
    | .error e => .error e
    | .ok (f, count) =>
      readCommon (found ++ [f]) leftover (args.drop (count + 1)) (behind.drop count)
termination_by tokens => tokens.length
decreasing_by
  · simp
  · simp only [List.length_drop, List.length_cons]; omega

/-- What the arguments of the program ask for. -/
def readArguments (args : List Text) : Except Refusal Arguments :=
  match tokens? commonSwitches args with
  | none => .error .invalid
  | some tokens => readCommon [] false args tokens

end StoredFunctions.Command
