-- Reading the command line: a subcommand, and for `run` its settings, each
-- given at most once, as `--option value` or `--option=value`.
import ServingOperator.Configuration.Basic
import ServingOperator.Text.Split

namespace ServingOperator

/-- Why a command line asks for nothing to be done: it asks for a text to be
shown, or it is at fault. -/
inductive UsageStop where
  | help
  | version
  | noSubcommand
  | unknownSubcommand
  | unknownArgument
  | noValue
  | needlessValue
  | badValue (e : BadValue)
  | givenTwice
  deriving DecidableEq, Repr

/-- To show what was asked for is a success. -/
def UsageStop.exitCode : UsageStop → Nat
  | help => 0
  | version => 0
  | _ => 2

inductive Command where
  /-- Print the definition of the kind ModelDeployment. -/
  | crd
  | run (c : Configuration)
  deriving DecidableEq, Repr

namespace CommandLine

/-! ## Words -/

/-- A word after a subcommand. -/
inductive Word where
  /-- Two hyphens: no later word is an option. -/
  | separator
  | help
  /-- A value for an option that takes none. -/
  | helpWith
  | assigned (s : Setting) (text : String)
  | named (s : Setting)
  | unknown
  | plain (text : String)
  deriving DecidableEq, Repr

/-- How a word reads. A single hyphen, like the empty word, is no option. -/
def Word.ofString (w : String) : Word :=
  match w.toList with
  | ['-', '-'] => .separator
  | '-' :: '-' :: body =>
    let (name, value) := Text.cutAt '=' body
    if String.ofList name = "help" then
      if value.isNone then .help else .helpWith
    else
      match Setting.ofOption? (String.ofList name), value with
      | some s, some text => .assigned s (String.ofList text)
      | some s, none => .named s
      | none, _ => .unknown
  | '-' :: 'h' :: _ => .help
  | '-' :: _ :: _ => .unknown
  | _ => .plain w

/-! ## Settings -/

/-- What was read of the settings. The option named last waits for its
value, or has a value that was not looked at yet. -/
structure Reading where
  given : Given := .nothing
  pending : Option (Setting × Option String) := none

namespace Reading

/-- Takes up a setting. It must not be there yet. -/
def take (r : Reading) (s : Setting) (text : String) : Except UsageStop Reading :=
  if (r.given s).isSome then .error .givenTwice
  else
    match s.read text with
    | .ok v => .ok { r with given := r.given.set s v }
    | .error e => .error (.badValue e)

/-- Takes up the option named last. It must have got its value. -/
def settle (r : Reading) : Except UsageStop Reading :=
  match r.pending with
  | none => .ok r
  | some (_, none) => .error .noValue
  | some (s, some text) => take { r with pending := none } s text

/-- Reads the settings of a run. -/
def words : Reading → List String → Except UsageStop Given
  | r, [] => r.settle.map (·.given)
  | r, w :: rest =>
    match Word.ofString w with
    | .separator => if rest = [] then r.settle.map (·.given) else .error .unknownArgument
    | .help => r.settle.bind fun _ => .error .help
    | .helpWith => .error .needlessValue
    | .assigned s text => r.settle.bind fun r => (r.take s text).bind fun r => r.words rest
    | .named s => r.settle.bind fun r => words { r with pending := some (s, none) } rest
    | .unknown => .error .unknownArgument
    | .plain text =>
      match r.pending with
      | some (s, none) => words { r with pending := some (s, some text) } rest
      | _ => .error .unknownArgument

end Reading

/-! ## Subcommands -/

/-- The words after `run`. -/
def readRun (words : List String) (env : Environment) : Except UsageStop Command :=
  (Reading.words {} words).bind fun given =>
    match Configuration.ofGiven given env with
    | .ok c => .ok (.run c)
    | .error e => .error (.badValue e)

/-- The words after `crd`, which takes none. -/
def readCrd (words : List String) : Except UsageStop Command :=
  match words with
  | [] => .ok .crd
  | w :: rest =>
    match Word.ofString w with
    | .separator => if rest = [] then .ok .crd else .error .unknownArgument
    | .help => .error .help
    | .helpWith => .error .needlessValue
    | _ => .error .unknownArgument

def isSubcommand (w : String) : Bool := w = "run" || w = "crd" || w = "help"

/-- The words after `help`: perhaps a subcommand. -/
def readHelp : List String → UsageStop
  | [] => .help
  | [w] => if isSubcommand w then .help else .unknownSubcommand
  | _ => .unknownSubcommand

/-- A first word that is no subcommand. -/
def readOption (w : String) : UsageStop :=
  match w.toList with
  | '-' :: '-' :: body =>
    let (name, value) := Text.cutAt '=' body
    let shown := if String.ofList name = "help" then some UsageStop.help
      else if String.ofList name = "version" then some .version
      else none
    match shown, value with
    | some stop, none => stop
    | some _, some _ => .needlessValue
    | none, _ => .unknownArgument
  | '-' :: 'h' :: _ => .help
  | '-' :: 'V' :: _ => .version
  | '-' :: _ :: _ => .unknownArgument
  | _ => .unknownSubcommand

/-- Reads a command line, less the name of the program. -/
def read (words : List String) (env : Environment) : Except UsageStop Command :=
  match words with
  | [] => .error .noSubcommand
  | "--" :: [] => .error .noSubcommand
  | "--" :: w :: _ => .error (if isSubcommand w then .unknownArgument else .unknownSubcommand)
  | "run" :: rest => readRun rest env
  | "crd" :: rest => readCrd rest
  | "help" :: rest => .error (readHelp rest)
  | w :: _ => .error (readOption w)

end CommandLine

end ServingOperator
