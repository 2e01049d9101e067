-- The program: what a process does by its command line and surroundings. It
-- prints something and ends, or it has a cluster to look after.
import ServingOperator.Configuration.CommandLine
import ServingOperator.CustomResource.Definition
import ServingOperator.Kubeconfig.Connection
import ServingOperator.Logging.Setup
import ServingOperator.Version
import ServingOperator.Yaml.Writer

namespace ServingOperator

/-- How a process ends: its exit code, and what it wrote to the standard
output, to the log, and after that to the standard error. -/
structure Ending where
  code : Nat
  output : String := ""
  log : List String := []
  errors : String := ""
  deriving DecidableEq, Repr

/-- All that is written to the standard error, where the log goes too. -/
def Ending.standardError (e : Ending) : String := String.join (e.log.map (· ++ "\n")) ++ e.errors

/-- What surrounds a process. -/
structure Environs extends Host where
  env : Environment
  /-- The file for the log can be opened, and its directory made. -/
  canOpen : Logging.RollingFile → Bool
  /-- The connection that the process is offered without asking. -/
  offered : Option Connection := none

inductive Program where
  /-- The process has ended. -/
  | ended (e : Ending)
  /-- The process looks after a cluster. -/
  | serving (c : Configuration) (log : Logging.Log) (connection : Connection)

namespace Program

def name : String := "model-operator"

def versionText : String := name ++ " " ++ (Build.latest.version?.getD "") ++ "\n"

/-- How to use the program. -/
def usage : String :=
  "Usage: " ++ name ++ " <COMMAND>\n\nCommands:\n" ++
    "  run   Run the ModelDeployment controller\n" ++
    "  crd   Print the ModelDeployment CustomResourceDefinition as YAML\n" ++
    "  help  Print this message\n\nOptions of run:\n" ++
    String.join (Setting.all.map fun s => "  --" ++ s.option ++ " <VALUE>\n")

/-- What is wrong with a command line. -/
def fault : UsageStop → String
  | .noSubcommand => "a command is required"
  | .unknownSubcommand => "unrecognized command"
  | .unknownArgument => "unexpected argument"
  | .noValue => "a value is required"
  | .needlessValue => "unexpected value"
  | .badValue .empty => "a value must not be empty"
  | .badValue .noSeconds => "a value must be a number of seconds"
  | .givenTwice => "an option cannot be used twice"
  | _ => ""

/-- The end of a process whose command line asks for nothing to be done. -/
def stopped (s : UsageStop) : Ending :=
  match s with
  | .help => { code := s.exitCode, output := usage }
  | .version => { code := s.exitCode, output := versionText }
  | _ => { code := s.exitCode, errors := "error: " ++ fault s ++ "\n\n" ++ usage }

/-- The variable that filters the log. -/
def filterVariable : String := "RUST_LOG"

/-- The line that a run starts with. -/
def startLine : Logging.Line :=
  { level := .info
    target := "model_operator"
    message := "Starting model-operator " ++ (Build.latest.version?.getD "") }

/-- The end of a run that failed. -/
def failed (log : List String) (message : String) : Ending :=
  { code := 1, log, errors := "Error: " ++ message ++ "\n" }

/-- The end of a process that cannot go on. -/
def broken (log : List String) (message : String) : Ending :=
  { code := 101, log, errors := message ++ "\n" }

/-- The end of a run that finds nobody at the address of the server. -/
def unreachable (log : Logging.Log) (c : Connection) : Ending :=
  failed (log.written [startLine]) ("the API server at " ++ c.server ++ " cannot be reached")

/-- A run sets the log up and then looks for the cluster. -/
def start (w : Environs) (c : Configuration) : Program :=
  match Logging.setUp none w.canOpen ((w.env filterVariable).getD "") c.logFile with
  | .error .brokenFilter => .ended (broken [] Logging.LogFailure.brokenFilter.message)
  | .error e => .ended (failed [] e.message)
  | .ok log =>
    match Connection.connect w.toHost w.offered c.kubeconfig with
    | .error .brokenToken =>
      .ended (broken (log.written [startLine]) ConnectionFailure.brokenToken.message)
    | .error e => .ended (failed (log.written [startLine]) e.error.message)
    | .ok connection => .serving c log connection

/-- What a process does by the words after its name. -/
def ofWords (words : List String) (w : Environs) : Program :=
  match CommandLine.read words w.env with
  | .error s => .ended (stopped s)
  | .ok .crd => .ended { code := 0, output := Yaml.toText CustomResource.intents.encode }
  | .ok (.run c) => start w c

end Program

end ServingOperator
