-- The command line of the operator. Everything is decided by `Program`; here
-- the surroundings are looked up and what is decided is done.
import ServingOperator.Program
import Std.Time

open ServingOperator

/-- The variables that the program looks at. -/
def variableNames : List String := Program.filterVariable :: Setting.all.filterMap Setting.envName?

/-- The values of these variables. -/
def lookUp (names : List String) : IO Environment := do
  let found ← names.mapM fun name => return (name, ← IO.getEnv name)
  return fun name => (found.lookup name).join

/-- The bytes of a file, if it can be read. -/
def readBytes? (path : String) : IO (Option Trust.Bytes) := do
  try return some (← IO.FS.readBinFile path).toList
  catch _ => return none

/-- The kubeconfig file and the files that it names, and the time now. -/
def hostOf (path : Option String) (now : Std.Time.Timestamp) : IO Host := do
  let now : Instant := ⟨now.toSecondsSinceUnixEpoch.val⟩
  match path with
  | none => return { files := fun _ => none, now }
  | some path =>
    let text := (← readBytes? path).bind Trust.Pem.textOf?
    let paths := path :: Connection.filesNamed path (text.getD "")
    let found ← paths.mapM fun p => return (p, ← readBytes? p)
    return { files := fun p => (found.lookup p).join, now }

/-- The day of a point in time. -/
def dayOf (now : Std.Time.Timestamp) : String :=
  (Std.Time.PlainDate.ofEpochDay now.toDaysSinceUnixEpoch).toSQLDateString

/-- Opens the file for the log, for lines to be added to it. -/
def openLog (f : Logging.RollingFile) (date : String) : IO Bool := do
  try
    IO.FS.createDirAll f.directory
    let _ ← IO.FS.Handle.mk (f.pathOn date) .append
    return true
  catch _ => return false

/-- The configuration that the command line asks for, if it asks for a run. -/
def configured? (words : List String) (env : Environment) : Option Configuration :=
  match CommandLine.read words env with
  | .ok (.run c) => some c
  | _ => none

/-- Does what an ended process has done. -/
def finish (e : Ending) (logFile : Option String) : IO UInt32 := do
  IO.print e.output
  IO.eprint e.standardError
  if let some path := logFile then
    let handle ← IO.FS.Handle.mk path .append
    e.log.forM handle.putStrLn
  return e.code.toUInt32

def main (words : List String) : IO UInt32 := do
  let env ← lookUp variableNames
  let c := configured? words env
  let now ← Std.Time.Timestamp.now
  let host ← hostOf (c.bind (·.kubeconfig)) now
  let wanted := (c.bind (·.logFile)).bind fun path => (Logging.RollingFile.ofPath? path).toOption
  let opened ← match wanted with
    | none => pure false
    | some f => openLog f (dayOf now)
  let logFile := if opened then wanted.map (·.pathOn (dayOf now)) else none
  match Program.ofWords words { host with env, canOpen := fun _ => opened } with
  | .ended e => finish e logFile
  | .serving _ log connection => finish (Program.unreachable log connection) logFile
