-- The file that the log is also written to: a new one each day, named for
-- the day.
import ServingOperator.Text.Path

namespace ServingOperator.Logging

/-- Why the log cannot be set up. -/
inductive LogFailure where
  | noFileName (path : String)
  | noDirectory (directory : String)
  | alreadySetUp
  /-- A directive of the filter is cut inside a character. The process cannot
  go on after that. -/
  | brokenFilter
  deriving DecidableEq, Repr

def LogFailure.message : LogFailure → String
  | noFileName path => "log file path has no file name: " ++ path
  | noDirectory directory => "failed to create rolling file appender in " ++ directory
  | alreadySetUp => "failed to install global tracing subscriber"
  | brokenFilter => "the log filter is cut inside a character"

/-- Files in a directory whose names start alike. -/
structure RollingFile where
  directory : String
  stem : String
  deriving DecidableEq, Repr

namespace RollingFile

/-- How many files are kept. -/
def kept : Nat := 3

/-- The directory that a path leads through. It is never empty. -/
def directoryOf (path : Text.Path) : String :=
  match path.parent? with
  | some parent => if parent.toString = "" then "." else parent.toString
  | none => "."

/-- The files by a path, which must end in a name. -/
def ofPath? (path : String) : Except LogFailure RollingFile :=
  let p := Text.Path.ofString path
  match p.fileName? with
  | none => .error (.noFileName path)
  | some stem => .ok ⟨directoryOf p, String.ofList stem⟩

/-- The path of the file for a day. -/
def pathOn (f : RollingFile) (date : String) : String := f.directory ++ "/" ++ f.stem ++ "." ++ date

end RollingFile

end ServingOperator.Logging
