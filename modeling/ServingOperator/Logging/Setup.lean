-- Setting the log up, once for a process, and what a line looks like.
import ServingOperator.Logging.Filter
import ServingOperator.Logging.RollingFile

namespace ServingOperator.Logging

/-- The text of a line, less the time. -/
def Line.text (l : Line) : String :=
  l.level.name ++ " " ++ l.target ++ ": " ++ l.message ++
    String.join (l.fields.map fun f => " " ++ f.1 ++ "=" ++ f.2)

/-- A log that is set up. Lines that the filter lets through go to the
standard error and to the file, if there is one. -/
structure Log where
  filter : Filter
  file : Option RollingFile
  deriving DecidableEq, Repr

/-- The texts of the lines that are let through. -/
def Log.written (log : Log) (lines : List Line) : List String :=
  (lines.filter fun l => log.filter.passes l).map Line.text

/-- The file at a path, if one is wanted. Its directory must be there or be
made. -/
def openFile (canOpen : RollingFile → Bool) : Option String → Except LogFailure (Option RollingFile)
  | none => .ok none
  | some path => do
    let file ← RollingFile.ofPath? path
    if canOpen file then return some file else throw (.noDirectory file.directory)

/-- Sets the log of a process up. A process has one log, `current` if it is
set up already. The filter is read first, then the file is opened, and only
after that is it noticed that there is a log. -/
def setUp (current : Option Log) (canOpen : RollingFile → Bool) (filter : String)
    (path : Option String) : Except LogFailure Log :=
  match Filter.ofString? filter with
  | none => throw .brokenFilter
  | some filter => do
    let file ← openFile canOpen path
    match current with
    | some _ => throw .alreadySetUp
    | none => return ⟨filter, file⟩

end ServingOperator.Logging
