-- The machine that a connection is made from: its files, its programs and
-- its clock.
import ServingOperator.Time.Instant
import ServingOperator.Trust.Pem

namespace ServingOperator

structure Host where
  /-- The bytes of the files that can be read, by their paths. -/
  files : String → Option Trust.Bytes
  /-- What a program writes, by its path and the words after it, if it can
  be run and does not fail. -/
  programs : String → List String → Option Trust.Bytes := fun _ _ => none
  now : Instant

namespace Host

/-- The text of a file. -/
def text? (h : Host) (path : String) : Option String := (h.files path).bind Trust.Pem.textOf?

/-- Bytes that are given in base64 or in a file. What is given in place comes
first. -/
def bytes? (h : Host) (data file : Option String) : Option Trust.Bytes :=
  let found :=
    match data, file with
    | some data, _ => Text.base64? data.toList
    | none, some file => h.files file
    | none, none => none
  found.map Trust.Pem.endedLine

end Host

end ServingOperator
