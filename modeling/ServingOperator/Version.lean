-- The version of a build: the image it is for, and the commit it was made
-- from.
import ServingOperator.Text.Bytes

namespace ServingOperator

/-- What is known of a build. Some of it may be unknown. -/
structure Build where
  image : String
  /-- The identifier of the commit. -/
  sha : Option String
  /-- The text `true` if files were changed since the commit. -/
  dirty : Option String
  deriving DecidableEq, Repr

namespace Build

/-- The number of bytes that a commit is shortened to. -/
def shaBytes : Nat := 8

/-- The commit in short. A cut inside a character is not possible. -/
def shortSha? (b : Build) : Option String :=
  match b.sha with
  | none => some "unknown"
  | some "" => some "unknown"
  | some sha => (Text.takeBytes? shaBytes sha.toList).map String.ofList

/-- The version of a build, unless the commit cannot be cut. -/
def version? (b : Build) : Option String :=
  b.shortSha?.map fun sha =>
    b.image ++ "-" ++ sha ++ (if b.dirty = some "true" then "-dirty" else "")

/-- The build of the operator for the latest image. -/
def latest : Build := ⟨"latest", some "VERGEN_I", none⟩

end Build

end ServingOperator
