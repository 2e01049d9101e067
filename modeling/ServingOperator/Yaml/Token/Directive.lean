-- Directives: lines at the start of a document that tell the version of YAML
-- and what the handles of tags stand for.
import ServingOperator.Yaml.Token.Tag

namespace ServingOperator.Yaml.Directive

/-- The most digits that a part of a version may have. -/
def mostDigits : Nat := 9

/-- A part of a version. -/
def readNumber (c : Cursor) : Option (Nat × Cursor) :=
  let (digits, _) := Number.spanDigits c.rest
  if digits ≠ [] ∧ digits.length ≤ mostDigits then
    some (Number.digitsValue digits, c.skipMany digits.length)
  else none

/-- The version of YAML: two numbers with a point between them. -/
def readVersion (c : Cursor) : Option (Token × Cursor) := do
  let (major, c) ← readNumber c
  if c.rest.head? = some '.' then
    let (minor, c) ← readNumber c.skip
    some (.versionDirective major minor, c)
  else none

/-- A handle and what it stands for. -/
def readTagHandle (fuel : Nat) (c : Cursor) : Option (Token × Cursor) := do
  let (handle, c) ← Tag.readHandle c
  if handle ≠ ['!'] ∧ handle.getLast? ≠ some '!' then none
  if !c.rest.head?.any isBlank then none
  let (meaning, c) ← Tag.readSuffix1 fuel true (c.skipWhile isBlank)
  if endsWord c.rest then some (.tagDirective handle meaning, c) else none

/-- A directive after its percent sign, with the end of its line. -/
def read (fuel : Nat) (c : Cursor) : Option (Token × Cursor) := do
  let name := c.rest.takeWhile isWord
  let c := c.skipMany name.length
  if !endsWord c.rest then none
  let c := c.skipWhile isBlank
  let (token, c) ←
    if name = "YAML".toList then readVersion c
    else if name = "TAG".toList then readTagHandle fuel c
    else none
  let c := (c.skipWhile isBlank).skipComment
  if !endsLine c.rest then none
  some (token, if c.rest = [] then c else c.skipBreak.2)

end ServingOperator.Yaml.Directive
