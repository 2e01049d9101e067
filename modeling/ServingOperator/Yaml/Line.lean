-- YAML text by lines.

namespace ServingOperator.Yaml

/-- A line: how deep it is indented, and its text. -/
structure Line where
  indent : Nat
  text : List Char
  deriving DecidableEq, Repr

namespace Line

def toChars (l : Line) : List Char := List.replicate l.indent ' ' ++ l.text ++ ['\n']

end Line

end ServingOperator.Yaml
