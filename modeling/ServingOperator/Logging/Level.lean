-- Levels of the log, and thresholds, which say up to which level lines are
-- let through.

namespace ServingOperator

/-- How much a line of the log matters. -/
inductive Level where
  | error
  | warn
  | info
  | debug
  | trace
  deriving DecidableEq, Repr, Inhabited

namespace Level

def name : Level → String
  | error => "ERROR"
  | warn => "WARN"
  | info => "INFO"
  | debug => "DEBUG"
  | trace => "TRACE"

/-- The place of a level: what matters most comes first. -/
def rank : Level → Nat
  | error => 1
  | warn => 2
  | info => 3
  | debug => 4
  | trace => 5

def all : List Level := [error, warn, info, debug, trace]

end Level

/-- A threshold lets through the lines up to a level, or none at all. -/
inductive Threshold where
  | off
  | upTo (l : Level)
  deriving DecidableEq, Repr, Inhabited

namespace Threshold

def rank : Threshold → Nat
  | off => 0
  | upTo l => l.rank

def passes (t : Threshold) (l : Level) : Bool := l.rank ≤ t.rank

def name : Threshold → String
  | off => "OFF"
  | upTo l => l.name

def all : List Threshold := off :: Level.all.map upTo

/-- A rank as it is written: digits, perhaps with a plus sign before them. -/
def rank? (cs : List Char) : Option Nat :=
  let digits := match cs with
    | '+' :: rest => rest
    | cs => cs
  if digits ≠ [] ∧ digits.all Char.isDigit then some (Nat.ofDigitChars 10 digits 0) else none

/-- A threshold by its name, in letters of any case, or by its rank. -/
def ofChars? (cs : List Char) : Option Threshold :=
  all.find? fun t => cs.map Char.toUpper = t.name.toList || rank? cs = some t.rank

end Threshold

end ServingOperator
