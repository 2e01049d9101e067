-- Lines of a scalar joined to one text. A break between two lines becomes
-- a space, and of more breaks in a row all but the first are kept.
import ServingOperator.Yaml.Cursor

namespace ServingOperator.Yaml

/-- A text that is being read, its last character first, and the blanks and
breaks since then, of which it is not yet known what becomes of them. -/
structure Folding where
  text : List Char := []
  /-- The blanks on the line, the last one first. -/
  blanks : List Char := []
  /-- Whether a line has ended since the last character. -/
  broken : Bool := false
  firstBreak : Option Char := none
  /-- The breaks after the first one, the last one first. -/
  moreBreaks : List Char := []

namespace Folding

/-- The text with what the blanks and breaks become. -/
def settled (f : Folding) : List Char :=
  if f.broken then
    match f.firstBreak with
    | some '\n' => if f.moreBreaks = [] then ' ' :: f.text else f.moreBreaks ++ f.text
    | first => f.moreBreaks ++ first.toList ++ f.text
  else f.blanks ++ f.text

/-- A character of the text. -/
def push (f : Folding) (c : Char) : Folding := { text := c :: f.settled }

/-- A line break. The blanks before it are dropped. -/
def newline (f : Folding) (c : Char) : Folding :=
  if f.broken then { f with moreBreaks := c :: f.moreBreaks }
  else { f with blanks := [], broken := true, firstBreak := some c }

/-- A blank. At the start of a line it is dropped. -/
def blank (f : Folding) (c : Char) : Folding :=
  if f.broken then f else { f with blanks := c :: f.blanks }

/-- A line break that leaves nothing behind. The blanks before it stay. -/
def escapedNewline (f : Folding) : Folding := { text := f.settled, broken := true }

/-- Blanks and breaks are passed. A tab is refused where it would stand for
indentation: at the start of a line, before column `indent`. -/
def skipSpace (fuel indent : Nat) (f : Folding) (c : Cursor) : Option (Folding × Cursor) :=
  match fuel with
  | 0 => none
  | fuel + 1 =>
    match c.rest with
    | [] => some (f, c)
    | x :: _ =>
      if isBlank x then
        if x = '\t' ∧ f.broken ∧ c.column < indent then none
        else skipSpace fuel indent (f.blank x) c.skip
      else if isBreak x then
        let (b, c) := c.skipBreak
        skipSpace fuel indent (f.newline b) c
      else some (f, c)

end Folding

end ServingOperator.Yaml
