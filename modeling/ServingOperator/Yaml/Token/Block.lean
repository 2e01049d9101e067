-- Block scalars: lines after an indicator, less their indentation. Literal
-- ones keep their line breaks. Folded ones join their lines, except for
-- lines that start with a blank.
import ServingOperator.Yaml.Cursor

namespace ServingOperator.Yaml.Block

/-- What becomes of the line breaks at the end: one of them is kept, none,
or all. -/
inductive Chomping where
  | clip
  | strip
  | keep
  deriving DecidableEq, Repr

/-- What stands on the line of the indicator: the chomping, and how much
deeper than what is around it the text is indented, if that is told. -/
structure Header where
  chomping : Chomping := .clip
  increment : Option Nat := none
  deriving DecidableEq, Repr

def chomping? (c : Char) : Option Chomping :=
  if c = '+' then some .keep else if c = '-' then some .strip else none

/-- A depth by one digit. Zero is none. -/
def increment? (c : Char) : Option Nat :=
  if c.isDigit ∧ c ≠ '0' then some (c.toNat - '0'.toNat) else none

/-- Reads the chomping and the depth, in either order. -/
def readHeader (c : Cursor) : Option (Header × Cursor) :=
  match c.rest with
  | x :: rest =>
    match chomping? x with
    | some chomping =>
      match rest with
      | y :: _ =>
        if y.isDigit then (increment? y).map fun n => (⟨chomping, some n⟩, c.skipMany 2)
        else some (⟨chomping, none⟩, c.skip)
      | [] => some (⟨chomping, none⟩, c.skip)
    | none =>
      if x.isDigit then
        (increment? x).map fun n =>
          match rest.head?.bind chomping? with
          | some chomping => (⟨chomping, some n⟩, c.skipMany 2)
          | none => (⟨.clip, some n⟩, c.skip)
      else some ({}, c)
  | [] => some ({}, c)

/-- Indentation and empty lines are passed: the depth of the deepest of
them, their breaks with the last one first, and what follows. `indent` is
the depth of the text if it is known. Tabs do not indent. -/
def skipEmpty (fuel : Nat) (indent : Option Nat) (deepest : Nat) (breaks : List Char) (c : Cursor) :
    Option (Nat × List Char × Cursor) :=
  match fuel with
  | 0 => none
  | fuel + 1 =>
    let n := (c.rest.takeWhile (· = ' ')).length
    let c := c.skipMany (match indent with
      | some d => min n (d - c.column)
      | none => n)
    let deepest := max deepest c.column
    match c.rest with
    | [] => some (deepest, breaks, c)
    | x :: _ =>
      if x = '\t' ∧ indent.all (c.column < ·) then none
      else if isBreak x then
        let (b, c) := c.skipBreak
        skipEmpty fuel indent deepest (b :: breaks) c
      else some (deepest, breaks, c)

/-- The text so far, its last character first, the break that ended its
last line, and the breaks of the empty lines after that. -/
structure Lines where
  text : List Char := []
  ended : Option Char := none
  empty : List Char := []
  /-- The last line starts with a blank. -/
  indented : Bool := false

namespace Lines

/-- The text with its breaks, as it stands before another line. In a folded
text the break between two lines that start with no blank becomes a space,
or goes if empty lines follow it. -/
def joined (l : Lines) (literal nextIndented : Bool) : List Char :=
  if !literal && l.ended = some '\n' && !l.indented && !nextIndented then
    l.empty ++ (if l.empty = [] then [' '] else []) ++ l.text
  else l.empty ++ l.ended.toList ++ l.text

/-- The text with the breaks at its end. -/
def finished (l : Lines) : Chomping → List Char
  | .strip => l.text
  | .clip => l.ended.toList ++ l.text
  | .keep => l.empty ++ l.ended.toList ++ l.text

end Lines

/-- The lines of a text of a known depth. -/
def readLines (fuel : Nat) (literal : Bool) (indent : Nat) (l : Lines) (c : Cursor) :
    Option (Lines × Cursor) :=
  match fuel with
  | 0 => none
  | fuel + 1 =>
    match c.rest with
    | [] => some (l, c)
    | x :: _ =>
      if c.column ≠ indent then some (l, c)
      else do
        let line := c.rest.takeWhile fun x => !isBreak x
        let text := line.reverse ++ l.joined literal (isBlank x)
        let c := c.skipMany line.length
        let (ended, c) := match c.rest with
          | [] => (none, c)
          | _ => (some c.skipBreak.1, c.skipBreak.2)
        let (_, empty, c) ← skipEmpty (fuel + 1) (some indent) 0 [] c
        readLines fuel literal indent ⟨text, ended, empty, isBlank x⟩ c

/-- A scalar after its indicator. `around` is the depth of what is around
it, `none` at the outermost level. -/
def read (fuel : Nat) (literal : Bool) (around : Option Nat) (c : Cursor) :
    Option (List Char × Cursor) := do
  let (header, c) ← readHeader c
  let c := (c.skipWhile isBlank).skipComment
  if !endsLine c.rest then none
  let c := if c.rest = [] then c else c.skipBreak.2
  let told := header.increment.map (around.getD 0 + ·)
  let (deepest, empty, c) ← skipEmpty fuel told 0 [] c
  let least := max 1 ((around.map (· + 1)).getD 0)
  let (l, c) ← readLines fuel literal (told.getD (max deepest least)) { empty } c
  some ((l.finished header.chomping).reverse, c)

end ServingOperator.Yaml.Block
