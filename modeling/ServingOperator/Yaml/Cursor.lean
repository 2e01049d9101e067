-- Where a reader of YAML text stands: the characters that are left, and the
-- line and the column of the first of them.
import ServingOperator.Number.Literal

namespace ServingOperator.Yaml

/-- A character that may stand in YAML text. Controls other than tabs and
line breaks may not. -/
def isPrintable (c : Char) : Bool :=
  c = '\t' || c = '\n' || c = '\r' || (' ' ≤ c && c ≤ '~') || c = '\u0085' ||
    (0xa0 ≤ c.toNat && c.toNat ≤ 0xfffd) || 0x10000 ≤ c.toNat

def isBlank (c : Char) : Bool := c = ' ' || c = '\t'

/-- A character that ends a line. -/
def isBreak (c : Char) : Bool :=
  c = '\n' || c = '\r' || c = '\u0085' || c = '\u2028' || c = '\u2029'

/-- A character of the names of anchors, directives and tag handles. -/
def isWord (c : Char) : Bool := (c.isAlphanum && c.toNat < 0x80) || c = '_' || c = '-'

/-- The mark that can stand at the start of a text to say how it is encoded. -/
def isOrderMark (c : Char) : Bool := c = '\ufeff'

/-- The text ends a line here, or ends altogether. -/
def endsLine : List Char → Bool
  | [] => true
  | c :: _ => isBreak c

/-- A blank stands here, or the end of a line. -/
def endsWord : List Char → Bool
  | [] => true
  | c :: _ => isBlank c || isBreak c

/-- What is left of a text, how many characters were passed, and the line
and the column of the next one. -/
structure Cursor where
  rest : List Char
  index : Nat := 0
  line : Nat := 0
  column : Nat := 0

namespace Cursor

/-- One character is passed. -/
def skip (c : Cursor) : Cursor :=
  match c.rest with
  | [] => c
  | _ :: rest => { c with rest, index := c.index + 1, column := c.column + 1 }

/-- Some characters of a line are passed. -/
def skipMany : Nat → Cursor → Cursor
  | 0, c => c
  | n + 1, c => skipMany n c.skip

/-- The characters of a line that fulfil a condition are passed. -/
def skipWhile (p : Char → Bool) (c : Cursor) : Cursor :=
  let n := (c.rest.takeWhile p).length
  { c with rest := c.rest.drop n, index := c.index + n, column := c.column + n }

/-- A line break is passed, and what it counts as in a text: most breaks
count as a line feed. -/
def skipBreak (c : Cursor) : Char × Cursor :=
  match c.rest with
  | '\r' :: '\n' :: rest => ('\n', ⟨rest, c.index + 2, c.line + 1, 0⟩)
  | b :: rest =>
    (if b = '\u2028' || b = '\u2029' then b else '\n', ⟨rest, c.index + 1, c.line + 1, 0⟩)
  | [] => ('\n', c)

/-- A comment that starts here is passed. -/
def skipComment (c : Cursor) : Cursor :=
  match c.rest with
  | '#' :: _ => c.skipWhile fun x => !isBreak x
  | _ => c

/-- Three of this character stand at the start of a line, and nothing but
a blank or the end of the line follows them. -/
def atMarker (m : Char) (c : Cursor) : Bool :=
  c.column = 0 &&
    match c.rest with
    | x :: y :: z :: rest => x = m && y = m && z = m && endsWord rest
    | _ => false

/-- A document ends or another one starts here. -/
def atDocumentMarker (c : Cursor) : Bool := c.atMarker '-' || c.atMarker '.'

end Cursor

end ServingOperator.Yaml
