-- Scalars between quotation marks. Between single ones nothing is special
-- but the mark itself, which is doubled. Between double ones a backslash
-- makes a character of the text after it.
import ServingOperator.Yaml.Token.Folding

namespace ServingOperator.Yaml.Quoted

/-- The characters that have an escape of their own. -/
def escapes : List (Char × Char) :=
  [('0', '\x00'), ('a', '\x07'), ('b', '\x08'), ('t', '\t'), ('\t', '\t'), ('n', '\n'),
    ('v', '\x0b'), ('f', '\x0c'), ('r', '\r'), ('e', '\x1b'), (' ', ' '), ('"', '"'), ('/', '/'),
    ('\\', '\\'), ('N', '\u0085'), ('_', '\u00a0'), ('L', '\u2028'), ('P', '\u2029')]

/-- How many hexadecimal digits an escape by number has. -/
def escapeDigits : List (Char × Nat) := [('x', 2), ('u', 4), ('U', 8)]

def hexValue? (c : Char) : Option Nat :=
  if c.isDigit then some (c.toNat - '0'.toNat)
  else if 'a' ≤ c ∧ c ≤ 'f' then some (c.toNat - 'a'.toNat + 10)
  else if 'A' ≤ c ∧ c ≤ 'F' then some (c.toNat - 'A'.toNat + 10)
  else none

/-- The value of hexadecimal digits. -/
def hexadecimal? (cs : List Char) : Option Nat :=
  cs.foldlM (fun n c => (hexValue? c).map (n * 16 + ·)) 0

/-- The character of an escape after its backslash, and how many characters
the escape takes. -/
def escape? : List Char → Option (Char × Nat)
  | [] => none
  | e :: rest =>
    match escapes.lookup e with
    | some c => some (c, 1)
    | none => do
      let n ← escapeDigits.lookup e
      if rest.length < n then none
      let v ← hexadecimal? (rest.take n)
      if v.isValidChar then some (Char.ofNat v, n + 1) else none

/-- The next character between double quotation marks, if a character
stands there: what it adds to the text, and what follows it. -/
def readDouble (f : Folding) (c : Cursor) : Option (Folding × Cursor) :=
  match c.rest with
  | '\\' :: x :: rest =>
    if isBreak x then some (f.escapedNewline, c.skip.skipBreak.2)
    else (escape? (x :: rest)).map fun (e, n) => (f.push e, c.skipMany (n + 1))
  | x :: _ => if x = '\\' then none else some (f.push x, c.skip)
  | [] => none

/-- The same between single quotation marks. -/
def readSingle (f : Folding) (c : Cursor) : Option (Folding × Cursor) :=
  match c.rest with
  | '\x27' :: '\x27' :: _ => some (f.push '\x27', c.skipMany 2)
  | x :: _ => some (f.push x, c.skip)
  | [] => none

/-- The closing mark stands here. -/
def atEnd (single : Bool) (c : Cursor) : Bool :=
  match c.rest with
  | '"' :: _ => !single
  | '\x27' :: '\x27' :: _ => false
  | '\x27' :: _ => single
  | _ => false

/-- A scalar after its opening mark, up to and with its closing mark. No
document may end in it. -/
def read (fuel : Nat) (single : Bool) (f : Folding) (c : Cursor) : Option (List Char × Cursor) :=
  match fuel with
  | 0 => none
  | fuel + 1 =>
    if c.atDocumentMarker then none
    else if atEnd single c then some (f.settled.reverse, c.skip)
    else
      match c.rest with
      | [] => none
      | x :: _ =>
        if isBlank x || isBreak x then do
          let (f, c) ← f.skipSpace (fuel + 1) 0 c
          read fuel single f c
        else do
          let (f, c) ← if single then readSingle f c else readDouble f c
          read fuel single f c

end ServingOperator.Yaml.Quoted
