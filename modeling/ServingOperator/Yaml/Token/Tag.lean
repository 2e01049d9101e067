-- Tags: a handle that stands for something longer, and a suffix. A tag in
-- angle brackets is written in full and has no handle.
import ServingOperator.Yaml.Token.Basic
import ServingOperator.Yaml.Token.Quoted

namespace ServingOperator.Yaml.Tag

/-- A character of a suffix. In angle brackets, and where a directive says
what a handle stands for, some flow indicators may stand as well. -/
def inSuffix (full : Bool) (c : Char) : Bool :=
  isWord c || c ∈ [';', '/', '?', ':', '@', '&', '=', '+', '$', '.', '%', '!', '~', '*', '\x27',
    '(', ')'] || (full && (c = ',' || c = '[' || c = ']'))

/-- The byte of a percent sign and two hexadecimal digits. -/
def byte? : List Char → Option Nat
  | '%' :: a :: b :: _ => hexadecimalPair a b
  | _ => none
where
  hexadecimalPair (a b : Char) : Option Nat := Quoted.hexadecimal? [a, b]

/-- How many bytes a character has in UTF-8 by its first byte, and the bits
of the character in that byte. -/
def leadByte? (b : Nat) : Option (Nat × Nat) :=
  if b < 0x80 then some (1, b)
  else if 0xc0 ≤ b ∧ b < 0xe0 then some (2, b - 0xc0)
  else if 0xe0 ≤ b ∧ b < 0xf0 then some (3, b - 0xe0)
  else if 0xf0 ≤ b ∧ b < 0xf8 then some (4, b - 0xf0)
  else none

/-- The bytes of a character after its first one, `n` of them. -/
def moreBytes : Nat → Nat → List Char → Option Nat
  | 0, v, _ => some v
  | n + 1, v, cs => do
    let b ← byte? cs
    if 0x80 ≤ b ∧ b < 0xc0 then moreBytes n (v * 64 + (b - 0x80)) (cs.drop 3) else none

/-- A character that is written by its bytes, and how many there are. -/
def escaped? (cs : List Char) : Option (Char × Nat) := do
  let (n, v) ← leadByte? (← byte? cs)
  let v ← moreBytes (n - 1) v (cs.drop 3)
  if v.isValidChar then some (Char.ofNat v, n) else none

/-- The characters of a suffix, after those that are known already, the
last one first. -/
def readSuffix (fuel : Nat) (full : Bool) (known : List Char) (c : Cursor) :
    Option (List Char × Cursor) :=
  match fuel with
  | 0 => none
  | fuel + 1 =>
    match c.rest with
    | [] => some (known.reverse, c)
    | x :: _ =>
      if !inSuffix full x then some (known.reverse, c)
      else if x = '%' then do
        let (e, n) ← escaped? c.rest
        readSuffix fuel full (e :: known) (c.skipMany (3 * n))
      else readSuffix fuel full (x :: known) c.skip

/-- A suffix, which must not be empty. -/
def readSuffix1 (fuel : Nat) (full : Bool) (c : Cursor) : Option (List Char × Cursor) :=
  (readSuffix fuel full [] c).filter (·.1 ≠ [])

/-- A handle: an exclamation mark, perhaps with a name and another mark
after it. -/
def readHandle (c : Cursor) : Option (List Char × Cursor) :=
  match c.rest with
  | '!' :: _ =>
    let after := c.skip
    let name := after.rest.takeWhile isWord
    let after := after.skipMany name.length
    match after.rest with
    | '!' :: _ => some ('!' :: name ++ ['!'], after.skip)
    | _ => some ('!' :: name, after)
  | _ => none

/-- A tag has to end here. In flow style a comma may follow it. -/
def ended (flow : Bool) (cs : List Char) : Bool :=
  endsWord cs || (flow && cs.head? = some ',')

/-- The handle and the suffix of a tag. What looks like a handle and has no
second mark belongs to the suffix. A mark alone is a suffix without
a handle. -/
def readParts (fuel : Nat) (c : Cursor) : Option ((List Char × List Char) × Cursor) :=
  match c.rest with
  | '!' :: '<' :: _ => do
    let (suffix, c) ← readSuffix1 fuel true (c.skipMany 2)
    if c.rest.head? = some '>' then some (([], suffix), c.skip) else none
  | _ => do
    let (handle, c) ← readHandle c
    if 1 < handle.length ∧ handle.getLast? = some '!' then
      let (suffix, c) ← readSuffix1 fuel false c
      some ((handle, suffix), c)
    else
      let (suffix, c) ← readSuffix fuel false (handle.drop 1).reverse c
      some (if suffix = [] then ([], ['!']) else (['!'], suffix), c)

def read (fuel : Nat) (flow : Bool) (c : Cursor) : Option (Token × Cursor) := do
  let ((handle, suffix), c) ← readParts fuel c
  if ended flow c.rest then some (.tag handle suffix, c) else none

end ServingOperator.Yaml.Tag
