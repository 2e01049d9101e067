-- Cutting text at a byte of its UTF-8 form. A character takes one to four
-- bytes there, so a cut can fall inside one.

namespace ServingOperator.Text

/-- The number of bytes of a text in UTF-8. -/
def byteLength (cs : List Char) : Nat := cs.foldl (fun n c => n + c.utf8Size) 0

/-- The characters that fill the first `n` bytes of a text, or all of it
when it has no more than `n` bytes. There is no such cut when byte `n`
falls inside a character. -/
def takeBytes? : Nat → List Char → Option (List Char)
  | _, [] => some []
  | 0, _ :: _ => some []
  | n + 1, c :: cs =>
    if c.utf8Size ≤ n + 1 then (takeBytes? (n + 1 - c.utf8Size) cs).map (c :: ·) else none

/-- The characters from one byte of a text up to another one. Neither may
fall inside a character. -/
def bytesBetween? (first last : Nat) (cs : List Char) : Option (List Char) := do
  let before ← takeBytes? first cs
  let all ← takeBytes? last cs
  some (all.drop before.length)

end ServingOperator.Text
