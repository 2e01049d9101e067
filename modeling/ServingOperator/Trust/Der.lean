-- Values as bytes: a tag, a length in as few bytes as it takes, and the
-- content, which can hold more values.

namespace ServingOperator.Trust

/-- A value: its tag and its content. -/
structure Der where
  tag : UInt8
  content : List UInt8
  deriving DecidableEq, Repr

namespace Der

def boolean : UInt8 := 0x01
def integer : UInt8 := 0x02
def bitString : UInt8 := 0x03
def octetString : UInt8 := 0x04
def null : UInt8 := 0x05
def objectIdentifier : UInt8 := 0x06
def sequence : UInt8 := 0x30

/-- The tag of a part that is told by its number. -/
def part (n : UInt8) : UInt8 := 0xa0 + n

/-- The most bytes that the content of a value can have. -/
def longest : Nat := 0xffff

/-- A length, and what follows it. -/
def length? : List UInt8 → Option (Nat × List UInt8)
  | 0x81 :: a :: rest => if 0x80 ≤ a then some (a.toNat, rest) else none
  | 0x82 :: a :: b :: rest => if 0 < a then some (a.toNat * 0x100 + b.toNat, rest) else none
  | a :: rest => if a < 0x80 then some (a.toNat, rest) else none
  | [] => none

/-- The first value of some bytes, and what follows it. -/
def read? : List UInt8 → Option (Der × List UInt8)
  | [] => none
  | tag :: rest => do
    let (n, rest) ← length? rest
    if tag % 0x20 = 0x1f ∨ longest < n ∨ rest.length < n then none
    else some (⟨tag, rest.take n⟩, rest.drop n)

/-- All values of some bytes. -/
def readAll? (fuel : Nat) (bs : List UInt8) : Option (List Der) :=
  match fuel, bs with
  | _, [] => some []
  | 0, _ => none
  | fuel + 1, bs => do
    let (v, rest) ← read? bs
    return v :: (← readAll? fuel rest)

/-- The values of some bytes, of which each takes two at least. -/
def values? (bs : List UInt8) : Option (List Der) := readAll? bs.length bs

/-- The one value that some bytes are. -/
def value? (bs : List UInt8) : Option Der :=
  match read? bs with
  | some (v, []) => some v
  | _ => none

/-- The content of a value with a tag. -/
def content? (tag : UInt8) (v : Der) : Option (List UInt8) :=
  if v.tag = tag then some v.content else none

/-- The values in a value with a tag. -/
def inner? (tag : UInt8) (v : Der) : Option (List Der) := (v.content? tag).bind values?

/-- A number that is not negative, in as few bytes as it takes. -/
def natural? (v : Der) : Option Nat := do
  let bs ← v.content? integer
  let n := bs.foldl (fun n b => n * 0x100 + b.toNat) 0
  match bs with
  | [] => none
  | [a] => if a < 0x80 then some n else none
  | a :: b :: _ => if (a = 0 ∧ 0x80 ≤ b) ∨ (0 < a ∧ a < 0x80) then some n else none

/-- The bytes of a run of bits that fills its bytes. -/
def wholeBits? (v : Der) : Option (List UInt8) := do
  match ← v.content? bitString with
  | 0 :: bytes => some bytes
  | _ => none

end Der

end ServingOperator.Trust
