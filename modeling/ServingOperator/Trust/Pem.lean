-- Keys and certificates as text: bytes in base64 between two lines that name
-- what the bytes are. There are two ways to read such text. One takes it as
-- a whole and refuses it for anything wrong in it, the other one goes by lines.
import ServingOperator.Text.Base64
import ServingOperator.Text.Blank

namespace ServingOperator.Trust

abbrev Bytes := List UInt8

/-- A named run of bytes. -/
structure PemSection where
  label : String
  content : Bytes
  deriving DecidableEq, Repr

namespace Pem

def bytesOf (s : String) : Bytes := s.toUTF8.toList

/-- What stands before the first occurrence of a word, and what follows it. -/
def splitAt? (word : Bytes) : Bytes → Option (Bytes × Bytes)
  | [] => if word = [] then some ([], []) else none
  | b :: rest =>
    if word.isPrefixOf (b :: rest) then some ([], (b :: rest).drop word.length)
    else (splitAt? word rest).map fun (before, after) => (b :: before, after)

def opening : Bytes := bytesOf "-----BEGIN "

def closing : Bytes := bytesOf "-----END "

def dashes : Bytes := bytesOf "-----"

def isSpace (b : UInt8) : Bool := b = 0x20 || b = 0x09 || b = 0x0a || b = 0x0d

/-- The text of bytes. -/
def textOf? (bs : Bytes) : Option String := String.fromUTF8? ⟨bs.toArray⟩

/-- The lines of a text, without their breaks. -/
def linesOf (s : String) : List (List Char) :=
  let lessReturn := fun cs : List Char => if cs.getLast? = some '\r' then cs.dropLast else cs
  match (s.splitOn "\n").reverse with
  | [] => []
  | last :: lines =>
    (if last = "" then lines else last :: lines).reverse.map fun l => lessReturn l.toList

/-- The bytes in base64 of a text of several lines. -/
def contentOf? (s : String) : Option Bytes :=
  Text.base64? ((linesOf s).flatMap fun l => (l.reverse.dropWhile Text.blank).reverse)

/-- The label of certificates. -/
def certificateLabel : String := "CERTIFICATE"

/-- A text that ends in a break, unless it is empty. -/
def endedLine (bs : Bytes) : Bytes :=
  match bs.getLast? with
  | none => bs
  | some b => if b = 0x0a then bs else bs ++ [0x0a]

/-! ## As a whole -/

/-- The parts of a section: its two labels and what stands between them. -/
structure Cut where
  first : Bytes
  last : Bytes
  headers : Bytes
  body : Bytes

/-- The next section of a text, and what follows it. Headers stand before an
empty line. -/
def cut? (bs : Bytes) : Option (Cut × Bytes) := do
  let (_, bs) ← splitAt? opening bs
  let (first, bs) ← splitAt? dashes bs
  let (inner, bs) ← splitAt? closing (bs.dropWhile isSpace)
  let (last, bs) ← splitAt? dashes bs
  let (headers, body) :=
    match splitAt? (bytesOf "\n\n") inner with
    | some parts => parts
    | none => (splitAt? (bytesOf "\r\n\r\n") inner).getD ([], inner)
  some (⟨first, last, headers, body⟩, bs.dropWhile isSpace)

/-- A section that is cut out. Its labels agree, its headers have a colon
each, and the rest is base64. -/
def section? (c : Cut) : Option PemSection := do
  let label ← textOf? c.first
  if label = "" ∨ c.last ≠ c.first then none
  let content ← contentOf? (← textOf? c.body)
  if (linesOf (← textOf? c.headers)).all (·.contains ':') then some ⟨label, content⟩ else none

/-- The sections of a text, none of which may be at fault. -/
def sections? (fuel : Nat) (bs : Bytes) : Option (List PemSection) :=
  match fuel with
  | 0 => some []
  | fuel + 1 =>
    match cut? bs with
    | none => some []
    | some (c, rest) => do return (← section? c) :: (← sections? fuel rest)

/-- All sections of a text. Each takes some of its bytes. -/
def read? (bs : Bytes) : Option (List PemSection) := sections? (bs.length + 1) bs

/-! ## By lines -/

/-- Lines with their breaks. -/
def linesWithBreaks : Bytes → List Bytes
  | [] => []
  | b :: rest =>
    if b = 0x0a then [b] :: linesWithBreaks rest
    else
      match linesWithBreaks rest with
      | [] => [[b]]
      | l :: ls => (b :: l) :: ls

/-- A break, or a blank before it. -/
def endsLine (b : UInt8) : Bool := b = 0x0a || b = 0x0d || b = 0x20

/-- A line less what ends it. -/
def trimEnd (line : Bytes) : Bytes := (line.reverse.dropWhile endsLine).reverse

def dash : UInt8 := 0x2d

/-- The label of an opening line. Five dashes follow it, and blanks do not
matter among them. -/
def label? (line : Bytes) : Option Bytes :=
  let back := (line.drop opening.length).reverse
  let tail := back.takeWhile fun b => b = dash || endsLine b
  if tail.count dash = 5 then
    some ((back.drop tail.length).reverse ++ tail.reverse.takeWhile (· ≠ dash))
  else none

/-- The bytes of base64, whether or not there is padding. There is no more of
it than there has to be elsewhere. -/
def bytesOf64? (bs : Bytes) : Option Bytes :=
  let cs := bs.map fun b => Char.ofNat b.toNat
  let digits := (cs.reverse.dropWhile (· = '=')).reverse
  let missing := (4 - digits.length % 4) % 4
  if cs.length ≤ digits.length + missing then
    Text.base64? (digits ++ List.replicate missing '=')
  else none

/-- The sections of lines. `inside` is the label of the section that is open
and what was read of it. -/
def lineSections? (inside : Option (Bytes × Bytes)) : List Bytes → Option (List PemSection)
  | [] => if inside.isNone then some [] else none
  | line :: rest =>
    if opening.isPrefixOf line then do
      let label ← label? line
      lineSections? (some (label, (inside.map (·.2)).getD [])) rest
    else
      match inside with
      | none => lineSections? none rest
      | some (label, body) =>
        if (closing ++ label ++ dashes).isPrefixOf line then do
          let content ← bytesOf64? body
          let more ← lineSections? none rest
          some (⟨(textOf? label).getD "", content⟩ :: more)
        else lineSections? (some (label, body ++ trimEnd line)) rest

/-- All sections of a text, by lines. -/
def readLines? (bs : Bytes) : Option (List PemSection) := lineSections? none (linesWithBreaks bs)

end Pem

end ServingOperator.Trust
