-- What scalars mean. A plain scalar can mean nothing, a truth value or
-- a number instead of the text it spells. A tag can ask for one of these.
import ServingOperator.Number.Literal
import ServingOperator.Yaml.Value

namespace ServingOperator.Yaml

def nulls : List String := ["~", "null", "Null", "NULL"]

def truths : List String := ["true", "True", "TRUE"]

def falsehoods : List String := ["false", "False", "FALSE"]

def truth? (s : String) : Option Bool :=
  if s ∈ truths then some true else if s ∈ falsehoods then some false else none

/-! ## Whole numbers -/

def digitValue? (c : Char) : Option Nat :=
  if c.isDigit then some (c.toNat - '0'.toNat)
  else if 'a' ≤ c ∧ c ≤ 'f' then some (c.toNat - 'a'.toNat + 10)
  else if 'A' ≤ c ∧ c ≤ 'F' then some (c.toNat - 'A'.toNat + 10)
  else none

/-- The value of digits to a base. There is one digit at least. -/
def digitsTo (base : Nat) (cs : List Char) : Option Nat :=
  if cs = [] then none
  else
    cs.foldlM (fun n c => do
      let d ← digitValue? c
      if d < base then some (base * n + d) else none) 0

/-- The sign of a number, negative or not, and what follows it. -/
def sign (cs : List Char) : Bool × List Char :=
  match cs with
  | '-' :: rest => (true, rest)
  | '+' :: rest => (false, rest)
  | rest => (false, rest)

/-- Digits after a needless zero are no number but a text. -/
def paddedDigits (cs : List Char) : Bool :=
  match (sign cs).2 with
  | '0' :: rest => rest ≠ [] && rest.all Char.isDigit
  | _ => false

/-- A whole number without its sign: decimal digits, with no zero before
others, or digits after the mark of another base. -/
def natural? (cs : List Char) : Option Nat :=
  match cs with
  | '0' :: 'x' :: rest => digitsTo 16 rest
  | '0' :: 'o' :: rest => digitsTo 8 rest
  | '0' :: 'b' :: rest => digitsTo 2 rest
  | _ => if paddedDigits cs then none else digitsTo 10 cs

/-- How a text spells a whole number, by the bits that it takes: not at all,
in 64 bits, or in so many that it cannot be read. What takes even more than
128 bits is taken for something else again. -/
inductive Whole where
  | no
  | fits (n : Int)
  | tooLarge

def whole (cs : List Char) : Whole :=
  let (negative, digits) := sign cs
  match natural? digits with
  | none => .no
  | some n =>
    if negative then
      if n ≤ Nat.pow 2 63 then .fits (-n) else if n ≤ Nat.pow 2 127 then .tooLarge else .no
    else if n < Nat.pow 2 64 then .fits n
    else if n < Nat.pow 2 128 then .tooLarge
    else .no

/-! ## Floating-point numbers -/

/-- The words for a number beyond all others, without a sign. -/
def infinities : List String := [".inf", ".Inf", ".INF"]

def notNumbers : List String := [".nan", ".NaN", ".NAN"]

/-- A floating-point number. Digits that spell one beyond the greatest are
no number. -/
def real? (cs : List Char) : Option Real :=
  let (negative, digits) := sign cs
  if String.ofList digits ∈ infinities then some (.infinite negative)
  else if String.ofList cs ∈ notNumbers then some .notANumber
  else do
    let x ← Binary64.ofDecimal? negative (← Number.decimal? digits)
    some (.finite x)

/-! ## Scalars -/

/-- What a plain scalar means. A whole number that cannot be read is at
fault. -/
def meaning? (cs : List Char) : Option Value :=
  let s := String.ofList cs
  if cs = [] ∨ s ∈ nulls then some .null
  else
    match truth? s with
    | some b => some (.bool b)
    | none =>
      match whole cs with
      | .fits n => some (.int n)
      | .tooLarge => none
      | .no =>
        match if paddedDigits cs then none else real? cs with
        | some x => some (.real x)
        | none => some (.text s)

/-- A plain scalar that means the text it spells. -/
def isText (cs : List Char) : Bool :=
  match meaning? cs with
  | some (.text _) => !paddedDigits cs
  | _ => false

/-- The start of the tags that are the same everywhere. -/
def coreTags : String := "tag:yaml.org,2002:"

/-- What a scalar means that has a tag of no document in particular. Most of
these leave it the text it spells. -/
def tagMeaning? (tag : String) (cs : List Char) : Option Value :=
  let s := String.ofList cs
  if tag = coreTags ++ "bool" then (truth? s).map .bool
  else if tag = coreTags ++ "int" then
    match whole cs with
    | .fits n => some (.int n)
    | _ => none
  else if tag = coreTags ++ "float" then (real? cs).map .real
  else if tag = coreTags ++ "null" then if s ∈ nulls then some .null else none
  else some (.text s)

/-- The name in a tag that belongs to a document. -/
def localTag? (tag : List Char) : Option String :=
  match tag with
  | ['!'] => some "!"
  | '!' :: name => some (String.ofList name)
  | _ => none

/-- The value of a scalar. One with a tag of the document keeps the tag. -/
def scalarValue? (tag : Option (List Char)) (cs : List Char) (plain : Bool) : Option Value :=
  let bare := if plain then meaning? cs else some (.text (String.ofList cs))
  match tag with
  | none => bare
  | some t =>
    match localTag? t with
    | some name => bare.map (.tagged name)
    | none => tagMeaning? (String.ofList t) cs

end ServingOperator.Yaml
