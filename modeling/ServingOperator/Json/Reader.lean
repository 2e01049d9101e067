-- Reading JSON text. The reader takes one value and nothing but blanks
-- around it, and refuses control characters in strings. Numbers with a
-- fraction or an exponent are read from the digits that 64 bits hold and
-- one power of ten, each step rounded. A text is read strictly, where
-- nothing unreadable is let through and nesting has a limit, or loosely,
-- for readers that pass by what they have no use for.
import ServingOperator.Json.Value
import ServingOperator.Number.Literal

namespace ServingOperator.Json.Reader

open Number (digitsValue spanDigits)

/-- The part of a text that is still to be read. -/
abbrev Rest := List Char

def isBlank (c : Char) : Bool := c = ' ' || c = '\n' || c = '\t' || c = '\r'

def skipBlanks (cs : Rest) : Rest := cs.dropWhile isBlank

/-- How many arrays and objects may stand inside each other. -/
def depthLimit : Nat := 127

/-! ## Numbers -/

/-- A fraction: a point with a digit after it, or nothing at all. -/
def fraction (cs : Rest) : Option (List Char × Rest) :=
  match cs with
  | '.' :: rest =>
    match spanDigits rest with
    | ([], _) => none
    | r => some r
  | _ => some ([], cs)

/-- An exponent, if there is one. -/
def exponent (cs : Rest) : Option (Option Int × Rest) :=
  let signed : Rest → Option (Option Int × Rest) := fun rest =>
    let (negative, rest) := match rest with
      | '-' :: r => (true, r)
      | '+' :: r => (false, r)
      | r => (false, r)
    match spanDigits rest with
    | ([], _) => none
    | (ds, r) =>
      let n : Int := digitsValue ds
      some (some (if negative then -n else n), r)
  match cs with
  | 'e' :: rest => signed rest
  | 'E' :: rest => signed rest
  | _ => some (none, cs)

/-- A significand taken on by digits as long as 64 bits hold it, and how
many digits that are. -/
def takeDigits (significand : Nat) : List Char → Nat × Nat
  | [] => (significand, 0)
  | c :: rest =>
    let next := significand * 10 + (c.toNat - '0'.toNat)
    if Nat.pow 2 64 ≤ next then (significand, 0)
    else
      let (m, n) := takeDigits next rest
      (m, n + 1)

/-- The greatest power of ten that is a floating-point number. -/
def greatestPower : Nat := 308

/-- A number times a power of ten, by one step if such a power is a
floating-point number. Each further step divides by the greatest power;
`fuel` bounds their number, and two bring every significand to zero. -/
def timesPower (fuel : Nat) (x : Binary64) (e : Int) : Option Binary64 :=
  match fuel with
  | 0 => some x
  | fuel + 1 => do
    if e.natAbs ≤ greatestPower then
      let power ← Binary64.ofDecimal? false ⟨1, e.natAbs⟩
      if 0 ≤ e then x.mul? power else x.div? power
    else if x.mantissa = 0 then some x
    else if 0 ≤ e then none
    else
      let power ← Binary64.ofDecimal? false ⟨1, greatestPower⟩
      timesPower fuel (← x.div? power) (e + greatestPower)

/-- The floating-point number that digits, a fraction and an exponent
spell. Digits of the whole part that do not fit raise the exponent, and
those of the fraction are left out. -/
def floatValue (negative : Bool) (whole fraction : List Char) (exponent : Int) :
    Option Binary64 := do
  let (m, n) := takeDigits 0 whole
  let (m, k) := takeDigits m fraction
  let x ← Binary64.ofQuotient? false m 1
  let x ← timesPower 4 x (exponent + whole.length - n - k)
  some { x with negative := negative }

/-- The value of a number by its parts. A whole number that fits 64 bits is
an integer, with the exception of minus zero. -/
def numberValue (negative : Bool) (whole fraction : List Char) (exponent : Option Int) : Json :=
  let n := digitsValue whole
  if fraction = [] ∧ exponent = none ∧
      (if negative then n ≠ 0 ∧ n ≤ Nat.pow 2 63 else n < Nat.pow 2 64) then
    .int (if negative then -n else n)
  else
    ((floatValue negative whole fraction (exponent.getD 0)).map Json.float).getD .unreadable

def number (cs : Rest) : Option (Json × Rest) := do
  let (negative, cs) := match cs with
    | '-' :: r => (true, r)
    | r => (false, r)
  let (whole, cs) := spanDigits cs
  if whole = [] then none
  if whole.head? = some '0' ∧ 1 < whole.length then none
  let (frac, cs) ← fraction cs
  let (exp, cs) ← exponent cs
  some (numberValue negative whole frac exp, cs)

/-! ## Strings -/

def hexValue (c : Char) : Option Nat :=
  if c.isDigit then some (c.toNat - '0'.toNat)
  else if 'a' ≤ c ∧ c ≤ 'f' then some (c.toNat - 'a'.toNat + 10)
  else if 'A' ≤ c ∧ c ≤ 'F' then some (c.toNat - 'A'.toNat + 10)
  else none

/-- Four hexadecimal digits. -/
def hex4 (a b c d : Char) : Option Nat := do
  let a ← hexValue a
  let b ← hexValue b
  let c ← hexValue c
  let d ← hexValue d
  some (((a * 16 + b) * 16 + c) * 16 + d)

def simpleEscape (c : Char) : Option Char :=
  match c with
  | '"' => some '"'
  | '\\' => some '\\'
  | '/' => some '/'
  | 'b' => some '\x08'
  | 'f' => some '\x0c'
  | 'n' => some '\n'
  | 'r' => some '\r'
  | 't' => some '\t'
  | _ => none

/-- The characters of a string up to its closing mark, the last one first,
or `none` once half a surrogate pair has come by. -/
def stringChars : Option (List Char) → Rest → Option (Option (List Char) × Rest)
  | acc, '"' :: rest => some (acc, rest)
  | acc, '\\' :: 'u' :: a :: b :: c :: d :: rest =>
    match hex4 a b c d with
    | none => none
    | some n =>
      if 0xd800 ≤ n ∧ n < 0xdc00 then
        match rest with
        | '\\' :: 'u' :: a :: b :: c :: d :: rest =>
          match hex4 a b c d with
          | none => none
          | some m =>
            if 0xdc00 ≤ m ∧ m < 0xe000 then
              let e := Char.ofNat (0x10000 + (n - 0xd800) * 0x400 + (m - 0xdc00))
              stringChars (acc.map (e :: ·)) rest
            else stringChars none rest
        | rest => stringChars none rest
      else if 0xdc00 ≤ n ∧ n < 0xe000 then stringChars none rest
      else stringChars (acc.map (Char.ofNat n :: ·)) rest
  | acc, '\\' :: c :: rest =>
    match simpleEscape c with
    | none => none
    | some e => stringChars (acc.map (e :: ·)) rest
  | acc, c :: rest => if c.toNat < 0x20 then none else stringChars (acc.map (c :: ·)) rest
  | _, [] => none

/-- A string after its opening mark, `none` in place of its text if it
holds half a surrogate pair. -/
def string (cs : Rest) : Option (Option String × Rest) :=
  (stringChars (some []) cs).map fun (acc, rest) =>
    (acc.map fun cs => String.ofList cs.reverse, rest)

/-! ## Values -/

/-- A text that starts with `word`, less the word. -/
def keyword? (word : List Char) (cs : Rest) : Option Rest :=
  if cs.take word.length = word then some (cs.drop word.length) else none

mutual

/-- One value. `fuel` bounds the calls that are still allowed, `depth` the
arrays and objects that may still be opened. -/
def value (fuel depth : Nat) (cs : Rest) : Option (Json × Rest) :=
  match fuel with
  | 0 => none
  | fuel + 1 =>
    match skipBlanks cs with
    | 'n' :: rest => (keyword? ['u', 'l', 'l'] rest).map (.null, ·)
    | 't' :: rest => (keyword? ['r', 'u', 'e'] rest).map (.bool true, ·)
    | 'f' :: rest => (keyword? ['a', 'l', 's', 'e'] rest).map (.bool false, ·)
    | '"' :: rest => (string rest).map fun (s, rest) => ((s.map .str).getD .unreadable, rest)
    | '[' :: rest =>
      match depth with
      | 0 => none
      | depth + 1 =>
        match skipBlanks rest with
        | ']' :: rest => some (.arr [], rest)
        | rest => (items fuel depth rest []).map fun (vs, rest) => (.arr vs, rest)
    | '\x7b' :: rest =>
      match depth with
      | 0 => none
      | depth + 1 =>
        match skipBlanks rest with
        | '\x7d' :: rest => some (.obj [], rest)
        | rest =>
          (fields fuel depth rest (some [])).map fun (fs, rest) =>
            ((fs.map .obj).getD .unreadable, rest)
    | cs => number cs

/-- The items of an array and its closing bracket. -/
def items (fuel depth : Nat) (cs : Rest) (acc : List Json) : Option (List Json × Rest) :=
  match fuel with
  | 0 => none
  | fuel + 1 =>
    match value fuel depth cs with
    | none => none
    | some (v, rest) =>
      match skipBlanks rest with
      | ',' :: rest => items fuel depth rest (v :: acc)
      | ']' :: rest => some ((v :: acc).reverse, rest)
      | _ => none

/-- The fields of an object and its closing brace, or `none` in place of
the fields once a key is unreadable. -/
def fields (fuel depth : Nat) (cs : Rest) (acc : Option (List (String × Json))) :
    Option (Option (List (String × Json)) × Rest) :=
  match fuel with
  | 0 => none
  | fuel + 1 =>
    match skipBlanks cs with
    | '"' :: rest =>
      match string rest with
      | none => none
      | some (key, rest) =>
        match skipBlanks rest with
        | ':' :: rest =>
          match value fuel depth rest with
          | none => none
          | some (v, rest) =>
            let acc := acc.bind fun fs => key.map fun k => (k, v) :: fs
            match skipBlanks rest with
            | ',' :: rest => fields fuel depth rest acc
            | '\x7d' :: rest => some (acc.map List.reverse, rest)
            | _ => none
        | _ => none
    | _ => none

end

end ServingOperator.Json.Reader

namespace ServingOperator.Json

/-- The value that a text spells, with at most `depth` arrays and objects
inside each other. Two calls for each character are enough to read any
text. -/
def ofChars? (depth : Nat) (cs : List Char) : Option Json :=
  match Reader.value (2 * cs.length + 2) depth cs with
  | some (v, rest) => if Reader.skipBlanks rest = [] then some v else none
  | none => none

/-- The value that a text spells, read strictly. -/
def ofString? (s : String) : Option Json :=
  (ofChars? Reader.depthLimit s.toList).filter readable

/-- The value that a text spells, read loosely: unreadable parts stay where
they are, and values nest as deep as the text goes. -/
def ofLooseString? (s : String) : Option Json :=
  let cs := s.toList
  ofChars? cs.length cs

end ServingOperator.Json
