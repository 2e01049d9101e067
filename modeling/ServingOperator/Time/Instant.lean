-- Points in time as they are written: a date, a time of day, and how far the
-- clock there is from the one that all others go by.
import ServingOperator.Number.Literal
import ServingOperator.Text.Blank

namespace ServingOperator

/-- A point in time, as seconds since the start of 1970. -/
structure Instant where
  seconds : Int
  deriving DecidableEq, Repr

namespace Instant

/-! ## The calendar -/

def isLeapYear (y : Int) : Bool := y % 4 = 0 && (y % 100 ≠ 0 || y % 400 = 0)

def daysInMonth (y : Int) (m : Nat) : Nat :=
  if m = 2 then if isLeapYear y then 29 else 28
  else if m = 4 ∨ m = 6 ∨ m = 9 ∨ m = 11 then 30
  else 31

/-- The days before a year, counted from the start of year 0. -/
def daysBeforeYear (y : Int) : Int :=
  let p := y - 1
  365 * y + p / 4 - p / 100 + p / 400 + 1

/-- The days before a month of a year. -/
def daysBeforeMonth (y : Int) (m : Nat) : Nat :=
  ((List.range m).drop 1).foldl (fun days k => days + daysInMonth y k) 0

/-- The days of a date since the start of 1970. -/
def dayNumber (y : Int) (m d : Nat) : Int :=
  daysBeforeYear y - daysBeforeYear 1970 + daysBeforeMonth y m + d - 1

/-- The years that there are dates for. -/
def firstYear : Int := -262143

def lastYear : Int := 262142

def isDate (y : Int) (m d : Nat) : Bool :=
  firstYear ≤ y && y ≤ lastYear && 1 ≤ m && m ≤ 12 && 1 ≤ d && d ≤ daysInMonth y m

/-! ## Reading -/

abbrev Rest := List Char

def skipBlanks (cs : Rest) : Rest := cs.dropWhile Text.blank

/-- A number of at most so many digits. -/
def digits (most : Nat) (cs : Rest) : Option (Nat × Rest) :=
  let ds := (cs.take most).takeWhile Char.isDigit
  if ds = [] then none else some (Number.digitsValue ds, cs.drop ds.length)

/-- The same after blanks. -/
def number (most : Nat) (cs : Rest) : Option (Nat × Rest) := digits most (skipBlanks cs)

/-- A year of four digits, or of any number of digits after a sign. -/
def year (cs : Rest) : Option (Int × Rest) :=
  match skipBlanks cs with
  | '-' :: rest => (digits rest.length rest).map fun (n, rest) => (-n, rest)
  | '+' :: rest => (digits rest.length rest).map fun (n, rest) => (n, rest)
  | rest => (digits 4 rest).map fun (n, rest) => (n, rest)

/-- A sign between two numbers, perhaps after blanks. -/
def sign (c : Char) (cs : Rest) : Option Rest :=
  match skipBlanks cs with
  | x :: rest => if x = c then some rest else none
  | [] => none

/-- What stands between the date and the time of day. -/
def separator (cs : Rest) : Option Rest :=
  match cs with
  | x :: rest => if x = 'T' ∨ x = 't' ∨ x = ' ' then some rest else none
  | [] => none

/-- A fraction of a second. It makes no difference. -/
def fraction (cs : Rest) : Option Rest :=
  match cs with
  | '.' :: rest => (digits rest.length rest).map (·.2)
  | _ => some cs

/-- Two digits with nothing before them. -/
def twoDigits (cs : Rest) : Option (Nat × Rest) :=
  match cs with
  | a :: b :: rest =>
    if a.isDigit && b.isDigit then some (Number.digitsValue [a, b], rest) else none
  | _ => none

/-- The distance from the common clock in seconds. -/
def offset (cs : Rest) : Option (Int × Rest) := do
  let signed (negative : Bool) (cs : Rest) : Option (Int × Rest) := do
    let (h, cs) ← twoDigits cs
    let (m, cs) ← twoDigits (cs.dropWhile fun c => c = ':' || Text.blank c)
    let n : Int := h * 3600 + m * 60
    if 60 ≤ m ∨ 24 ≤ h then none else some (if negative then -n else n, cs)
  if (cs.take 3).map Char.toLower = ['u', 't', 'c'] then some (0, cs.drop 3)
  else
    match cs with
    | 'Z' :: rest => some (0, rest)
    | 'z' :: rest => some (0, rest)
    | '+' :: rest => signed false rest
    | '-' :: rest => signed true rest
    | '\u2212' :: rest => signed true rest
    | _ => none

/-- Reads a point in time. -/
def ofChars? (cs : List Char) : Option Instant := do
  let (y, cs) ← year cs
  let (m, cs) ← number 2 (← sign '-' cs)
  let (d, cs) ← number 2 (← sign '-' cs)
  let (hour, cs) ← number 2 (← separator cs)
  let (minute, cs) ← number 2 (← sign ':' cs)
  let (second, cs) ← number 2 (← sign ':' cs)
  let (away, cs) ← offset (skipBlanks (← fraction cs))
  if skipBlanks cs = [] ∧ isDate y m d ∧ hour < 24 ∧ minute < 60 ∧ second ≤ 60 then
    some ⟨dayNumber y m d * 86400 + hour * 3600 + minute * 60 + second - away⟩
  else none

end Instant

end ServingOperator
