-- Floating-point numbers in double precision as exact values. A decimal is
-- rounded to the nearest one, ties to the even mantissa, and a number is
-- written with the fewest digits that round back to it.

namespace ServingOperator

/-- The number `mantissa * 2 ^ exponent` with its sign. Both signs of zero
exist. -/
structure Binary64 where
  negative : Bool
  mantissa : Nat
  exponent : Int
  deriving DecidableEq, Repr

/-- The decimal number `digits * 10 ^ exponent`. -/
structure Decimal where
  digits : Nat
  exponent : Int
  deriving DecidableEq, Repr

namespace Number

/-- The quotient rounded to the nearest natural number, ties to even. -/
def roundQuotient (n d : Nat) : Nat :=
  let q := n / d
  let r := n % d
  if 2 * r < d then q
  else if d < 2 * r then q + 1
  else if q % 2 = 0 then q else q + 1

/-- The fraction `n / d` times `base ^ e`, as numerator and denominator. -/
def scale (base : Nat) (n d : Nat) (e : Int) : Nat × Nat :=
  if 0 ≤ e then (n * base.pow e.toNat, d) else (n, d * base.pow (-e).toNat)

/-- The least exponent, that of the numbers nearest to zero. -/
def leastExponent : Int := -1074

/-- The greatest exponent. -/
def greatestExponent : Int := 971

/-- The exponent at which `n / d` has a mantissa of 53 bits. -/
def exponentFor (n d : Nat) : Int :=
  let q : Int := max ((n.log2 : Int) - d.log2 - 53) leastExponent
  let (n', d') := scale 2 n d (-q)
  if Nat.pow 2 53 ≤ n' / d' then q + 1 else q

end Number

namespace Binary64

def zero (negative : Bool) : Binary64 := ⟨negative, 0, Number.leastExponent⟩

/-- The number nearest to the fraction `n / d`, ties to the even mantissa.
A fraction that rounds beyond the greatest number has none. -/
def ofQuotient? (negative : Bool) (n d : Nat) : Option Binary64 :=
  if n = 0 then some (zero negative)
  else
    let q := Number.exponentFor n d
    let (n', d') := Number.scale 2 n d (-q)
    let m := Number.roundQuotient n' d'
    let (m, q) := if m = Nat.pow 2 53 then (Nat.pow 2 52, q + 1) else (m, q)
    if Number.greatestExponent < q then none
    else if m = 0 then some (zero negative)
    else some ⟨negative, m, q⟩

/-- The number nearest to a decimal. Decimals far out of range are settled
by their size, before any power of ten is taken. -/
def ofDecimal? (negative : Bool) (x : Decimal) : Option Binary64 :=
  if x.digits = 0 then some (zero negative)
  else if 400 < x.exponent then none
  else if (x.digits.log2 : Int) + 1 + 3 * x.exponent < -1200 then some (zero negative)
  else
    let (n, d) := Number.scale 10 x.digits 1 x.exponent
    ofQuotient? negative n d

/-- The product of two numbers, rounded to the nearest one. -/
def mul? (x y : Binary64) : Option Binary64 :=
  let (n, d) := Number.scale 2 (x.mantissa * y.mantissa) 1 (x.exponent + y.exponent)
  ofQuotient? (x.negative != y.negative) n d

/-- The quotient of two numbers, rounded to the nearest one. -/
def div? (x y : Binary64) : Option Binary64 :=
  if y.mantissa = 0 then none
  else
    let (n, d) := Number.scale 2 x.mantissa y.mantissa (x.exponent - y.exponent)
    ofQuotient? (x.negative != y.negative) n d

/-- The place of the first digit of `n / d`: the greatest `p` with
`10 ^ p ≤ n / d`. The logarithm to base two gives it up to two places. -/
def firstPlace (n d : Nat) : Int :=
  let low : Int := (((n.log2 : Int) - d.log2) * 1233) / 4096 - 1
  (List.range 4).foldl (fun p _ =>
    let (n', d') := Number.scale 10 n d (-(p + 1))
    if d' ≤ n' then p + 1 else p) low

/-- The two neighbours of `n / d` among the multiples of `10 ^ p`, the
nearer one first. Of two equally near ones the even one is first. -/
def neighbours (n d : Nat) (p : Int) : List Decimal :=
  let (n', d') := Number.scale 10 n d (-p)
  let below : Decimal := ⟨n' / d', p⟩
  let above : Decimal := ⟨n' / d' + 1, p⟩
  let belowFirst :=
    if 2 * (n' % d') < d' then true
    else if d' < 2 * (n' % d') then false
    else below.digits % 2 = 0
  if belowFirst then [below, above] else [above, below]

/-- The decimal with the fewest digits among those that round to `x`, and
the nearest of these to `x`. -/
def shortest (x : Binary64) : Decimal :=
  if x.mantissa = 0 then ⟨0, 0⟩
  else
    let (n, d) := Number.scale 2 x.mantissa 1 x.exponent
    let first := firstPlace n d
    let found := (List.range 17).findSome? fun (k : Nat) =>
      (neighbours n d (first - k)).find? fun c => ofDecimal? x.negative c = some x
    found.getD ⟨n / d, 0⟩

/-! ## Text of a number -/

/-- Whether a number is written without an exponent. The decimal point then
stands no more than four places before the first digit and no more than
sixteen after it: numbers from 0.00001 up to 10 ^ 16. -/
def inFull (point : Int) : Bool := decide (-4 ≤ point) && decide (point ≤ 16)

/-- The exponent of a number, always with its sign. -/
def exponentChars (e : Int) : List Char :=
  'e' :: (if e < 0 then '-' else '+') :: Nat.toDigits 10 e.natAbs

/-- A number as text: the fewest digits that read back. A number that is
written without an exponent always has a decimal point. -/
def toChars (x : Binary64) : List Char :=
  let s := x.shortest
  let ds := Nat.toDigits 10 s.digits
  let kept := (ds.reverse.dropWhile (· = '0')).reverse
  let (ds, e) := if s.digits = 0 then (['0'], (0 : Int))
    else (kept, s.exponent + (ds.length - kept.length : Nat))
  let point : Int := ds.length + e
  let body :=
    if inFull point then
      if 0 ≤ e then ds ++ List.replicate e.toNat '0' ++ ['.', '0']
      else if 0 < point then ds.take point.toNat ++ '.' :: ds.drop point.toNat
      else '0' :: '.' :: List.replicate (-point).toNat '0' ++ ds
    else
      match ds with
      | d :: d' :: rest => d :: '.' :: d' :: rest ++ exponentChars (point - 1)
      | ds => ds ++ exponentChars (point - 1)
  if x.negative then '-' :: body else body

end Binary64

end ServingOperator
