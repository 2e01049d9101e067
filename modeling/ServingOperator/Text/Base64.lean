-- Base64: bytes as letters, digits and two signs, four for three bytes, with
-- equals signs in place of what is missing at the end.

namespace ServingOperator.Text

/-- The six bits that a character stands for. -/
def sextet? (c : Char) : Option Nat :=
  if 'A' ≤ c ∧ c ≤ 'Z' then some (c.toNat - 'A'.toNat)
  else if 'a' ≤ c ∧ c ≤ 'z' then some (c.toNat - 'a'.toNat + 26)
  else if '0' ≤ c ∧ c ≤ '9' then some (c.toNat - '0'.toNat + 52)
  else if c = '+' then some 62
  else if c = '/' then some 63
  else none

/-- The bytes of a number of 24 bits, the first `n` of them. -/
def leadingBytes (n : Nat) (v : Nat) : List UInt8 :=
  [UInt8.ofNat (v / 0x10000), UInt8.ofNat (v / 0x100), UInt8.ofNat v].take n

/-- The bytes that a text stands for. The bits that are left over at its end
have to be zero. -/
def base64? : List Char → Option (List UInt8)
  | [] => some []
  | [a, b, '=', '='] => do
    let v := (← sextet? a) * 64 + (← sextet? b)
    if v % 16 = 0 then some (leadingBytes 1 (v * 4096)) else none
  | [a, b, c, '='] => do
    let v := ((← sextet? a) * 64 + (← sextet? b)) * 64 + (← sextet? c)
    if v % 4 = 0 then some (leadingBytes 2 (v * 64)) else none
  | a :: b :: c :: d :: rest => do
    let v := (((← sextet? a) * 64 + (← sextet? b)) * 64 + (← sextet? c)) * 64 + (← sextet? d)
    some (leadingBytes 3 v ++ (← base64? rest))
  | _ => none

end ServingOperator.Text
