-- Private keys: numbers for the way of signing that is named with them, or
-- that is plain from their form.
import ServingOperator.Trust.Der

namespace ServingOperator.Trust.PrivateKey

open Der

/-- The names of the ways of signing and of their curves. -/
def rsa : List UInt8 := [0x2a, 0x86, 0x48, 0x86, 0xf7, 0x0d, 0x01, 0x01, 0x01]
def ellipticCurve : List UInt8 := [0x2a, 0x86, 0x48, 0xce, 0x3d, 0x02, 0x01]
def curve256 : List UInt8 := [0x2a, 0x86, 0x48, 0xce, 0x3d, 0x03, 0x01, 0x07]
def curve384 : List UInt8 := [0x2b, 0x81, 0x04, 0x00, 0x22]
def edwards : List UInt8 := [0x2b, 0x65, 0x70]

/-- How many bits a modulus has. -/
def bits (n : Nat) : Nat := if n = 0 then 0 else n.log2 + 1

/-- The numbers of a key by two primes belong together, and the modulus is
neither too short nor too long. -/
def rsaNumbersValid : List Nat → Bool
  | [version, n, e, d, p, q, dp, dq, qi] =>
    version = 0 && 2048 ≤ bits n && bits n ≤ 4096 && 65537 ≤ e && e % 2 = 1 && p * q = n && q < p &&
      d < n && d * e % (p - 1) = 1 && d * e % (q - 1) = 1 && dp = d % (p - 1) &&
      dq = d % (q - 1) && q * qi % p = 1
  | _ => false

def isRsa (bs : List UInt8) : Bool :=
  match ((value? bs).bind (·.inner? sequence)).bind (·.mapM natural?) with
  | some ns => rsaNumbersValid ns
  | none => false

/-- A point of a curve as both of its coordinates, of so many bytes. -/
def isPoint (size : Nat) (v : Der) : Bool :=
  match (v.content? (part 1)).bind fun c => (value? c).bind wholeBits? with
  | some (form :: rest) => form = 0x04 && rest.length = 2 * size
  | _ => false

/-- A key for a curve: a number of so many bytes, and the point for it. -/
def isCurveKey (size : Nat) (bs : List UInt8) : Bool :=
  match (value? bs).bind (·.inner? sequence) with
  | some (version :: number :: rest) =>
    version.natural? = some 1 && (number.content? octetString).any (·.length = size) &&
      match rest with
      | [point] => isPoint size point
      | [parameters, point] => parameters.tag = part 0 && isPoint size point
      | _ => false
  | _ => false

/-- A key together with the name of the way of signing. -/
def isNamed (bs : List UInt8) : Bool :=
  match (value? bs).bind (·.inner? sequence) with
  | some (version :: way :: key :: rest) =>
    match version.natural?, way.inner? sequence, key.content? octetString with
    | some v, some (name :: parameters), some key =>
      match name.content? objectIdentifier, parameters with
      | some n, [p] =>
        if n = rsa then v = 0 && p = ⟨null, []⟩ && isRsa key
        else if n = ellipticCurve then
          v = 0 && rest = [] &&
            ((p = ⟨objectIdentifier, curve256⟩ && isCurveKey 32 key) ||
              (p = ⟨objectIdentifier, curve384⟩ && isCurveKey 48 key))
        else false
      | some n, [] =>
        n = edwards && v ≤ 1 &&
          ((value? key).bind (·.content? octetString)).any (·.length = 32)
      | _, _ => false
    | _, _, _ => false
  | _ => false

/-- Bytes that are a private key which can be used for signing. -/
def isPrivateKey (bs : List UInt8) : Bool :=
  isRsa bs || isNamed bs || isCurveKey 32 bs || isCurveKey 48 bs

end ServingOperator.Trust.PrivateKey
