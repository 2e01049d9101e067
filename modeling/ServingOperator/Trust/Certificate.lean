-- Certificates that others are trusted by. What is looked at is whether
-- a certificate is one at all: signatures and dates do not matter for trust
-- that is given from the start.
import ServingOperator.Trust.Der

namespace ServingOperator.Trust.Certificate

open Der

/-- The extensions that are understood, by the last number of their names.
The first one is not looked at. -/
def keyUsage : UInt8 := 15

def understood : List UInt8 := [17, 19, 30, 37]

/-- The start of the names of the standard extensions. -/
def standardArc : List UInt8 := [0x55, 0x1d]

/-- An extension: its name, whether it has to be understood, and what it
says. -/
structure Extension where
  name : List UInt8
  critical : Bool
  value : List UInt8

/-- Reads a truth value. -/
def truth? (v : Der) : Option Bool :=
  match v.content? boolean with
  | some [0xff] => some true
  | some [0x00] => some false
  | _ => none

def extension? (v : Der) : Option Extension := do
  match ← v.inner? sequence with
  | [name, value] => some ⟨← name.content? objectIdentifier, false, ← value.content? octetString⟩
  | [name, critical, value] =>
    some ⟨← name.content? objectIdentifier, ← truth? critical, ← value.content? octetString⟩
  | _ => none

/-- The last number of the name of a standard extension. -/
def standard? (e : Extension) : Option UInt8 :=
  match e.name with
  | [a, b, n] => if [a, b] = standardArc then some n else none
  | _ => none

/-- An extension can stay: it is understood and well formed, or it need not
be understood. -/
def admits (e : Extension) : Bool :=
  match standard? e with
  | none => !e.critical
  | some n =>
    if n = keyUsage then true
    else if understood.contains n then ((value? e.value).bind (·.content? sequence)).isSome
    else !e.critical

/-- Extensions that are all admitted. None that is understood is there
twice. -/
def extensionsValid (es : List Extension) : Bool :=
  es.all admits && ((es.filterMap standard?).filter understood.contains).Nodup

/-- The third version, which is the one that has extensions. -/
def isThird (v : Der) : Bool :=
  match (v.content? (part 0)).bind value? with
  | some n => n.natural? = some 2
  | none => false

/-- What stands after the version: the number, the way of signing, the
issuer, the dates, the subject and the key. The rest is handed back. -/
def statement? (signing : List UInt8) : List Der → Option (List Der)
  | number :: way :: issuer :: dates :: subject :: key :: rest =>
    if number.tag = integer ∧ way.content? sequence = some signing ∧
        [issuer, dates, subject, key].all (·.tag = sequence) then
      some rest
    else none
  | _ => none

/-- What follows the key: nothing, or extensions. -/
def tailValid : List Der → Bool
  | [] => true
  | [v] =>
    match ((v.content? (part 3)).bind value?).bind (·.inner? sequence) with
    | some vs =>
      match vs.mapM extension? with
      | some es => extensionsValid es
      | none => false
    | none => false
  | _ => false

/-- The statement of a certificate holds together. Without a version it is
one of the first version, and has no extensions. -/
def statementValid (signing : List UInt8) : List Der → Bool
  | [] => false
  | v :: rest =>
    if v.tag = part 0 then isThird v && ((statement? signing rest).any tailValid)
    else
      match v :: rest with
      | [number, way, issuer, dates, subject, key] =>
        number.tag = integer && [way, issuer, dates, subject, key].all (·.tag = sequence)
      | _ => false

/-- Bytes that are a certificate: a statement, the way it is signed, and the
signature. -/
def isCertificate (bs : List UInt8) : Bool :=
  match (value? bs).bind (·.inner? sequence) with
  | some [statement, way, signature] =>
    match statement.inner? sequence, way.content? sequence, signature.wholeBits? with
    | some vs, some signing, some _ => statementValid signing vs
    | _, _, _ => false
  | _ => false

end ServingOperator.Trust.Certificate
