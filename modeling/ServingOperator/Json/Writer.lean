-- Writing JSON text: no blanks, the fields of an object in the order they
-- stand, and of the characters of a string only those escaped that must be.
import ServingOperator.Json.Value

namespace ServingOperator.Json

def hexDigit (n : Nat) : Char := Nat.digitChar n

/-- One character of a string as it is written. -/
def escaped (c : Char) : List Char :=
  if c = '"' then ['\\', '"']
  else if c = '\\' then ['\\', '\\']
  else if c = '\x08' then ['\\', 'b']
  else if c = '\x0c' then ['\\', 'f']
  else if c = '\n' then ['\\', 'n']
  else if c = '\r' then ['\\', 'r']
  else if c = '\t' then ['\\', 't']
  else if c.toNat < 0x20 then
    ['\\', 'u', '0', '0', hexDigit (c.toNat / 16), hexDigit (c.toNat % 16)]
  else [c]

def stringText (s : String) : List Char := '"' :: s.toList.flatMap escaped ++ ['"']

def intText (n : Int) : List Char :=
  if n < 0 then '-' :: Nat.toDigits 10 n.natAbs else Nat.toDigits 10 n.natAbs

mutual

/-- The text of a value. -/
def toChars : Json → List Char
  | null => ['n', 'u', 'l', 'l']
  | bool true => ['t', 'r', 'u', 'e']
  | bool false => ['f', 'a', 'l', 's', 'e']
  | int n => intText n
  | float x => x.toChars
  | str s => stringText s
  | arr items => '[' :: itemsText items ++ [']']
  | obj fields => '\x7b' :: fieldsText fields ++ ['\x7d']
  | unreadable => []

def itemsText : List Json → List Char
  | [] => []
  | [v] => toChars v
  | v :: w :: rest => toChars v ++ ',' :: itemsText (w :: rest)

def fieldsText : List (String × Json) → List Char
  | [] => []
  | [(k, v)] => stringText k ++ ':' :: toChars v
  | (k, v) :: f :: rest => stringText k ++ ':' :: toChars v ++ ',' :: fieldsText (f :: rest)

end

def toText (v : Json) : String := String.ofList v.toChars

end ServingOperator.Json
