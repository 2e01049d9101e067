-- The values that YAML text spells.
import ServingOperator.Number.Binary64

namespace ServingOperator.Yaml

/-- A floating-point number. YAML has words for those that no digits spell. -/
inductive Real where
  | finite (x : Binary64)
  | infinite (negative : Bool)
  | notANumber
  deriving DecidableEq, Repr

/-- Two numbers are the same: zero has no sign here. -/
def Real.same : Real → Real → Bool
  | finite x, finite y => x = y || (x.mantissa = 0 && y.mantissa = 0)
  | x, y => x = y

inductive Value where
  | null
  | bool (b : Bool)
  | int (n : Int)
  | real (x : Real)
  | text (s : String)
  | sequence (items : List Value)
  | mapping (entries : List (Value × Value))
  /-- A value with the name of what it is meant to be. -/
  | tagged (tag : String) (v : Value)
  deriving Inhabited, Repr

namespace Value

/-- A tag without the mark before its name. -/
def tagName (tag : String) : String :=
  match tag.toList with
  | '!' :: c :: rest => String.ofList (c :: rest)
  | _ => tag

mutual

/-- Two values are the same. The order of the entries of a mapping does not
matter. -/
def same : Value → Value → Bool
  | null, null => true
  | bool a, bool b => a = b
  | int a, int b => a = b
  | real a, real b => a.same b
  | text a, text b => a = b
  | sequence a, sequence b => sameItems a b
  | mapping a, mapping b => a.length = b.length && sameEntries a b
  | tagged s a, tagged t b => tagName s = tagName t && same a b
  | _, _ => false

def sameItems : List Value → List Value → Bool
  | [], [] => true
  | a :: as, b :: bs => same a b && sameItems as bs
  | _, _ => false

/-- Each entry has one like it in another mapping. -/
def sameEntries : List (Value × Value) → List (Value × Value) → Bool
  | [], _ => true
  | (k, v) :: rest, b => sameIn k v b && sameEntries rest b

def sameIn (k v : Value) : List (Value × Value) → Bool
  | [] => false
  | (k', v') :: rest => (same k k' && same v v') || sameIn k v rest

end

/-- A value without its tags. -/
def untagged : Value → Value
  | tagged _ v => untagged v
  | v => v

end Value

end ServingOperator.Yaml
