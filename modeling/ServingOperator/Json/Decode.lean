-- Reading typed values from JSON. A reader says what it wanted when it
-- gets something else. The fields of a record are read in the order they
-- stand, and the first bad one ends the reading.
import ServingOperator.Json.Value

namespace ServingOperator

/-- Why a JSON value is not the value that was wanted. -/
inductive DecodeError where
  | invalidType (got : Json) (want : String)
  | invalidValue (got : Json) (want : String)
  | missingField (name : String)
  | duplicateField (name : String)
  | invalidLength (length : Nat) (want : String)
  deriving Repr

def DecodeError.message : DecodeError → String
  | invalidType got want => "invalid type: " ++ got.describe ++ ", expected " ++ want
  | invalidValue got want => "invalid value: " ++ got.describe ++ ", expected " ++ want
  | missingField name => "missing field `" ++ name ++ "`"
  | duplicateField name => "duplicate field `" ++ name ++ "`"
  | invalidLength length want => "invalid length " ++ toString length ++ ", expected " ++ want

abbrev Decoded (α : Type) := Except DecodeError α

namespace Decode

def text : Json → Decoded String
  | .str s => .ok s
  | v => .error (.invalidType v "a string")

def flag : Json → Decoded Bool
  | .bool b => .ok b
  | v => .error (.invalidType v "a boolean")

/-- An integer in the range of 32 bits. -/
def int32 : Json → Decoded Int32
  | .int n =>
    if Int32.minValue.toInt ≤ n ∧ n ≤ Int32.maxValue.toInt then .ok (Int32.ofInt n)
    else .error (.invalidValue (.int n) "i32")
  | v => .error (.invalidType v "i32")

/-- An integer in the range of 64 bits. -/
def int64 : Json → Decoded Int64
  | .int n =>
    if Int64.minValue.toInt ≤ n ∧ n ≤ Int64.maxValue.toInt then .ok (Int64.ofInt n)
    else .error (.invalidValue (.int n) "i64")
  | v => .error (.invalidType v "i64")

/-- A natural number in the range of 16 bits. -/
def uint16 : Json → Decoded UInt16
  | .int n =>
    if 0 ≤ n ∧ n < UInt16.size then .ok (UInt16.ofNat n.toNat)
    else .error (.invalidValue (.int n) "u16")
  | v => .error (.invalidType v "u16")

/-- A value that may be `null`, which is to say unset. -/
def optional {α : Type} (read : Json → Decoded α) : Json → Decoded (Option α)
  | .null => .ok none
  | v => (read v).map some

/-- A list of values, each read in turn. -/
def list {α : Type} (read : Json → Decoded α) : Json → Decoded (List α)
  | .arr items => items.mapM read
  | v => .error (.invalidType v "a sequence")

/-- A map from text to text. -/
def textMap : Json → Decoded TextMap
  | .obj fields => fields.foldlM (fun m f => (text f.2).map (m.insert f.1)) .empty
  | v => .error (.invalidType v "a map")

/-- A record: `field` takes up one field after the other, from `start`. -/
def record {α : Type} (want : String) (field : α → String → Json → Decoded α) (start : α) :
    Json → Decoded α
  | .obj fields => fields.foldlM (fun a f => field a f.1 f.2) start
  | v => .error (.invalidType v want)

/-- A record that may be written as an object or as the list of its fields.
An object must hold each field of `required` and may hold each of `known`
once. -/
def strictRecord {α : Type} (want : String) (known required : List String)
    (field : α → String → Json → Decoded α) (start : α) (positional : List Json → Decoded α) :
    Json → Decoded α
  | .obj fields =>
    match known.find? fun k => 1 < fields.countP (·.1 = k) with
    | some k => .error (.duplicateField k)
    | none => do
      let a ← fields.foldlM (fun a f => field a f.1 f.2) start
      match required.find? fun k => !fields.any (·.1 = k) with
      | some k => .error (.missingField k)
      | none => .ok a
  | .arr items => positional items
  | v => .error (.invalidType v want)

/-- The field at a place of a list, unset if the list ends before it. -/
def place {α : Type} (read : Json → Decoded α) (items : List Json) (i : Nat) : Decoded (Option α) :=
  match items[i]? with
  | some v => optional read v
  | none => .ok none

/-- A text that must be the one wanted. -/
def exactly (want : String) (v : Json) : Decoded Unit := do
  let s ← text v
  if s = want then .ok () else .error (.invalidValue v want)

/-- A field of a record that must be there. -/
def required {α : Type} (key : String) (read : Json → Decoded α) (v : Json) : Decoded α :=
  match v.field? key with
  | some x => read x
  | none => .error (.missingField key)

/-- A field of a record that may be unset. -/
def perhaps {α : Type} (key : String) (read : Json → Decoded α) (v : Json) : Decoded (Option α) :=
  match v.field? key with
  | some x => optional read x
  | none => .ok none

end Decode

/-! ## Writing -/

namespace Encode

/-- A field that is written only if it is set. -/
def optional {α : Type} (key : String) (write : α → Json) : Option α → List (String × Json)
  | none => []
  | some a => [(key, write a)]

def text (s : String) : Json := .str s

def int32 (n : Int32) : Json := .int n.toInt

def int64 (n : Int64) : Json := .int n.toInt

def flag (b : Bool) : Json := .bool b

def list {α : Type} (write : α → Json) (l : List α) : Json := .arr (l.map write)

def textMap (m : TextMap) : Json := .obj (m.entries.map fun p => (p.1, .str p.2))

end Encode

end ServingOperator
