-- JSON values. Integers and floating-point numbers are apart, as a number
-- written with a fraction is never taken for an integer. The fields of an
-- object keep the order they were written in. A text can spell a value that
-- nothing can be made of; it has a place here, so that a reader who has no
-- use for it can pass it by.
import ServingOperator.Number.Binary64
import ServingOperator.Pairs
import ServingOperator.Text.Quoted

namespace ServingOperator

/-- A JSON value. `unreadable` is a number beyond all floating-point
numbers, text with half a surrogate pair, or an object with such a key. -/
inductive Json where
  | null
  | bool (b : Bool)
  | int (n : Int)
  | float (x : Binary64)
  | str (s : String)
  | arr (items : List Json)
  | obj (fields : List (String × Json))
  | unreadable
  deriving Inhabited, Repr

namespace Json

mutual

/-- The value with the fields of every object in rising order of their
keys, and one field for each key, the last one written. -/
def canonical : Json → Json
  | arr items => arr (canonicalItems items)
  | obj fields => obj (canonicalFields [] fields)
  | v => v

def canonicalItems : List Json → List Json
  | [] => []
  | v :: rest => canonical v :: canonicalItems rest

def canonicalFields (sorted : List (String × Json)) : List (String × Json) → List (String × Json)
  | [] => sorted
  | (k, v) :: rest => canonicalFields (Pairs.insert k (canonical v) sorted) rest

end

mutual

/-- Nothing in the value is unreadable. -/
def readable : Json → Bool
  | arr items => readableItems items
  | obj fields => readableFields fields
  | unreadable => false
  | _ => true

def readableItems : List Json → Bool
  | [] => true
  | v :: rest => readable v && readableItems rest

def readableFields : List (String × Json) → Bool
  | [] => true
  | (_, v) :: rest => readable v && readableFields rest

end

/-- The value of a field, the first of that key. -/
def field? (key : String) : Json → Option Json
  | obj fields => fields.lookup key
  | _ => none

/-- The value that a path of keys leads to. -/
def at? (path : List String) (v : Json) : Option Json := path.foldlM (fun v key => v.field? key) v

def str? : Json → Option String
  | str s => some s
  | _ => none

def int? : Json → Option Int
  | int n => some n
  | _ => none

def bool? : Json → Option Bool
  | bool b => some b
  | _ => none

def items? : Json → Option (List Json)
  | arr items => some items
  | _ => none

/-- The object with a field set, or set anew. -/
def withField (v : Json) (key : String) (value : Json) : Json :=
  match v with
  | obj fields => obj (fields.filter (·.1 ≠ key) ++ [(key, value)])
  | v => v

/-- The object without a field. -/
def withoutField (key : String) : Json → Json
  | obj fields => obj (fields.filter (·.1 ≠ key))
  | v => v

/-- What a value is, as messages about a misplaced value say it. -/
def describe : Json → String
  | null => "null"
  | bool b => "boolean `" ++ (if b then "true" else "false") ++ "`"
  | int n => "integer `" ++ toString n ++ "`"
  | float x => "floating point `" ++ String.ofList x.toChars ++ "`"
  | str s => "string " ++ Text.quoted s
  | arr _ => "sequence"
  | obj _ => "map"
  | unreadable => "unreadable"

end Json

end ServingOperator
