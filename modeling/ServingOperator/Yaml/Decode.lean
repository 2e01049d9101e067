-- Reading records from YAML values. Tags do not matter where a certain kind
-- of value is wanted, and nothing counts as an empty collection.
import ServingOperator.Pairs
import ServingOperator.Yaml.Value

namespace ServingOperator.Yaml.Value

def text? (v : Value) : Option String :=
  match v.untagged with
  | .text s => some s
  | _ => none

def flag? (v : Value) : Option Bool :=
  match v.untagged with
  | .bool b => some b
  | _ => none

/-- A list of values, each read in turn. -/
def list? {α : Type} (read : Value → Option α) (v : Value) : Option (List α) :=
  match v.untagged with
  | .sequence items => items.mapM read
  | .null => some []
  | _ => none

/-- A map from text to text. -/
def textMap? (v : Value) : Option TextMap :=
  match v.untagged with
  | .mapping entries =>
    entries.foldlM (fun m e => do some (m.insert (← e.1.text?) (← e.2.text?))) .empty
  | .null => some .empty
  | _ => none

/-- One of several names, or the name as the tag of nothing. -/
def name? (names : List String) (v : Value) : Option String :=
  match v with
  | .text s => if s ∈ names then some s else none
  | .tagged tag .null => if tagName tag ∈ names then some (tagName tag) else none
  | _ => none

mutual

/-- A value that JSON text can spell: it has no tags, and its keys are
texts. -/
def isJson : Value → Bool
  | sequence items => areJson items
  | mapping entries => entriesAreJson entries
  | tagged _ _ => false
  | _ => true

def areJson : List Value → Bool
  | [] => true
  | v :: rest => isJson v && areJson rest

def entriesAreJson : List (Value × Value) → Bool
  | [] => true
  | (k, v) :: rest => k.text?.isSome && isJson v && entriesAreJson rest

end

end ServingOperator.Yaml.Value

namespace ServingOperator.Yaml

/-! ## Records -/

/-- A field of a record, and whether it may be missing in a record that is
written as a list. In a mapping any field may be left out that can be
nothing. -/
structure Field where
  name : String
  hasDefault : Bool := false
  deriving DecidableEq, Repr

/-- Fields by their names, and those of the names that may be missing in
a list. -/
def Field.listed (names : List String) (withDefault : List String := []) : List Field :=
  names.map fun n => ⟨n, withDefault.contains n⟩

/-- The fields of a record that are there. -/
abbrev Fields := List (String × Value)

namespace Fields

/-- The fields of a record that is written as a mapping. Keys are texts, and
those of the fields stand there once at most. -/
def ofEntries? (fields : List Field) (entries : List (Value × Value)) : Option Fields := do
  let named ← entries.mapM fun e => e.1.text?.map fun k => (k, e.2)
  let known := named.filter fun e => fields.any (·.name = e.1)
  if (known.map (·.1)).Nodup then some known else none

/-- The fields of a record that is written as a list, in their order. -/
def ofItems? (fields : List Field) (items : List Value) : Option Fields :=
  if items.length ≤ fields.length ∧ (fields.drop items.length).all (·.hasDefault) then
    some ((fields.map (·.name)).zip items)
  else none

/-- The fields of a record. -/
def of? (fields : List Field) (v : Value) : Option Fields :=
  match v.untagged with
  | .mapping entries => ofEntries? fields entries
  | .sequence items => ofItems? fields items
  | .null => some []
  | _ => none

/-- A field that must be there. -/
def required {α : Type} (fs : Fields) (name : String) (read : Value → Option α) : Option α :=
  (fs.lookup name).bind read

/-- A field that may be left out or be nothing. -/
def perhaps {α : Type} (fs : Fields) (name : String) (read : Value → Option α) :
    Option (Option α) :=
  match fs.lookup name with
  | none => some none
  | some .null => some none
  | some v => (read v).map some

/-- A field that may be left out, but stands for something then. -/
def orElse {α : Type} (fs : Fields) (name : String) (standard : α) (read : Value → Option α) :
    Option α :=
  match fs.lookup name with
  | none => some standard
  | some v => read v

end Fields

end ServingOperator.Yaml
