-- The values of YAML documents. References are followed to the nodes they
-- stand for, a limited number of times, so that a short text cannot spell
-- a value without end.
import ServingOperator.Yaml.Document
import ServingOperator.Yaml.Scalar

namespace ServingOperator.Yaml

namespace Node

/-- How many collections may stand inside each other. -/
def depthLimit : Nat := 128

/-- Keeps the tag of a collection, if it belongs to the document. -/
def withTag (tag : Option (List Char)) (v : Value) : Value :=
  match tag.bind localTag? with
  | some name => .tagged name v
  | none => v

/-- A step of reading, with the number of references that were followed. -/
abbrev Read? (α : Type) := StateT Nat Option α

def fault {α : Type} : Read? α := fun _ => none

/-- One more reference is followed. -/
def follow (limit : Nat) : Read? Unit := do
  modify (· + 1)
  if limit < (← get) then fault

mutual

/-- The value of a node. `depth` collections may still be opened, and `fuel`
bounds the calls inside each other. -/
def value (d : Document) (fuel depth : Nat) (n : Node) : Read? Value :=
  match fuel with
  | 0 => fault
  | fuel + 1 =>
    match n with
    | .scalar tag text plain =>
      match scalarValue? tag text plain with
      | some v => return v
      | none => fault
    | .sequence tag items =>
      match depth with
      | 0 => fault
      | depth + 1 => do return withTag tag (.sequence (← values d fuel depth items))
    | .mapping tag entries =>
      match depth with
      | 0 => fault
      | depth + 1 => do return withTag tag (.mapping (← entryValues d fuel depth [] entries))
    | .reference number => do
      follow (100 * d.size)
      match d.numbered.lookup number with
      | some n => value d fuel depth n
      | none => fault

def values (d : Document) (fuel depth : Nat) (items : List Node) : Read? (List Value) :=
  match fuel, items with
  | 0, _ => fault
  | _, [] => return []
  | fuel + 1, n :: rest => do return (← value d fuel depth n) :: (← values d fuel depth rest)

/-- The entries after those that are known already, the last one first. No
key may be there twice. -/
def entryValues (d : Document) (fuel depth : Nat) (known : List (Value × Value))
    (entries : List (Node × Node)) : Read? (List (Value × Value)) :=
  match fuel, entries with
  | 0, _ => fault
  | _, [] => return known.reverse
  | fuel + 1, (k, v) :: rest => do
    let k ← value d fuel depth k
    if known.any fun e => e.1.same k then fault
    let v ← value d fuel depth v
    entryValues d fuel depth ((k, v) :: known) rest

end

end Node

/-- The value of a document. At each depth the calls inside each other are
no more than the document has nodes. -/
def Document.value? (d : Document) : Option Value :=
  ((Node.value d ((Node.depthLimit + 2) * (d.size + 4)) Node.depthLimit d.root).run 0).map (·.1)

/-- The values of the documents of a text. -/
def documents? (text : String) : Option (List Value) := do
  (← Document.ofText? text.toList).mapM Document.value?

end ServingOperator.Yaml
