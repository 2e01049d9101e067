-- The nodes of YAML documents, as they are written. What a scalar means, and
-- which node a reference stands for, is not settled yet.

namespace ServingOperator.Yaml

inductive Node where
  /-- A scalar, and whether it is written without quotation marks. -/
  | scalar (tag : Option (List Char)) (text : List Char) (plain : Bool)
  | sequence (tag : Option (List Char)) (items : List Node)
  | mapping (tag : Option (List Char)) (entries : List (Node × Node))
  /-- A node that stands elsewhere, by its number. -/
  | reference (number : Nat)
  deriving Inhabited, Repr

/-- Nothing at all where a node could stand. -/
def Node.nothing : Node := .scalar none [] true

/-- A document: its node, the numbers of the nodes that are referred to, and
its size, which counts the nodes and the ends of collections. -/
structure Document where
  root : Node
  numbered : List (Nat × Node) := []
  size : Nat := 1
  deriving Inhabited, Repr

end ServingOperator.Yaml
