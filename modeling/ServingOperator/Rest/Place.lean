-- Reading paths: which objects of which kind a path leads to.
import ServingOperator.Rest.Target

namespace ServingOperator.Rest

/-- What a path leads to: the objects of a kind, in one namespace or in the
whole cluster, or the one of them that has a name. -/
structure Place where
  kind : Kind
  ns : Option String
  name : Option String
  deriving DecidableEq, Repr

namespace Place

/-- The place that is reached from the path of the group of a kind. -/
def ofSegments? (k : Kind) : List String → Option Place
  | [collection] => if collection = plural k then some ⟨k, none, none⟩ else none
  | [namespaces, ns, collection] =>
    if namespaces = "namespaces" ∧ collection = plural k then some ⟨k, some ns, none⟩ else none
  | [namespaces, ns, collection, name] =>
    if namespaces = "namespaces" ∧ collection = plural k then some ⟨k, some ns, some name⟩ else none
  | _ => none

/-- The place that a path leads to. -/
def ofPath? (path : List Char) : Option Place :=
  [Kind.intent, Kind.workload, Kind.endpoint].findSome? fun k =>
    ((Text.pieces '/' (groupPath k).toList).isPrefixOf? (Text.pieces '/' path)).bind fun rest =>
      ofSegments? k (rest.map String.ofList)

end Place

end ServingOperator.Rest
