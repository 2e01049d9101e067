-- Watching a cluster: where the controller looks, and which intents
-- a change concerns.
import ServingOperator.Rest.Target

namespace ServingOperator.Cluster

/-- Where the controller looks: one namespace, or the whole cluster. -/
abbrev Scope := Option String

namespace Scope

/-- The paths at which the objects of each kind are listed and watched. -/
def paths (scope : Scope) : List String :=
  [Kind.endpoint, Kind.workload, Kind.intent].map fun k => Rest.collectionPath k scope

/-- The objects of a namespace are in the scope. -/
def holds (scope : Scope) (ns : String) : Bool := Option.all (· = ns) scope

end Scope

/-- The names of the intents that own an object. -/
def intentOwners (m : Metadata) : List String :=
  ((m.ownerReferences.getD []).filter fun o =>
    o.apiVersion = Intent.apiVersion && o.kind = Intent.kind).map (·.name)

/-- The intents that a change of an object concerns: an intent itself, and
the owners of a child, which live where the child lives. -/
def concerned {k : Kind} (i : Identity) (o : k.Object) : List Identity :=
  match k with
  | .intent => [i]
  | _ => (intentOwners (Kind.metadata o)).map fun name => ⟨i.ns, name⟩

end ServingOperator.Cluster
