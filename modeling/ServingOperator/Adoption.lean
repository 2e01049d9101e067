-- What a child gets before it is written: a reference to its intent, and,
-- if it is stored already, the fields that belong to the API server.
import ServingOperator.Failure

namespace ServingOperator

/-- The reference from a child to an intent that owns it. The intent is not
deleted before the child is. -/
def OwnerReference.toIntent (name uid : String) : OwnerReference :=
  { apiVersion := Intent.apiVersion
    kind := Intent.kind
    name
    uid
    controller := some true
    blockOwnerDeletion := some true }

/-- Makes an intent the one owner of an object. The uid is asked for before
the name. -/
def attachOwner {k : Kind} (parent : Intent) (o : k.Object) :
    Except (Report OwnershipError) k.Object :=
  match parent.metadata.uid, parent.metadata.name with
  | none, _ => .error (.of (.missingOwnerField Intent.kind "metadata.uid"))
  | some _, none => .error (.of (.missingOwnerField Intent.kind "metadata.name"))
  | some uid, some name =>
    .ok (Kind.withMetadata o
      { Kind.metadata o with ownerReferences := some [.toIntent name uid] })

/-- A workload takes over the version of the stored one. -/
def Workload.carryOver (desired current : Workload) : Workload :=
  { desired with
    metadata := { desired.metadata with resourceVersion := current.metadata.resourceVersion } }

/-- The addresses of a stored endpoint, put into a desired one. -/
def EndpointSpec.carryOver (desired current : EndpointSpec) : EndpointSpec :=
  { desired with clusterIP := current.clusterIP, clusterIPs := current.clusterIPs }

/-- An endpoint takes over the version of the stored one, and its addresses
if both say what they want to be. -/
def Endpoint.carryOver (desired current : Endpoint) : Endpoint :=
  { desired with
    metadata := { desired.metadata with resourceVersion := current.metadata.resourceVersion }
    spec := match desired.spec, current.spec with
      | some d, some c => some (d.carryOver c)
      | d, _ => d }

/-- A child with what the API server gave to the stored one. -/
def Child.carryOver : {c : Child} → (desired current : c.Object) → c.Object
  | .workload, desired, current => Workload.carryOver desired current
  | .endpoint, desired, current => Endpoint.carryOver desired current

end ServingOperator
