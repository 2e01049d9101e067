-- The metadata every object carries, and the references from an object to
-- its owners.
import ServingOperator.Json.Decode

namespace ServingOperator

/-- A reference from an object to one that owns it. -/
structure OwnerReference where
  apiVersion : String := ""
  kind : String := ""
  name : String := ""
  uid : String := ""
  controller : Option Bool := none
  blockOwnerDeletion : Option Bool := none
  deriving DecidableEq, Repr, Inhabited

/-- Who an object is, and what is noted about it. `ns` is its namespace. -/
structure Metadata where
  name : Option String := none
  generateName : Option String := none
  ns : Option String := none
  uid : Option String := none
  resourceVersion : Option String := none
  generation : Option Int64 := none
  labels : Option TextMap := none
  annotations : Option TextMap := none
  finalizers : Option (List String) := none
  ownerReferences : Option (List OwnerReference) := none
  deriving DecidableEq, Repr, Inhabited

namespace OwnerReference

def withField (o : OwnerReference) (key : String) (v : Json) : Decoded OwnerReference := do
  match key with
  | "apiVersion" => return { o with apiVersion := (← Decode.optional Decode.text v).getD "" }
  | "kind" => return { o with kind := (← Decode.optional Decode.text v).getD "" }
  | "name" => return { o with name := (← Decode.optional Decode.text v).getD "" }
  | "uid" => return { o with uid := (← Decode.optional Decode.text v).getD "" }
  | "controller" => return { o with controller := ← Decode.optional Decode.flag v }
  | "blockOwnerDeletion" => return { o with blockOwnerDeletion := ← Decode.optional Decode.flag v }
  | _ => return o

def decode : Json → Decoded OwnerReference := Decode.record "OwnerReference" withField {}

def encode (o : OwnerReference) : Json :=
  .obj ([("apiVersion", .str o.apiVersion)] ++
    Encode.optional "blockOwnerDeletion" Encode.flag o.blockOwnerDeletion ++
    Encode.optional "controller" Encode.flag o.controller ++
    [("kind", .str o.kind), ("name", .str o.name), ("uid", .str o.uid)])

end OwnerReference

namespace Metadata

/-- The name that an object goes by: its name, else the one its name is to
be generated from, else none at all. -/
def anyName (m : Metadata) : String := (m.name <|> m.generateName).getD ""

def withField (m : Metadata) (key : String) (v : Json) : Decoded Metadata := do
  match key with
  | "name" => return { m with name := ← Decode.optional Decode.text v }
  | "generateName" => return { m with generateName := ← Decode.optional Decode.text v }
  | "namespace" => return { m with ns := ← Decode.optional Decode.text v }
  | "uid" => return { m with uid := ← Decode.optional Decode.text v }
  | "resourceVersion" => return { m with resourceVersion := ← Decode.optional Decode.text v }
  | "generation" => return { m with generation := ← Decode.optional Decode.int64 v }
  | "labels" => return { m with labels := ← Decode.optional Decode.textMap v }
  | "annotations" => return { m with annotations := ← Decode.optional Decode.textMap v }
  | "finalizers" => return { m with finalizers := ← Decode.optional (Decode.list Decode.text) v }
  | "ownerReferences" =>
    return { m with ownerReferences := ← Decode.optional (Decode.list OwnerReference.decode) v }
  | _ => return m

def decode : Json → Decoded Metadata := Decode.record "ObjectMeta" withField {}

def encode (m : Metadata) : Json :=
  .obj (Encode.optional "annotations" Encode.textMap m.annotations ++
    Encode.optional "finalizers" (Encode.list Encode.text) m.finalizers ++
    Encode.optional "generateName" Encode.text m.generateName ++
    Encode.optional "generation" Encode.int64 m.generation ++
    Encode.optional "labels" Encode.textMap m.labels ++
    Encode.optional "name" Encode.text m.name ++
    Encode.optional "namespace" Encode.text m.ns ++
    Encode.optional "ownerReferences" (Encode.list OwnerReference.encode) m.ownerReferences ++
    Encode.optional "resourceVersion" Encode.text m.resourceVersion ++
    Encode.optional "uid" Encode.text m.uid)

end Metadata

end ServingOperator
