-- The intent: an object of kind ModelDeployment, which says what model is
-- to be served and how. Values that are unset, or make no sense, stand for
-- defaults.
import ServingOperator.Manifest.Metadata

namespace ServingOperator

/-- What is to be served. -/
structure IntentSpec where
  modelName : String := ""
  replicas : Option Int32 := none
  maxModelLength : Option Int32 := none
  runtime : Option String := none
  nodeSelectorLabels : Option TextMap := none
  deriving DecidableEq, Repr, Inhabited

structure Intent where
  metadata : Metadata := {}
  spec : IntentSpec := {}
  deriving DecidableEq, Repr, Inhabited

namespace Intent

/-- The group that the kind belongs to. -/
def group : String := "kaimera.ai"

def version : String := "v1"

def apiVersion : String := "kaimera.ai/v1"

def kind : String := "ModelDeployment"

def plural : String := "modeldeployments"

def shortName : String := "md"

end Intent

/-! ## Defaults -/

namespace IntentSpec

/-- The least count of replicas. It stands for an unset or smaller one. -/
def minReplicas : Int32 := 1

/-- The context length that stands for an unset one or one below 1. -/
def defaultMaxModelLength : Int32 := 512

def effectiveReplicas (s : IntentSpec) : Int32 := max (s.replicas.getD 0) minReplicas

def effectiveMaxModelLength (s : IntentSpec) : Int32 :=
  match s.maxModelLength with
  | some n => if 0 < n then n else defaultMaxModelLength
  | none => defaultMaxModelLength

/-- The runtime that is asked for. None and the empty one are the same. -/
def runtimeSelector (s : IntentSpec) : String := s.runtime.getD ""

end IntentSpec

/-! ## JSON form -/

namespace IntentSpec

/-- The fields in the order in which a list gives them. -/
def fieldNames : List String :=
  ["modelName", "replicas", "maxModelLength", "runtime", "nodeSelectorLabels"]

def withField (s : IntentSpec) (key : String) (v : Json) : Decoded IntentSpec := do
  match key with
  | "modelName" => return { s with modelName := ← Decode.text v }
  | "replicas" => return { s with replicas := ← Decode.optional Decode.int32 v }
  | "maxModelLength" => return { s with maxModelLength := ← Decode.optional Decode.int32 v }
  | "runtime" => return { s with runtime := ← Decode.optional Decode.text v }
  | "nodeSelectorLabels" => return { s with nodeSelectorLabels := ← Decode.optional Decode.textMap v }
  | _ => return s

def ofItems (items : List Json) : Decoded IntentSpec := do
  match items with
  | [] => throw (.invalidLength 0 "struct ModelDeploymentSpec with 5 elements")
  | first :: _ =>
    let modelName ← Decode.text first
    let replicas ← Decode.place Decode.int32 items 1
    let maxModelLength ← Decode.place Decode.int32 items 2
    let runtime ← Decode.place Decode.text items 3
    let nodeSelectorLabels ← Decode.place Decode.textMap items 4
    if 5 < items.length then throw (.invalidLength items.length "fewer elements in array")
    return { modelName, replicas, maxModelLength, runtime, nodeSelectorLabels }

def decode : Json → Decoded IntentSpec :=
  Decode.strictRecord "struct ModelDeploymentSpec" fieldNames ["modelName"] withField {} ofItems

def encode (s : IntentSpec) : Json :=
  .obj ([("modelName", .str s.modelName)] ++
    Encode.optional "replicas" Encode.int32 s.replicas ++
    Encode.optional "maxModelLength" Encode.int32 s.maxModelLength ++
    Encode.optional "runtime" Encode.text s.runtime ++
    Encode.optional "nodeSelectorLabels" Encode.textMap s.nodeSelectorLabels)

end IntentSpec

namespace Intent

def withField (o : Intent) (key : String) (v : Json) : Decoded Intent := do
  match key with
  | "metadata" => return { o with metadata := ← Metadata.decode v }
  | "spec" => return { o with spec := ← IntentSpec.decode v }
  | _ => return o

def ofItems (items : List Json) : Decoded Intent := do
  match items with
  | [] => throw (.invalidLength 0 "struct ModelDeployment with 2 elements")
  | [metadata] =>
    let _ ← Metadata.decode metadata
    throw (.invalidLength 1 "struct ModelDeployment with 2 elements")
  | metadata :: spec :: rest =>
    let metadata ← Metadata.decode metadata
    let spec ← IntentSpec.decode spec
    if rest ≠ [] then throw (.invalidLength items.length "fewer elements in array")
    return { metadata, spec }

def decode : Json → Decoded Intent :=
  Decode.strictRecord "struct ModelDeployment" ["metadata", "spec"] ["metadata", "spec"]
    withField {} ofItems

def encode (o : Intent) : Json :=
  .obj [("apiVersion", .str apiVersion), ("kind", .str kind),
    ("metadata", o.metadata.encode), ("spec", o.spec.encode)]

end Intent

end ServingOperator
