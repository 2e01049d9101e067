-- The workload: an object of kind Deployment, which keeps a number of pods
-- running. Only the parts that this library reads or writes are kept.
import ServingOperator.Manifest.Metadata

namespace ServingOperator

/-- A taint that a pod puts up with. -/
structure Toleration where
  key : Option String := none
  operator : Option String := none
  effect : Option String := none
  value : Option String := none
  deriving DecidableEq, Repr, Inhabited

structure Resources where
  limits : Option TextMap := none
  deriving DecidableEq, Repr, Inhabited

structure Container where
  name : String := ""
  image : Option String := none
  imagePullPolicy : Option String := none
  command : Option (List String) := none
  args : Option (List String) := none
  resources : Option Resources := none
  deriving DecidableEq, Repr, Inhabited

structure PodSpec where
  nodeSelector : Option TextMap := none
  containers : List Container := []
  tolerations : Option (List Toleration) := none
  deriving DecidableEq, Repr, Inhabited

structure PodTemplate where
  metadata : Option Metadata := none
  spec : Option PodSpec := none
  deriving DecidableEq, Repr, Inhabited

structure LabelSelector where
  matchLabels : Option TextMap := none
  deriving DecidableEq, Repr, Inhabited

structure WorkloadSpec where
  replicas : Option Int32 := none
  minReadySeconds : Option Int32 := none
  paused : Option Bool := none
  selector : LabelSelector := {}
  template : PodTemplate := {}
  deriving DecidableEq, Repr, Inhabited

structure WorkloadStatus where
  replicas : Option Int32 := none
  readyReplicas : Option Int32 := none
  deriving DecidableEq, Repr, Inhabited

structure Workload where
  metadata : Metadata := {}
  spec : Option WorkloadSpec := none
  status : Option WorkloadStatus := none
  deriving DecidableEq, Repr, Inhabited

/-! ## JSON form -/

namespace Toleration

def withField (t : Toleration) (key : String) (v : Json) : Decoded Toleration := do
  match key with
  | "key" => return { t with key := ← Decode.optional Decode.text v }
  | "operator" => return { t with operator := ← Decode.optional Decode.text v }
  | "effect" => return { t with effect := ← Decode.optional Decode.text v }
  | "value" => return { t with value := ← Decode.optional Decode.text v }
  | _ => return t

def decode : Json → Decoded Toleration := Decode.record "Toleration" withField {}

def encode (t : Toleration) : Json :=
  .obj (Encode.optional "effect" Encode.text t.effect ++
    Encode.optional "key" Encode.text t.key ++
    Encode.optional "operator" Encode.text t.operator ++
    Encode.optional "value" Encode.text t.value)

end Toleration

namespace Resources

def withField (r : Resources) (key : String) (v : Json) : Decoded Resources := do
  match key with
  | "limits" => return { r with limits := ← Decode.optional Decode.textMap v }
  | _ => return r

def decode : Json → Decoded Resources := Decode.record "ResourceRequirements" withField {}

def encode (r : Resources) : Json := .obj (Encode.optional "limits" Encode.textMap r.limits)

end Resources

namespace Container

def withField (c : Container) (key : String) (v : Json) : Decoded Container := do
  match key with
  | "name" => return { c with name := (← Decode.optional Decode.text v).getD "" }
  | "image" => return { c with image := ← Decode.optional Decode.text v }
  | "imagePullPolicy" => return { c with imagePullPolicy := ← Decode.optional Decode.text v }
  | "command" => return { c with command := ← Decode.optional (Decode.list Decode.text) v }
  | "args" => return { c with args := ← Decode.optional (Decode.list Decode.text) v }
  | "resources" => return { c with resources := ← Decode.optional Resources.decode v }
  | _ => return c

def decode : Json → Decoded Container := Decode.record "Container" withField {}

def encode (c : Container) : Json :=
  .obj (Encode.optional "args" (Encode.list Encode.text) c.args ++
    Encode.optional "command" (Encode.list Encode.text) c.command ++
    Encode.optional "image" Encode.text c.image ++
    Encode.optional "imagePullPolicy" Encode.text c.imagePullPolicy ++
    [("name", .str c.name)] ++
    Encode.optional "resources" Resources.encode c.resources)

end Container

namespace PodSpec

def withField (p : PodSpec) (key : String) (v : Json) : Decoded PodSpec := do
  match key with
  | "nodeSelector" => return { p with nodeSelector := ← Decode.optional Decode.textMap v }
  | "containers" =>
    return { p with containers := (← Decode.optional (Decode.list Container.decode) v).getD [] }
  | "tolerations" =>
    return { p with tolerations := ← Decode.optional (Decode.list Toleration.decode) v }
  | _ => return p

def decode : Json → Decoded PodSpec := Decode.record "PodSpec" withField {}

def encode (p : PodSpec) : Json :=
  .obj ([("containers", Encode.list Container.encode p.containers)] ++
    Encode.optional "nodeSelector" Encode.textMap p.nodeSelector ++
    Encode.optional "tolerations" (Encode.list Toleration.encode) p.tolerations)

end PodSpec

namespace PodTemplate

def withField (t : PodTemplate) (key : String) (v : Json) : Decoded PodTemplate := do
  match key with
  | "metadata" => return { t with metadata := ← Decode.optional Metadata.decode v }
  | "spec" => return { t with spec := ← Decode.optional PodSpec.decode v }
  | _ => return t

def decode : Json → Decoded PodTemplate := Decode.record "PodTemplateSpec" withField {}

def encode (t : PodTemplate) : Json :=
  .obj (Encode.optional "metadata" Metadata.encode t.metadata ++
    Encode.optional "spec" PodSpec.encode t.spec)

end PodTemplate

namespace LabelSelector

def withField (s : LabelSelector) (key : String) (v : Json) : Decoded LabelSelector := do
  match key with
  | "matchLabels" => return { s with matchLabels := ← Decode.optional Decode.textMap v }
  | _ => return s

def decode : Json → Decoded LabelSelector := Decode.record "LabelSelector" withField {}

def encode (s : LabelSelector) : Json :=
  .obj (Encode.optional "matchLabels" Encode.textMap s.matchLabels)

end LabelSelector

namespace WorkloadSpec

def withField (s : WorkloadSpec) (key : String) (v : Json) : Decoded WorkloadSpec := do
  match key with
  | "replicas" => return { s with replicas := ← Decode.optional Decode.int32 v }
  | "minReadySeconds" => return { s with minReadySeconds := ← Decode.optional Decode.int32 v }
  | "paused" => return { s with paused := ← Decode.optional Decode.flag v }
  | "selector" => return { s with selector := (← Decode.optional LabelSelector.decode v).getD {} }
  | "template" => return { s with template := (← Decode.optional PodTemplate.decode v).getD {} }
  | _ => return s

def decode : Json → Decoded WorkloadSpec := Decode.record "DeploymentSpec" withField {}

def encode (s : WorkloadSpec) : Json :=
  .obj (Encode.optional "minReadySeconds" Encode.int32 s.minReadySeconds ++
    Encode.optional "paused" Encode.flag s.paused ++
    Encode.optional "replicas" Encode.int32 s.replicas ++
    [("selector", s.selector.encode), ("template", s.template.encode)])

end WorkloadSpec

namespace WorkloadStatus

def withField (s : WorkloadStatus) (key : String) (v : Json) : Decoded WorkloadStatus := do
  match key with
  | "replicas" => return { s with replicas := ← Decode.optional Decode.int32 v }
  | "readyReplicas" => return { s with readyReplicas := ← Decode.optional Decode.int32 v }
  | _ => return s

def decode : Json → Decoded WorkloadStatus := Decode.record "DeploymentStatus" withField {}

def encode (s : WorkloadStatus) : Json :=
  .obj (Encode.optional "readyReplicas" Encode.int32 s.readyReplicas ++
    Encode.optional "replicas" Encode.int32 s.replicas)

end WorkloadStatus

namespace Workload

def apiVersion : String := "apps/v1"

def kind : String := "Deployment"

def withField (o : Workload) (key : String) (v : Json) : Decoded Workload := do
  match key with
  | "apiVersion" => Decode.exactly apiVersion v; return o
  | "kind" => Decode.exactly kind v; return o
  | "metadata" => return { o with metadata := (← Decode.optional Metadata.decode v).getD {} }
  | "spec" => return { o with spec := ← Decode.optional WorkloadSpec.decode v }
  | "status" => return { o with status := ← Decode.optional WorkloadStatus.decode v }
  | _ => return o

def decode : Json → Decoded Workload := Decode.record "Deployment" withField {}

def encode (o : Workload) : Json :=
  .obj ([("apiVersion", .str apiVersion), ("kind", .str kind), ("metadata", o.metadata.encode)] ++
    Encode.optional "spec" WorkloadSpec.encode o.spec ++
    Encode.optional "status" WorkloadStatus.encode o.status)

end Workload

end ServingOperator
