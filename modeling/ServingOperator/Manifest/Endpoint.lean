-- The endpoint: an object of kind Service, which sends traffic to the pods
-- that its selector picks. The addresses are given by the cluster.
import ServingOperator.Manifest.Metadata

namespace ServingOperator

/-- The port of a pod, by number or by name. -/
inductive TargetPort where
  | number (n : Int32)
  | name (s : String)
  deriving DecidableEq, Repr, Inhabited

structure ServicePort where
  port : Int32 := 0
  name : Option String := none
  protocol : Option String := none
  nodePort : Option Int32 := none
  targetPort : Option TargetPort := none
  deriving DecidableEq, Repr, Inhabited

structure EndpointSpec where
  type : Option String := none
  selector : Option TextMap := none
  clusterIP : Option String := none
  clusterIPs : Option (List String) := none
  sessionAffinity : Option String := none
  ports : Option (List ServicePort) := none
  deriving DecidableEq, Repr, Inhabited

/-- What a load balancer reports, of which nothing is kept. -/
structure LoadBalancer where
  deriving DecidableEq, Repr, Inhabited

structure EndpointStatus where
  loadBalancer : Option LoadBalancer := none
  deriving DecidableEq, Repr, Inhabited

structure Endpoint where
  metadata : Metadata := {}
  spec : Option EndpointSpec := none
  status : Option EndpointStatus := none
  deriving DecidableEq, Repr, Inhabited

/-! ## JSON form -/

namespace TargetPort

def decode : Json → Decoded TargetPort
  | .int n =>
    if Int32.minValue.toInt ≤ n ∧ n ≤ Int32.maxValue.toInt then .ok (.number (Int32.ofInt n))
    else .error (.invalidValue (.int n) "a 32-bit integer")
  | .str s => .ok (.name s)
  | v => .error (.invalidType v "IntOrString")

def encode : TargetPort → Json
  | number n => .int n.toInt
  | name s => .str s

end TargetPort

namespace ServicePort

def withField (p : ServicePort) (key : String) (v : Json) : Decoded ServicePort := do
  match key with
  | "port" => return { p with port := (← Decode.optional Decode.int32 v).getD 0 }
  | "name" => return { p with name := ← Decode.optional Decode.text v }
  | "protocol" => return { p with protocol := ← Decode.optional Decode.text v }
  | "nodePort" => return { p with nodePort := ← Decode.optional Decode.int32 v }
  | "targetPort" => return { p with targetPort := ← Decode.optional TargetPort.decode v }
  | _ => return p

def decode : Json → Decoded ServicePort := Decode.record "ServicePort" withField {}

def encode (p : ServicePort) : Json :=
  .obj (Encode.optional "name" Encode.text p.name ++
    Encode.optional "nodePort" Encode.int32 p.nodePort ++
    [("port", Encode.int32 p.port)] ++
    Encode.optional "protocol" Encode.text p.protocol ++
    Encode.optional "targetPort" TargetPort.encode p.targetPort)

end ServicePort

namespace EndpointSpec

def withField (s : EndpointSpec) (key : String) (v : Json) : Decoded EndpointSpec := do
  match key with
  | "type" => return { s with type := ← Decode.optional Decode.text v }
  | "selector" => return { s with selector := ← Decode.optional Decode.textMap v }
  | "clusterIP" => return { s with clusterIP := ← Decode.optional Decode.text v }
  | "clusterIPs" => return { s with clusterIPs := ← Decode.optional (Decode.list Decode.text) v }
  | "sessionAffinity" => return { s with sessionAffinity := ← Decode.optional Decode.text v }
  | "ports" => return { s with ports := ← Decode.optional (Decode.list ServicePort.decode) v }
  | _ => return s

def decode : Json → Decoded EndpointSpec := Decode.record "ServiceSpec" withField {}

def encode (s : EndpointSpec) : Json :=
  .obj (Encode.optional "clusterIP" Encode.text s.clusterIP ++
    Encode.optional "clusterIPs" (Encode.list Encode.text) s.clusterIPs ++
    Encode.optional "ports" (Encode.list ServicePort.encode) s.ports ++
    Encode.optional "selector" Encode.textMap s.selector ++
    Encode.optional "sessionAffinity" Encode.text s.sessionAffinity ++
    Encode.optional "type" Encode.text s.type)

end EndpointSpec

namespace LoadBalancer

def decode : Json → Decoded LoadBalancer :=
  Decode.record "LoadBalancerStatus" (fun b _ _ => .ok b) {}

def encode (_ : LoadBalancer) : Json := .obj []

end LoadBalancer

namespace EndpointStatus

def withField (s : EndpointStatus) (key : String) (v : Json) : Decoded EndpointStatus := do
  match key with
  | "loadBalancer" => return { s with loadBalancer := ← Decode.optional LoadBalancer.decode v }
  | _ => return s

def decode : Json → Decoded EndpointStatus := Decode.record "ServiceStatus" withField {}

def encode (s : EndpointStatus) : Json :=
  .obj (Encode.optional "loadBalancer" LoadBalancer.encode s.loadBalancer)

end EndpointStatus

namespace Endpoint

def apiVersion : String := "v1"

def kind : String := "Service"

def withField (o : Endpoint) (key : String) (v : Json) : Decoded Endpoint := do
  match key with
  | "apiVersion" => Decode.exactly apiVersion v; return o
  | "kind" => Decode.exactly kind v; return o
  | "metadata" => return { o with metadata := (← Decode.optional Metadata.decode v).getD {} }
  | "spec" => return { o with spec := ← Decode.optional EndpointSpec.decode v }
  | "status" => return { o with status := ← Decode.optional EndpointStatus.decode v }
  | _ => return o

def decode : Json → Decoded Endpoint := Decode.record "Service" withField {}

def encode (o : Endpoint) : Json :=
  .obj ([("apiVersion", .str apiVersion), ("kind", .str kind), ("metadata", o.metadata.encode)] ++
    Encode.optional "spec" EndpointSpec.encode o.spec ++
    Encode.optional "status" EndpointStatus.encode o.status)

end Endpoint

end ServingOperator
