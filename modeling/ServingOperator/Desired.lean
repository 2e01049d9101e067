-- The children that an intent asks for. They depend on nothing but the
-- intent and the policy table, and carry no owner and no version yet.
import ServingOperator.Policy

namespace ServingOperator

namespace Desired

def appLabel : String := "app"

def containerName : String := "app"

def imagePullPolicy : String := "IfNotPresent"

/-- The port that the endpoint listens at. -/
def servicePort : Int32 := 80

/-- The port that the model is served at. -/
def containerPort : Int32 := 8000

/-- The labels by which the workload and the endpoint find the pods. -/
def selectorLabels (intent : Intent) : TextMap := .singleton appLabel intent.metadata.anyName

/-- The command that serves a model. -/
def serveCommand (spec : IntentSpec) : List String :=
  ["vllm", "serve", "--dtype", "auto", "--max-model-len",
    toString spec.effectiveMaxModelLength.toInt, spec.modelName]

/-- A child has the name of its intent and lives in the same namespace. -/
def childMetadata (intent : Intent) : Metadata :=
  { name := some intent.metadata.anyName, ns := intent.metadata.ns }

/-- The container that serves the model under a policy. A policy without
limits leaves the resources unset. -/
def container (spec : IntentSpec) (policy : RuntimePolicy) : Container :=
  { name := containerName
    image := some policy.image
    imagePullPolicy := some imagePullPolicy
    command := some (serveCommand spec)
    resources := if policy.limits.isEmpty then none else some { limits := some policy.limits } }

/-- The pods of an intent under a policy. A policy without tolerations
leaves them unset. -/
def podTemplate (intent : Intent) (policy : RuntimePolicy) : PodTemplate :=
  { metadata := some { labels := some (selectorLabels intent) }
    spec := some
      { nodeSelector := intent.spec.nodeSelectorLabels
        containers := [container intent.spec policy]
        tolerations := if policy.tolerations.isEmpty then none else some policy.tolerations } }

/-- The workload of an intent under a policy. -/
def workloadUnder (intent : Intent) (policy : RuntimePolicy) : Workload :=
  { metadata := childMetadata intent
    spec := some
      { replicas := some intent.spec.effectiveReplicas
        selector := { matchLabels := some (selectorLabels intent) }
        template := podTemplate intent policy } }

/-- The workload of an intent. There is none if its runtime is unknown. -/
def workload (policies : PolicyTable) (intent : Intent) : Except (Report PolicyError) Workload :=
  (policies.resolve intent.spec.runtimeSelector).map (workloadUnder intent)

/-- The endpoint of an intent. -/
def endpoint (intent : Intent) : Endpoint :=
  { metadata := childMetadata intent
    spec := some
      { type := some "ClusterIP"
        selector := some (selectorLabels intent)
        ports := some [{ port := servicePort, protocol := some "TCP",
                         targetPort := some (.number containerPort) }] } }

end Desired

end ServingOperator
