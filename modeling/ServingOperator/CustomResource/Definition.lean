-- The definition that makes an API server keep intents.
import ServingOperator.CustomResource.Schema
import ServingOperator.Manifest.Intent
import ServingOperator.Policy

namespace ServingOperator

/-- The schema of what is to be served. The runtime is one of those that
a policy is known for, and no count is below zero. -/
def IntentSpec.schema : Schema :=
  .record { description := some "Desired state of a model-serving deployment." }
    [("maxModelLength",
      .int32
        { description := some "Maximum context length; zero or unset means 512."
          nullable := true }
        (some 0)),
    ("modelName",
      .text { description := some "Model identifier handed to the serving process." } none),
    ("nodeSelectorLabels",
      .map
        { description := some "Node labels copied verbatim onto the pod node selector."
          nullable := true }
        (.text {} none)),
    ("replicas",
      .int32
        { description := some "Requested replica count; zero or unset means one."
          nullable := true }
        (some 0)),
    ("runtime",
      .text
        { description := some "Runtime flavor selector: \"\", \"cpu\" or \"gpu\"."
          nullable := true }
        (some ["", "cpu", "gpu"]))]
    ["modelName"]

/-- The schema of an intent. -/
def Intent.schema : Schema :=
  .record
    { title := some Intent.kind
      description := some
        "Auto-generated derived type for ModelDeploymentSpec via \x60CustomResource\x60" }
    [("spec", IntentSpec.schema)] ["spec"]

/-- A kind of object for an API server to keep, by its names and its schema. -/
structure CustomResource where
  group : String
  version : String
  kind : String
  singular : String
  plural : String
  shortNames : List String
  schema : Schema

namespace CustomResource

/-- The kind of the intents. -/
def intents : CustomResource :=
  { group := Intent.group
    version := Intent.version
    kind := Intent.kind
    singular := "modeldeployment"
    plural := Intent.plural
    shortNames := [Intent.shortName]
    schema := Intent.schema }

/-- The object that tells an API server about a kind. Its objects live in
namespaces, and there is one version of them. -/
def encode (r : CustomResource) : Json :=
  .obj [("apiVersion", .str "apiextensions.k8s.io/v1"), ("kind", .str "CustomResourceDefinition"),
    ("metadata", .obj [("name", .str (r.plural ++ "." ++ r.group))]),
    ("spec", .obj [("group", .str r.group),
      ("names", .obj [("categories", .arr []), ("kind", .str r.kind), ("plural", .str r.plural),
        ("shortNames", Schema.textItems r.shortNames), ("singular", .str r.singular)]),
      ("scope", .str "Namespaced"),
      ("versions", .arr [.obj [("additionalPrinterColumns", .arr []), ("name", .str r.version),
        ("schema", .obj [("openAPIV3Schema", r.schema.encode)]),
        ("served", .bool true), ("storage", .bool true), ("subresources", .obj [])]])])]

end CustomResource

end ServingOperator
