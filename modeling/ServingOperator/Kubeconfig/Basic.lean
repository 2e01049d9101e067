-- Kubeconfig files: clusters, users, and contexts that put the two together.
-- A file may hold several documents, of which the first one that says
-- something counts.
import ServingOperator.Kubeconfig.User
import ServingOperator.Yaml.Reader

namespace ServingOperator

/-- Something that contexts refer to by name. It may be left out. -/
structure Named (α : Type) where
  name : String
  content : Option α

/-- How a cluster is reached. -/
structure ClusterAccess where
  server : Option String
  certificateAuthority : Option String
  certificateAuthorityData : Option String
  proxyUrl : Option String

structure ContextAccess where
  cluster : String
  user : String
  ns : Option String

structure Kubeconfig where
  kind : Option String := none
  apiVersion : Option String := none
  clusters : List (Named ClusterAccess) := []
  users : List (Named UserAccess) := []
  contexts : List (Named ContextAccess) := []
  currentContext : Option String := none

/-! ## Reading -/

/-- Something with a name. `key` says what it is. -/
def Named.ofYaml? {α : Type} (key : String) (read : Yaml.Value → Option α) (v : Yaml.Value) :
    Option (Named α) := do
  let fs ← Yaml.Fields.of? (Yaml.Field.listed ["name", key]) v
  return ⟨← fs.required "name" Yaml.Value.text?, ← fs.perhaps key read⟩

/-- The name of a note of another program. It holds anything that JSON text
can spell. -/
def noteName? (v : Yaml.Value) : Option String := do
  let fs ← Yaml.Fields.of? (Yaml.Field.listed ["name", "extension"]) v
  let _ ← fs.required "extension" fun v => if v.isJson then some v else none
  fs.required "name" Yaml.Value.text?

/-- The names of the notes of other programs. -/
def noteNames? (fs : Yaml.Fields) : Option (List String) := do
  return (← fs.perhaps "extensions" (Yaml.Value.list? noteName?)).getD []

namespace ClusterAccess

def fields : List Yaml.Field :=
  Yaml.Field.listed ["server", "insecure-skip-tls-verify", "certificate-authority",
    "certificate-authority-data", "proxy-url", "tls-server-name", "extensions"]

def ofYaml? (v : Yaml.Value) : Option ClusterAccess := do
  let fs ← Yaml.Fields.of? fields v
  let _ ← fs.perhaps "insecure-skip-tls-verify" Yaml.Value.flag?
  let _ ← fs.perhaps "tls-server-name" Yaml.Value.text?
  let _ ← noteNames? fs
  return {
    server := ← fs.perhaps "server" Yaml.Value.text?
    certificateAuthority := ← fs.perhaps "certificate-authority" Yaml.Value.text?
    certificateAuthorityData := ← fs.perhaps "certificate-authority-data" Yaml.Value.text?
    proxyUrl := ← fs.perhaps "proxy-url" Yaml.Value.text? }

end ClusterAccess

namespace ContextAccess

def fields : List Yaml.Field := Yaml.Field.listed ["cluster", "user", "namespace", "extensions"]

def ofYaml? (v : Yaml.Value) : Option ContextAccess := do
  let fs ← Yaml.Fields.of? fields v
  let _ ← noteNames? fs
  return {
    cluster := ← fs.required "cluster" Yaml.Value.text?
    user := ← fs.required "user" Yaml.Value.text?
    ns := ← fs.perhaps "namespace" Yaml.Value.text? }

end ContextAccess

/-- What a user likes to see. Nothing here uses it: it has to be well formed
only. -/
def preferences? (v : Yaml.Value) : Option (Option Bool) := do
  let fs ← Yaml.Fields.of? (Yaml.Field.listed ["colors", "extensions"]) v
  let _ ← noteNames? fs
  fs.perhaps "colors" Yaml.Value.flag?

namespace Kubeconfig

def fields : List Yaml.Field :=
  Yaml.Field.listed
    ["preferences", "clusters", "users", "contexts", "current-context", "extensions", "kind",
      "apiVersion"]
    ["clusters", "users", "contexts"]

/-- Reads one document. A document that holds nothing says nothing. -/
def ofYaml? (v : Yaml.Value) : Option Kubeconfig := do
  let fs ← Yaml.Fields.of? fields v
  let all {α : Type} (key inner : String) (read : Yaml.Value → Option α) :=
    fs.orElse key [] (Yaml.Value.list? (Named.ofYaml? inner read))
  let _ ← fs.perhaps "preferences" preferences?
  let _ ← noteNames? fs
  return {
    kind := ← fs.perhaps "kind" Yaml.Value.text?
    apiVersion := ← fs.perhaps "apiVersion" Yaml.Value.text?
    clusters := ← all "clusters" "cluster" ClusterAccess.ofYaml?
    users := ← all "users" "user" UserAccess.ofYaml?
    contexts := ← all "contexts" "context" ContextAccess.ofYaml?
    currentContext := ← fs.perhaps "current-context" Yaml.Value.text? }

/-- Two texts that are both set are the same. -/
def agree (a b : Option String) : Bool := a.isNone || b.isNone || a = b

/-- Puts the next document after those before it. Documents of different
kinds do not go together. -/
def append? (a b : Kubeconfig) : Option Kubeconfig :=
  if agree a.kind b.kind && agree a.apiVersion b.apiVersion then
    some
      { kind := a.kind <|> b.kind
        apiVersion := a.apiVersion <|> b.apiVersion
        clusters := a.clusters ++ b.clusters
        users := a.users ++ b.users
        contexts := a.contexts ++ b.contexts
        currentContext := a.currentContext <|> b.currentContext }
  else none

/-- Reads a file. An empty one says nothing. -/
def ofString? (text : String) : Option Kubeconfig := do
  let docs ← Yaml.documents? text
  let configs ← docs.mapM ofYaml?
  configs.foldlM append? {}

/-! ## The current context -/

/-- What has a name, the first of that name. -/
def named? {α : Type} (name : String) (l : List (Named α)) : Option α :=
  (l.find? fun n => n.name = name).bind (·.content)

/-- The current context, with its cluster and its user. -/
def current? (k : Kubeconfig) : Option (ContextAccess × ClusterAccess × UserAccess) := do
  let context ← named? (← k.currentContext) k.contexts
  let cluster ← named? context.cluster k.clusters
  let user ← named? context.user k.users
  return (context, cluster, user)

end Kubeconfig

end ServingOperator
