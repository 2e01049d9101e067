-- Users of a kubeconfig file: who they are, and their credentials or where
-- these are to be had.
import ServingOperator.Yaml.Decode

namespace ServingOperator

/-- Someone who hands out credentials, and what is known to them. -/
structure Provider where
  name : String
  settings : TextMap

/-- A program that is run for credentials. -/
structure CredentialProgram where
  command : Option String
  arguments : List String

structure UserAccess where
  username : Option String
  password : Option String
  token : Option String
  tokenFile : Option String
  certificate : Option String
  certificateData : Option String
  key : Option String
  keyData : Option String
  /-- The user that requests are made for. -/
  actingAs : Option String
  actingGroups : List String
  provider : Option Provider
  program : Option CredentialProgram

namespace Provider

def fields : List Yaml.Field := Yaml.Field.listed ["name", "config"] ["config"]

def ofYaml? (v : Yaml.Value) : Option Provider := do
  let fs ← Yaml.Fields.of? fields v
  return {
    name := ← fs.required "name" Yaml.Value.text?
    settings := ← fs.orElse "config" .empty Yaml.Value.textMap? }

end Provider

namespace CredentialProgram

def fields : List Yaml.Field :=
  Yaml.Field.listed
    ["apiVersion", "command", "args", "env", "interactiveMode", "provideClusterInfo"]
    ["provideClusterInfo"]

/-- When the program may ask someone at the terminal. -/
def interactiveModes : List String := ["Never", "IfAvailable", "Always"]

def ofYaml? (v : Yaml.Value) : Option CredentialProgram := do
  let fs ← Yaml.Fields.of? fields v
  let _ ← fs.perhaps "apiVersion" Yaml.Value.text?
  let _ ← fs.perhaps "env" (Yaml.Value.list? Yaml.Value.textMap?)
  let _ ← fs.perhaps "interactiveMode" (Yaml.Value.name? interactiveModes)
  let _ ← fs.orElse "provideClusterInfo" false Yaml.Value.flag?
  return {
    command := ← fs.perhaps "command" Yaml.Value.text?
    arguments := (← fs.perhaps "args" (Yaml.Value.list? Yaml.Value.text?)).getD [] }

end CredentialProgram

namespace UserAccess

def fields : List Yaml.Field :=
  Yaml.Field.listed
    ["username", "password", "token", "tokenFile", "client-certificate", "client-certificate-data",
      "client-key", "client-key-data", "as", "as-groups", "auth-provider", "exec"]
    ["password", "token", "client-key-data"]

def ofYaml? (v : Yaml.Value) : Option UserAccess := do
  let fs ← Yaml.Fields.of? fields v
  return {
    username := ← fs.perhaps "username" Yaml.Value.text?
    password := ← fs.perhaps "password" Yaml.Value.text?
    token := ← fs.perhaps "token" Yaml.Value.text?
    tokenFile := ← fs.perhaps "tokenFile" Yaml.Value.text?
    certificate := ← fs.perhaps "client-certificate" Yaml.Value.text?
    certificateData := ← fs.perhaps "client-certificate-data" Yaml.Value.text?
    key := ← fs.perhaps "client-key" Yaml.Value.text?
    keyData := ← fs.perhaps "client-key-data" Yaml.Value.text?
    actingAs := ← fs.perhaps "as" Yaml.Value.text?
    actingGroups := (← fs.perhaps "as-groups" (Yaml.Value.list? Yaml.Value.text?)).getD []
    provider := ← fs.perhaps "auth-provider" Provider.ofYaml?
    program := ← fs.perhaps "exec" CredentialProgram.ofYaml? }

end UserAccess

end ServingOperator
