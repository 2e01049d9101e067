-- From a kubeconfig file to a connection: where the API server is, and which
-- namespace is meant when none is named.
import ServingOperator.Failure
import ServingOperator.Kubeconfig.Basic
import ServingOperator.Kubeconfig.Credential
import ServingOperator.Rest.Url
import ServingOperator.Text.Path
import ServingOperator.Trust.Certificate
import ServingOperator.Trust.Identity

namespace ServingOperator

/-- Why there is no connection. -/
inductive ConnectionFailure where
  | nothingConfigured
  | unreadable (path : String)
  | noContext (path : String)
  | noClient
  /-- A token cannot be sent. The process cannot go on after this. -/
  | brokenToken
  deriving DecidableEq, Repr

namespace ConnectionFailure

def message : ConnectionFailure → String
  | nothingConfigured => "no kubeconfig given and neither in-cluster nor ~/.kube/config usable"
  | unreadable path => "cannot read kubeconfig " ++ path
  | noContext path => "kubeconfig " ++ path ++ " has no usable current context"
  | noClient => "cannot build an API client for the model operator"
  | brokenToken => "a token cannot be sent"

def error (f : ConnectionFailure) : PlaneError := .connectionFailed f.message

end ConnectionFailure

structure Connection where
  server : String
  defaultNamespace : String
  deriving DecidableEq, Repr

namespace Connection

/-! ## Files beside the kubeconfig file -/

/-- The path of a file that a kubeconfig file names. It starts where the
kubeconfig file is, unless it starts at the root. -/
def besides (path file : String) : String :=
  if file.startsWith "/" then file
  else
    match (Text.Path.ofString path).parent? with
    | some directory => if directory.toString = "" then file else directory.toString ++ "/" ++ file
    | none => file

/-- A cluster with the full path of its file. -/
def clusterBesides (path : String) (c : ClusterAccess) : ClusterAccess :=
  { c with certificateAuthority := c.certificateAuthority.map (besides path) }

/-- A user with the full paths of its files. -/
def userBesides (path : String) (u : UserAccess) : UserAccess :=
  { u with
    tokenFile := u.tokenFile.map (besides path)
    certificate := u.certificate.map (besides path)
    key := u.key.map (besides path) }

/-- The current context of a kubeconfig file at a path. -/
def current? (path : String) (k : Kubeconfig) :
    Option (ContextAccess × ClusterAccess × UserAccess) :=
  k.current?.map fun (context, cluster, user) =>
    (context, clusterBesides path cluster, userBesides path user)

/-- The files that a kubeconfig file names for its current context. -/
def filesNamed (path text : String) : List String :=
  match (Kubeconfig.ofString? text).bind (current? path) with
  | none => []
  | some (_, c, u) =>
    c.certificateAuthority.toList ++ u.tokenFile.toList ++ u.certificate.toList ++ u.key.toList

/-! ## The server -/

/-- The certificates that the server is trusted by. Without any it is trusted
by those that everybody trusts. -/
def authorities? (h : Host) (c : ClusterAccess) : Option (List Trust.Bytes) :=
  match c.certificateAuthorityData, c.certificateAuthority with
  | none, none => some []
  | data, file => do
    let sections ← Trust.Pem.read? (← h.bytes? data file)
    return (sections.filter (·.label = Trust.Pem.certificateLabel)).map (·.content)

/-- The address of the server of a cluster. -/
def server? (c : ClusterAccess) : Option String := do
  let server ← c.server
  let proxyUsable := c.proxyUrl.all fun p => p = "" || Rest.isUrl p.toList
  if Rest.isUrl server.toList && proxyUsable then some server else none

/-! ## The client -/

/-- A byte that may stand in the value of a header. -/
def allowedInHeader (b : UInt8) : Bool := (0x20 ≤ b && b ≠ 0x7f) || b = 0x09

/-- A text that can be sent as the value of a header. -/
def sendable (s : String) : Bool := (Trust.Pem.bytesOf s).all allowedInHeader

/-- The texts of the certificate and the key that the client shows, if both
of them can be had. Those of the credential come first. -/
def shown? (h : Host) (u : UserAccess) : Credential → Option Trust.Bytes
  | .certificate certificate key => some (Trust.Pem.bytesOf (key ++ "\n" ++ certificate ++ "\n"))
  | _ => do
    let certificate ← h.bytes? u.certificateData u.certificate
    let key ← h.bytes? u.keyData u.key
    return key ++ certificate

/-- The client for a user and a server that is trusted by some certificates
can be built. -/
def checkClient (h : Host) (authorities : List Trust.Bytes) (u : UserAccess) :
    Except ConnectionFailure Unit :=
  match Credential.ofUser? h u with
  | none => .error .noClient
  | some credential =>
    let broken := match credential with
      | .token t => !sendable t
      | _ => false
    if broken then .error .brokenToken
    else if authorities.all Trust.Certificate.isCertificate &&
        (shown? h u credential).all Trust.Identity.isIdentity &&
        (u.actingAs.toList ++ u.actingGroups).all sendable then
      .ok ()
    else .error .noClient

/-! ## Connections -/

/-- The connection to the cluster of a context. Why it cannot be tried is
said by the path of the file. -/
def ofContext (h : Host) (path : String) (context : ContextAccess) (c : ClusterAccess)
    (u : UserAccess) : Except ConnectionFailure Connection :=
  match server? c, authorities? h c with
  | some server, some authorities => do
    checkClient h authorities u
    return ⟨server, context.ns.getD "default"⟩
  | _, _ => .error (.noContext path)

/-- The connection by a kubeconfig file. -/
def ofFile (h : Host) (path : String) : Except ConnectionFailure Connection :=
  match (h.text? path).bind Kubeconfig.ofString? with
  | none => .error (.unreadable path)
  | some config =>
    match current? path config with
    | none => .error (.noContext path)
    | some (context, cluster, user) => ofContext h path context cluster user

/-- The connection by the file at a path. Without a path it is the one that
is offered, if there is one. -/
def connect (h : Host) (offered : Option Connection) :
    Option String → Except ConnectionFailure Connection
  | some path => ofFile h path
  | none =>
    match offered with
    | some c => .ok c
    | none => .error .nothingConfigured

end Connection

end ServingOperator
