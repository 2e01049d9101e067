-- Credentials: what a client shows to be taken for its user.
import ServingOperator.Json.Decode
import ServingOperator.Json.Reader
import ServingOperator.Kubeconfig.Host
import ServingOperator.Kubeconfig.User
import ServingOperator.Text.Split

namespace ServingOperator

inductive Credential where
  | nothing
  | password (username password : String)
  /-- A token that does not change. -/
  | token (t : String)
  /-- A token that is asked for again once it is old. -/
  | renewable
  /-- The texts of a certificate and of its key. -/
  | certificate (certificate key : String)
  deriving DecidableEq, Repr

namespace Credential

/-- A token counts as old so many seconds before it ends. -/
def margin : Int := 60

/-! ## From a provider -/

/-- The text at a path of names into a JSON value. Around the path there may
be braces, and a dollar sign stands for the whole value. -/
def textAt? (path : String) (v : Json) : Option String :=
  let wrapping := fun c => c = '"' || c = '\x7b' || c = '\x7d'
  let inner := ((path.toList.dropWhile wrapping).reverse.dropWhile wrapping).reverse
  let names := Text.pieces '.' (if inner.head? = some '$' then inner.tail else inner)
  (v.at? ((names.dropWhile (· = [])).map String.ofList)).bind Json.str?

/-- The token that a program writes. By the settings it can be the whole
output or stand in an object, perhaps with the time when it ends. -/
def fromOutput? (settings : TextMap) (output : Trust.Bytes) : Option Credential := do
  let text ← Trust.Pem.textOf? output
  match settings.get? "token-key" with
  | none => some (.token (String.ofList (Text.withoutBlankEnds text.toList)))
  | some path => do
    let v := (← Json.ofString? text).canonical
    let t ← textAt? path v
    match settings.get? "expiry-key" with
    | none => some (.token t)
    | some path => do
      let _ ← Instant.ofChars? (← textAt? path v).toList
      some .renewable

/-- The token of the program that the settings name. -/
def fromCommand? (h : Host) (settings : TextMap) : Option Credential := do
  let words := (settings.get? "cmd-args").getD ""
  let arguments := (Text.pieces ' ' (Text.withoutBlankEnds words.toList)).map String.ofList
  fromOutput? settings (← h.programs (← settings.get? "cmd-path") arguments)

/-- Settings that hold a token of the cloud: one that stays, one that is good
for some time yet, or a program to run for one. -/
def fromCloud? (h : Host) (settings : TextMap) : Option Credential :=
  match settings.get? "id-token", settings.get? "access-token", settings.get? "expiry" with
  | some t, _, _ => some (.token t)
  | none, some _, some expiry => do
    let ends ← Instant.ofChars? expiry.toList
    if h.now.seconds + margin < ends.seconds then some .renewable else fromCommand? h settings
  | none, _, _ => fromCommand? h settings

/-- The credential of a provider. Most of them are not served. -/
def ofProvider? (h : Host) (p : Provider) : Option Credential :=
  if p.name = "oidc" then (p.settings.get? "id-token").map .token
  else if p.name = "gcp" then fromCloud? h p.settings
  else none

/-! ## From a program -/

/-- Reads a point in time. -/
def instant (v : Json) : Decoded Instant := do
  match Instant.ofChars? (← Decode.text v).toList with
  | some t => .ok t
  | none => .error (.invalidValue v "a point in time")

/-- The credential that the answer of a program holds. A certificate comes
before a token. -/
def fromStatus (status : Json) : Decoded Credential := do
  let token ← Decode.perhaps "token" Decode.text status
  let ends ← Decode.perhaps "expirationTimestamp" instant status
  let certificate ← Decode.perhaps "clientCertificateData" Decode.text status
  let key ← Decode.perhaps "clientKeyData" Decode.text status
  match certificate, key, token, ends with
  | some c, some k, _, _ => return .certificate c k
  | _, _, some _, some _ => return .renewable
  | _, _, some t, none => return .token t
  | _, _, none, _ => return .nothing

/-- The credential of a program that is run. Its answer has to say
something. -/
def ofProgram? (h : Host) (p : CredentialProgram) : Option Credential := do
  let output ← h.programs (← p.command) p.arguments
  let answer ← Json.ofLooseString? (← Trust.Pem.textOf? output)
  match answer.field? "status" with
  | some status@(.obj _) => (fromStatus status).toOption
  | _ => none

/-! ## Of a user -/

/-- The credential of a user: that of the provider, the password, the token,
the token in a file or that of a program, the first of these that there is.
`none` stands for one that cannot be had. -/
def ofUser? (h : Host) (u : UserAccess) : Option Credential :=
  match u.provider, u.username, u.password, u.token, u.tokenFile, u.program with
  | some p, _, _, _, _, _ => ofProvider? h p
  | none, some name, some secret, _, _, _ => some (.password name secret)
  | none, _, _, some t, _, _ => some (.token t)
  | none, _, _, none, some file, _ => (h.text? file).map fun _ => .renewable
  | none, _, _, none, none, some p => ofProgram? h p
  | none, _, _, none, none, none => some .nothing

end Credential

end ServingOperator
