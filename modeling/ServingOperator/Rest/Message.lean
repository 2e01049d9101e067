-- Requests to the API server and what comes back.
import ServingOperator.Json.Reader
import ServingOperator.Json.Writer
import ServingOperator.Pass.Basic
import ServingOperator.Rest.Failure
import ServingOperator.Rest.Target

namespace ServingOperator.Rest

inductive Method where
  | get
  | post
  | put
  deriving DecidableEq, Repr

def Method.name : Method → String
  | get => "GET"
  | post => "POST"
  | put => "PUT"

structure Request where
  method : Method
  target : Target
  body : Option Json

/-- The text of the target of a call on the object `i`. A create goes to
the collection, as the new object is not there yet. -/
def targetText (c : Call) (i : Identity) : String :=
  match c with
  | .get k _ => objectPath k i
  | .create k _ => collectionPath k (some i.ns) ++ writerQuery
  | .replace k _ => objectPath k i ++ writerQuery

def method : Call → Method
  | .get _ _ => .get
  | .create _ _ => .post
  | .replace _ _ => .put

def body : Call → Option Json
  | .get _ _ => none
  | .create _ o => some (Kind.encode o)
  | .replace _ o => some (Kind.encode o)

/-- The request for a call on the object `i`. There is none if the names
make no target. -/
def request? (c : Call) (i : Identity) : Option Request :=
  (Target.ofChars? (targetText c i).toList).map fun target =>
    { method := method c, target, body := body c }

/-! ## What comes back -/

structure Response where
  status : Nat
  body : ByteArray

/-- What becomes of a request. -/
inductive Transmission where
  | response (r : Response)
  | failed
  | hangs

/-- The server or the client is at fault. -/
def Response.isError (r : Response) : Bool := 400 ≤ r.status && r.status < 600

/-! ## Error answers -/

namespace ApiStatus

def withField (s : ApiStatus) (key : String) (v : Json) : Decoded ApiStatus := do
  match key with
  | "status" => return { s with status := ← Decode.text v }
  | "message" => return { s with message := ← Decode.text v }
  | "reason" => return { s with reason := ← Decode.text v }
  | "code" => return { s with code := ← Decode.uint16 v }
  | _ => return s

/-- The fields in the order in which a list gives them. -/
def fieldNames : List String := ["status", "message", "reason", "code"]

def ofItems : List Json → Decoded ApiStatus
  | [status, message, reason, code] => do
    let status ← Decode.text status
    let message ← Decode.text message
    let reason ← Decode.text reason
    let code ← Decode.uint16 code
    return { status, message, reason, code }
  | items => .error (.invalidLength items.length "a status of 4 parts")

def decode : Json → Decoded ApiStatus :=
  Decode.strictRecord "a status" fieldNames ["status", "code"] withField {} ofItems

/-- The reason of an answer that says that there is no such object. -/
def notFound : String := "NotFound"

/-- What stands for an error answer whose body says nothing. -/
def unreadable (httpStatus : Nat) (text : String) : ApiStatus :=
  { status := toString httpStatus
    message := Text.quoted text
    reason := "Failed to parse error data"
    code := UInt16.ofNat httpStatus }

/-- What the body of an error answer says. -/
def ofText (httpStatus : Nat) (text : String) : ApiStatus :=
  match (Json.ofLooseString? text).map decode with
  | some (.ok s) => s
  | _ => unreadable httpStatus text

def encode (s : ApiStatus) : Json :=
  .obj [("status", .str s.status), ("message", .str s.message), ("reason", .str s.reason),
    ("code", .int s.code.toNat)]

end ApiStatus

end ServingOperator.Rest
