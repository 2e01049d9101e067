-- A control plane at the other end of HTTP. Each call is one request. An
-- answer is taken for an object only if it decodes as one, and only an
-- answer whose reason is NotFound says that there is none.
import ServingOperator.Pass.Run
import ServingOperator.Rest.Message

namespace ServingOperator.Rest

/-- The text of a response that is not an error. -/
def textOf (r : Response) : Except ClientFailure String :=
  match String.fromUTF8? r.body with
  | none => .error .noText
  | some text => if r.isError then .error (.api (.ofText r.status text)) else .ok text

/-- The object that a response holds. -/
def objectOf (k : Kind) (r : Response) : Except ClientFailure k.Object := do
  let text ← textOf r
  match (Json.ofLooseString? text).map k.decode with
  | some (.ok o) => .ok o
  | _ => .error .undecodable

/-- An object that is not there is no failure. -/
def absentAsNone {α : Type} : Except ClientFailure α → Except ClientFailure (Option α)
  | .ok o => .ok (some o)
  | .error (.api s) => if s.reason = ApiStatus.notFound then .ok none else .error (.api s)
  | .error e => .error e

/-- What a response answers to a call. -/
def answer (c : Call) (r : Response) : Except ClientFailure c.Answer :=
  match c with
  | .get k _ => absentAsNone (objectOf k r)
  | .create k _ => objectOf k r
  | .replace k _ => objectOf k r

/-- The failure of a call, by what the client met. The code 409 stands for
a stale version as well as for an object that is there already. -/
def planeError (k : Kind) (i : Identity) : ClientFailure → PlaneError
  | .api s =>
    if s.code = 409 then .conflict k i
    else .rejected k i s.code (s.reason ++ ": " ++ s.message)
  | _ => .unavailable k i

def classify (k : Kind) (i : Identity) (e : ClientFailure) : Report PlaneError :=
  (Report.of e).wrap (planeError k i e)

/-- What a call ends in, by what became of its request. -/
def served (c : Call) (i : Identity) : Transmission → Served c.Answer
  | .hangs => .hangs
  | .failed => .answers (.error (classify c.kind i .transport))
  | .response r => .answers ((answer c r).mapError (classify c.kind i))

/-- A way to send requests, whose state is a `σ`. -/
abbrev Transport (σ : Type) := Request → σ → Transmission × σ

/-- A transport as a control plane. A written object that lacks a name or a
namespace, or names that make no target, are refused before anything is
sent. -/
def plane {σ : Type} (send : Transport σ) : Plane σ := fun c s =>
  match c.identity? with
  | .error r => (.answers (.error r), s)
  | .ok i =>
    match request? c i with
    | none => (.answers (.error (classify c.kind i .noRequest)), s)
    | some req =>
      let (t, s) := send req s
      (served c i t, s)

/-! ## Answers from a list -/

/-- An answer that was laid down beforehand. -/
inductive ScriptedAnswer where
  | response (r : Response)
  /-- The body of the request comes back. -/
  | echo (status : Nat)
  | failed
  | hangs

/-- Answers still to be given, and the requests that were made. -/
structure Script where
  answers : List ScriptedAnswer
  requests : List Request := []

/-- The text of the body of a request. -/
def Request.bodyText (r : Request) : String :=
  match r.body with
  | some v => v.toText
  | none => ""

namespace Script

/-- Gives the answers one after the other. When none is left, requests fail. -/
def transport : Transport Script := fun req s =>
  let sent := s.requests ++ [req]
  match s.answers with
  | [] => (.failed, ⟨[], sent⟩)
  | .response r :: rest => (.response r, ⟨rest, sent⟩)
  | .echo status :: rest => (.response ⟨status, req.bodyText.toUTF8⟩, ⟨rest, sent⟩)
  | .failed :: rest => (.failed, ⟨rest, sent⟩)
  | .hangs :: rest => (.hangs, ⟨rest, sent⟩)

def plane : Plane Script := Rest.plane transport

end Script

end ServingOperator.Rest
