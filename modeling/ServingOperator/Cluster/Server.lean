-- An API server. It keeps objects by kind, namespace and name, each with
-- the version it got when it was written, and it writes an object only over
-- the version that the writer has seen. It can be told to refuse requests.
import ServingOperator.Rest.Client
import ServingOperator.Rest.Place
import ServingOperator.Store

namespace ServingOperator.Cluster

/-- Requests that are to be refused. -/
structure Fault where
  method : Rest.Method
  kind : Kind
  /-- The name of the object, if only requests about it are meant. -/
  name : Option String := none
  status : UInt16
  reason : String
  /-- How many requests are still to be refused, or all of them. -/
  times : Option Nat := none
  deriving DecidableEq, Repr

/-- A request about one object, as the server remembers it. -/
structure Exchange where
  time : Nat
  method : Rest.Method
  key : Key
  status : UInt16
  deriving DecidableEq, Repr

/-- A change that others make to the cluster: an object is stored or
removed. -/
structure Change where
  time : Nat
  kind : Kind
  removed : Bool
  object : Json

structure Server where
  objects : List (Key × Json) := []
  /-- The version given last. -/
  counter : Nat := 0
  faults : List Fault := []
  /-- The second that it is. -/
  now : Nat := 0
  exchanges : List Exchange := []

/-- The version that an object names. -/
def versionOf (v : Json) : Option String :=
  ((v.field? "metadata").bind (·.field? "resourceVersion")).bind Json.str?

/-- An object with a version in place of its own. -/
def withVersion (v : Json) (version : String) : Json :=
  v.withField "metadata"
    (((v.field? "metadata").getD (.obj [])).withField "resourceVersion" (.str version))

/-- The name and the namespace in the metadata of an object. -/
def identityIn? (v : Json) : Option Identity := do
  let m ← v.field? "metadata"
  some ⟨← (m.field? "namespace").bind Json.str?, ← (m.field? "name").bind Json.str?⟩

/-- The same, with an empty text for what is missing. -/
def identityIn (v : Json) : Identity :=
  let m := (v.field? "metadata").getD .null
  ⟨((m.field? "namespace").bind Json.str?).getD "", ((m.field? "name").bind Json.str?).getD ""⟩

/-! ## Faults -/

namespace Fault

/-- The fault is about such a request, and has not struck often enough. -/
def strikes (f : Fault) (method : Rest.Method) (key : Key) : Bool :=
  f.method = method && f.kind = key.kind && f.name.all (· = key.identity.name) && f.times ≠ some 0

/-- The first fault that strikes a request, and all faults after it has
struck. -/
def strike? (method : Rest.Method) (key : Key) : List Fault → Option (Fault × List Fault)
  | [] => none
  | f :: fs =>
    if f.strikes method key then some (f, { f with times := f.times.map (· - 1) } :: fs)
    else (strike? method key fs).map fun (g, gs) => (g, f :: gs)

end Fault

/-! ## Requests -/

/-- An answer: its status and its body. -/
structure Answer where
  status : UInt16
  body : Json

/-- The answer to a request that is refused. -/
def refusal (status : UInt16) (reason : String) : Answer :=
  ⟨status, Rest.ApiStatus.encode { status := "Failure", message := reason, reason, code := status }⟩

def Answer.response (a : Answer) : Rest.Response := ⟨a.status.toNat, a.body.toText.toUTF8⟩

namespace Server

def find? (s : Server) (key : Key) : Option Json := s.objects.lookup key

/-- Keeps an object with the next version. -/
def keep (s : Server) (key : Key) (v : Json) : Json × Server :=
  let v := withVersion v (toString (s.counter + 1))
  (v, { s with objects := (key, v) :: s.objects.filter (·.1 ≠ key), counter := s.counter + 1 })

/-- Keeps no object under a key. -/
def drop (s : Server) (key : Key) : Server :=
  { s with objects := s.objects.filter (·.1 ≠ key) }

/-- Does what a request about an object asks for. A post must find nothing,
and a put must name the version that it finds. -/
def act (s : Server) (method : Rest.Method) (key : Key) (sent : Json) : Answer × Server :=
  match method, s.find? key with
  | .get, some v => (⟨200, v⟩, s)
  | .get, none => (refusal 404 "NotFound", s)
  | .post, some _ => (refusal 409 "AlreadyExists", s)
  | .post, none =>
    let (v, s) := s.keep key sent
    (⟨201, v⟩, s)
  | .put, none => (refusal 404 "NotFound", s)
  | .put, some v =>
    if versionOf v = versionOf sent then
      let (v, s) := s.keep key sent
      (⟨200, v⟩, s)
    else (refusal 409 "Conflict", s)

/-- The object that a request is about. A post names it in its body. -/
def subject? (r : Rest.Request) : Option Key := do
  let place ← Rest.Place.ofPath? r.target.path
  let ns ← place.ns
  match r.method, place.name with
  | .post, none => return ⟨place.kind, ⟨ns, (identityIn (r.body.getD .null)).name⟩⟩
  | .post, some _ => none
  | _, some name => return ⟨place.kind, ⟨ns, name⟩⟩
  | _, none => none

/-- Answers a request, unless a fault strikes it, and remembers it. -/
def answer (s : Server) (r : Rest.Request) (key : Key) : Answer × Server :=
  let (a, s) :=
    match Fault.strike? r.method key s.faults with
    | some (f, faults) => (refusal f.status f.reason, { s with faults })
    | none => s.act r.method key (r.body.getD .null)
  (a, { s with exchanges := s.exchanges ++ [⟨s.now, r.method, key, a.status⟩] })

/-- The server at the other end of HTTP. -/
def transport : Rest.Transport Server := fun r s =>
  match subject? r with
  | none => (.response (refusal 404 "NotFound").response, s)
  | some key =>
    let (a, s) := s.answer r key
    (.response a.response, s)

/-- A change is made. What is told of it holds the object as it is stored,
or as it was stored before it was removed. -/
def change (s : Server) (x : Change) : Change × Server :=
  let key : Key := ⟨x.kind, identityIn x.object⟩
  if x.removed then ({ x with object := (s.find? key).getD x.object }, s.drop key)
  else
    let (v, s) := s.keep key x.object
    ({ x with object := v }, s)

/-- Changes are made in turn. -/
def changeAll (s : Server) : List Change → List Change × Server
  | [] => ([], s)
  | x :: rest =>
    let (told, s) := s.change x
    let (more, s) := s.changeAll rest
    (told :: more, s)

/-- How many requests the faults can still strike that do not last for
ever. -/
def strikesLeft (s : Server) : Nat := s.faults.foldl (fun n f => n + f.times.getD 0) 0

/-- The server as a control plane. -/
def plane : Plane Server := Rest.plane transport

end Server

end ServingOperator.Cluster
