-- A control plane in memory. Objects are kept in their JSON form, each with
-- the version it got when it was stored. One counter gives all versions. A
-- replace must name the version it replaces, and a create must find nothing
-- stored. Calls are recorded, and any verb on a kind can be made to fail or
-- to hang.
import ServingOperator.Pass.Run

namespace ServingOperator

/-- Where an object is kept. -/
structure Key where
  kind : Kind
  identity : Identity
  deriving DecidableEq, Repr

/-- A call as it is recorded. -/
structure CallRecord where
  verb : Verb
  kind : Kind
  identity : Identity
  deriving DecidableEq, Repr

def CallRecord.display (c : CallRecord) : String :=
  c.verb.name ++ " " ++ c.kind.name ++ " " ++ c.identity.display

structure Store where
  objects : List (Key × Json) := []
  /-- The version given last. -/
  counter : Nat := 0
  calls : List CallRecord := []
  failures : List ((Verb × Kind) × PlaneError) := []
  hanging : List (Verb × Kind) := []

namespace Store

def empty : Store := {}

/-! ## Objects -/

/-- The JSON form kept under a key. -/
def find? (s : Store) (key : Key) : Option Json := s.objects.lookup key

/-- Keeps a value under a key, and nothing else under it. -/
def put (s : Store) (key : Key) (v : Json) : Store :=
  { s with objects := (key, v) :: s.objects.filter (·.1 ≠ key) }

/-- Keeps nothing under a key. -/
def drop (s : Store) (key : Key) : Store :=
  { s with objects := s.objects.filter (·.1 ≠ key) }

/-- The object kept under an identity, if there is one. -/
def load (s : Store) (k : Kind) (i : Identity) : Except (Report PlaneError) (Option k.Object) :=
  match s.find? ⟨k, i⟩ with
  | none => .ok none
  | some v =>
    match k.decode v with
    | .ok o => .ok (some o)
    | .error e =>
      .error (.of (.rejected k i 500 ("stored object does not decode: " ++ e.message)))

/-- The object kept under an identity, for a look without a call. -/
def stored? (s : Store) (k : Kind) (i : Identity) : Option k.Object :=
  match s.load k i with
  | .ok o => o
  | .error _ => none

/-- The version of the object that is stored next. -/
def nextVersion (s : Store) : String := toString (s.counter + 1)

/-- An object with a version in place of its own. -/
def withVersion {k : Kind} (o : k.Object) (version : String) : k.Object :=
  Kind.withMetadata o { Kind.metadata o with resourceVersion := some version }

/-- Stores an object under an identity with the next version. -/
def keep (s : Store) {k : Kind} (i : Identity) (o : k.Object) : k.Object × Store :=
  let o := withVersion o s.nextVersion
  (o, { s.put ⟨k, i⟩ (Kind.encode o) with counter := s.counter + 1 })

/-! ## What others do -/

/-- Stores an object whatever is there. An object without a name or a
namespace cannot be stored. -/
def insert (s : Store) {k : Kind} (o : k.Object) : Except (Report PlaneError) (k.Object × Store) :=
  (Kind.identity? o).map fun i => s.keep i o

def remove (s : Store) (k : Kind) (i : Identity) : Store := s.drop ⟨k, i⟩

/-- Makes every such call fail. -/
def failOn (s : Store) (verb : Verb) (k : Kind) (e : PlaneError) : Store :=
  { s with failures := ((verb, k), e) :: s.failures.filter (·.1 ≠ (verb, k)) }

def clearFailures (s : Store) : Store := { s with failures := [] }

/-- Makes every such call hang. -/
def hangOn (s : Store) (verb : Verb) (k : Kind) : Store :=
  { s with hanging := (verb, k) :: s.hanging }

/-- The recorded calls that write. -/
def writes (s : Store) : List CallRecord := s.calls.filter (·.verb ≠ .get)

/-! ## Calls -/

/-- Creates an object. It must not be there yet. -/
def create (s : Store) {k : Kind} (i : Identity) (o : k.Object) :
    Except (Report PlaneError) k.Object × Store :=
  match s.find? ⟨k, i⟩ with
  | some _ => (.error (.of (.conflict k i)), s)
  | none =>
    let (o, s) := s.keep i o
    (.ok o, s)

/-- Replaces an object. It must be there, with the version that the new
object names. -/
def replace (s : Store) {k : Kind} (i : Identity) (o : k.Object) :
    Except (Report PlaneError) k.Object × Store :=
  match s.load k i with
  | .error r => (.error r, s)
  | .ok none => (.error (.of (.rejected k i 404 "NotFound")), s)
  | .ok (some current) =>
    if (Kind.metadata current).resourceVersion ≠ (Kind.metadata o).resourceVersion then
      (.error (.of (.conflict k i)), s)
    else
      let (o, s) := s.keep i o
      (.ok o, s)

/-- Records a call and, unless it is made to hang or to fail, does what it
asks for. -/
def step {α : Type} (s : Store) (c : CallRecord)
    (act : Store → Except (Report PlaneError) α × Store) : Served α × Store :=
  let s := { s with calls := s.calls ++ [c] }
  if (c.verb, c.kind) ∈ s.hanging then (.hangs, s)
  else
    match s.failures.lookup (c.verb, c.kind) with
    | some e => (.answers (.error (.of e)), s)
    | none =>
      let (r, s) := act s
      (.answers r, s)

/-- The store as a control plane. A written object that lacks a name or a
namespace is refused before the call is recorded. -/
def plane : Plane Store
  | .get k i, s => s.step ⟨.get, k, i⟩ fun s => (s.load k i, s)
  | .create k o, s =>
    match Kind.identity? o with
    | .error r => (.answers (.error r), s)
    | .ok i => s.step ⟨.create, k, i⟩ fun s => s.create i o
  | .replace k o, s =>
    match Kind.identity? o with
    | .error r => (.answers (.error r), s)
    | .ok i => s.step ⟨.replace, k, i⟩ fun s => s.replace i o

/-! ## Operations of other clients -/

/-- Anything that can be done to a store. -/
inductive Operation where
  | insert (k : Kind) (o : k.Object)
  | remove (k : Kind) (i : Identity)
  | failOn (verb : Verb) (k : Kind) (e : PlaneError)
  | clearFailures
  | hangOn (verb : Verb) (k : Kind)
  | call (c : Call)

/-- The store after an operation. An object that cannot be stored changes
nothing. -/
def perform (s : Store) : Operation → Store
  | .insert _ o =>
    match s.insert o with
    | .ok (_, s) => s
    | .error _ => s
  | .remove k i => s.remove k i
  | .failOn verb k e => s.failOn verb k e
  | .clearFailures => s.clearFailures
  | .hangOn verb k => s.hangOn verb k
  | .call c => (plane c s).2

end Store

end ServingOperator
