-- Targets of requests: where an object lives at the API server. Names go
-- into the path as they are. A question mark in one starts the query, a
-- number sign ends the target, and other characters may not be allowed.
import ServingOperator.Kind
import ServingOperator.Identity
import ServingOperator.Text.Bytes
import ServingOperator.Text.Split

namespace ServingOperator.Rest

/-! ## Paths -/

/-- The path of the group and version that a kind belongs to. -/
def groupPath : Kind → String
  | .intent => "/apis/" ++ Intent.apiVersion
  | .workload => "/apis/" ++ Workload.apiVersion
  | .endpoint => "/api/" ++ Endpoint.apiVersion

/-- The name of a kind in paths. -/
def plural : Kind → String
  | .intent => Intent.plural
  | .workload => "deployments"
  | .endpoint => "services"

/-- The path of all objects of a kind, in one namespace or in the whole
cluster. -/
def collectionPath (k : Kind) : Option String → String
  | some ns => groupPath k ++ "/namespaces/" ++ ns ++ "/" ++ plural k
  | none => groupPath k ++ "/" ++ plural k

/-- The path of one object. -/
def objectPath (k : Kind) (i : Identity) : String := collectionPath k (some i.ns) ++ "/" ++ i.name

/-- The query that names who writes. -/
def writerQuery : String := "?&fieldManager=model-operator"

/-! ## Targets -/

/-- A path and, after a question mark, a query. -/
structure Target where
  path : List Char
  query : Option (List Char)
  deriving DecidableEq, Repr

/-- The most bytes a target may have. -/
def maxTargetBytes : Nat := 65534

/-- A printable ASCII character that may stand in a path. -/
def allowedInPath (c : Char) : Bool :=
  '!' ≤ c && c ≤ '~' && c ∉ ['#', '<', '>', '?', '\x60']

/-- A printable ASCII character that may stand in a query. -/
def allowedInQuery (c : Char) : Bool :=
  '!' ≤ c && c ≤ '~' && c ∉ ['"', '#', '<', '>']

namespace Target

/-- The query of a target: what stands there up to a number sign. -/
def query? : List Char → Option (List Char)
  | [] => some []
  | c :: cs =>
    if c = '#' then some []
    else if allowedInQuery c then (query? cs).map (c :: ·)
    else none

/-- The path of a target, and its query if there is one. -/
def split? : List Char → Option Target
  | [] => some ⟨[], none⟩
  | c :: cs =>
    if c = '#' then some ⟨[], none⟩
    else if c = '?' then (query? cs).map fun q => ⟨[], some q⟩
    else if allowedInPath c then (split? cs).map fun t => ⟨c :: t.path, t.query⟩
    else none

/-- Reads a target. It must not be too long, and every character up to a
number sign must be allowed where it stands. -/
def ofChars? (cs : List Char) : Option Target :=
  if maxTargetBytes < Text.byteLength cs then none else split? cs

/-- The pairs of the query: key and value at each side of the first equals
sign. -/
def pairs (t : Target) : List (String × String) :=
  match t.query with
  | none => []
  | some q =>
    ((Text.pieces '&' q).filter (· ≠ [])).map fun p =>
      let (key, value) := Text.cutAt '=' p
      (String.ofList key, String.ofList (value.getD []))

end Target

end ServingOperator.Rest
