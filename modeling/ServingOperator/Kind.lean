-- The three kinds of object that a pass reads or writes: the intent, and
-- its two children.
import ServingOperator.Manifest.Endpoint
import ServingOperator.Manifest.Intent
import ServingOperator.Manifest.Workload

namespace ServingOperator

inductive Kind where
  | intent
  | workload
  | endpoint
  deriving DecidableEq, Repr, Inhabited

namespace Kind

/-- The objects of a kind. -/
abbrev Object : Kind → Type
  | intent => Intent
  | workload => Workload
  | endpoint => Endpoint

/-- The name of a kind, as objects carry it. -/
def name : Kind → String
  | intent => Intent.kind
  | workload => Workload.kind
  | endpoint => Endpoint.kind

def ofName? (s : String) : Option Kind :=
  if s = Intent.kind then some intent
  else if s = Workload.kind then some workload
  else if s = Endpoint.kind then some endpoint
  else none

/-- The metadata of an object. -/
def metadata : {k : Kind} → k.Object → Metadata
  | intent, o => Intent.metadata o
  | workload, o => Workload.metadata o
  | endpoint, o => Endpoint.metadata o

/-- The object with other metadata. -/
def withMetadata : {k : Kind} → k.Object → Metadata → k.Object
  | intent, o, m => ({ (o : Intent) with metadata := m } : Intent)
  | workload, o, m => ({ (o : Workload) with metadata := m } : Workload)
  | endpoint, o, m => ({ (o : Endpoint) with metadata := m } : Endpoint)

def decode : (k : Kind) → Json → Decoded k.Object
  | intent => Intent.decode
  | workload => Workload.decode
  | endpoint => Endpoint.decode

def encode : {k : Kind} → k.Object → Json
  | intent, o => Intent.encode o
  | workload, o => Workload.encode o
  | endpoint, o => Endpoint.encode o

/-- The objects of a kind can be told apart. -/
instance : (k : Kind) → DecidableEq k.Object
  | intent => inferInstanceAs (DecidableEq Intent)
  | workload => inferInstanceAs (DecidableEq Workload)
  | endpoint => inferInstanceAs (DecidableEq Endpoint)

end Kind

/-! ## Children -/

/-- The kinds of object made for an intent. -/
inductive Child where
  | workload
  | endpoint
  deriving DecidableEq, Repr, Inhabited

namespace Child

abbrev kind : Child → Kind
  | workload => .workload
  | endpoint => .endpoint

abbrev Object (c : Child) : Type := c.kind.Object

end Child

end ServingOperator
