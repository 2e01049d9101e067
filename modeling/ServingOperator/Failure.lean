-- What can go wrong, and how it is reported. A report is a stack of
-- contexts: what was being done at the top, and beneath it what went wrong
-- while doing it.
import ServingOperator.Identity
import ServingOperator.Kind
import ServingOperator.Rest.Failure
import ServingOperator.Text.Quoted

namespace ServingOperator

/-! ## Causes -/

/-- A call that writes an object. -/
inductive WriteVerb where
  | create
  | replace
  deriving DecidableEq, Repr, Inhabited

def WriteVerb.name : WriteVerb → String
  | create => "create"
  | replace => "replace"

/-- Failures of a call to the control plane. -/
inductive PlaneError where
  | connectionFailed (message : String)
  | conflict (kind : Kind) (identity : Identity)
  | rejected (kind : Kind) (identity : Identity) (code : UInt16) (reason : String)
  | unavailable (kind : Kind) (identity : Identity)
  | incompleteObject (kind : String) (field : String)
  deriving DecidableEq, Repr, Inhabited

/-- Reasons why a pass did not converge. -/
inductive ReconcileError where
  | intentLookup (identity : Identity)
  | childLookup (kind : Kind) (identity : Identity)
  | write (kind : Kind) (verb : WriteVerb) (identity : Identity)
  | ownerReference (kind : Kind) (identity : Identity)
  | unknownRuntime (identity : Identity) (selector : String)
  | cancelled (identity : Identity)
  deriving DecidableEq, Repr, Inhabited

/-- A runtime that no policy is known for. -/
inductive PolicyError where
  | unknownRuntime (selector : String)
  deriving DecidableEq, Repr, Inhabited

/-- An owner that lacks what a reference to it needs. -/
inductive OwnershipError where
  | missingOwnerField (kind : String) (field : String)
  deriving DecidableEq, Repr, Inhabited

/-- The kinds of failures beneath a call: the server refuses it, the request
does not get through, the body is no object of the kind, no request can be
made of the names, or the body is no text. -/
inductive ClientError where
  | api
  | transport
  | undecodable
  | noRequest
  | noText
  deriving DecidableEq, Repr, Inhabited

/-- The kind of a failure. -/
def Rest.ClientFailure.error : Rest.ClientFailure → ClientError
  | api _ => .api
  | transport => .transport
  | undecodable => .undecodable
  | noRequest => .noRequest
  | noText => .noText

instance : Coe Rest.ClientFailure ClientError := ⟨Rest.ClientFailure.error⟩

namespace PlaneError

def message : PlaneError → String
  | connectionFailed m => "Failed to connect to Kubernetes API: " ++ m
  | conflict k i => "Write conflict on " ++ k.name ++ " " ++ i.display ++ ": stale or duplicate object"
  | rejected k i code reason =>
    k.name ++ " " ++ i.display ++ " rejected by API server (" ++ toString code.toNat ++ "): " ++ reason
  | unavailable k i => "Kubernetes API unavailable while accessing " ++ k.name ++ " " ++ i.display
  | incompleteObject k field => k ++ " object is missing " ++ field

/-- A write against a stale or duplicate object. -/
def isConflict : PlaneError → Bool
  | conflict _ _ => true
  | _ => false

end PlaneError

namespace ReconcileError

def message : ReconcileError → String
  | intentLookup i => "Failed to fetch intent " ++ i.display
  | childLookup k i => "Failed to fetch " ++ k.name ++ " " ++ i.display
  | write k verb i => "Failed to " ++ verb.name ++ " " ++ k.name ++ " " ++ i.display
  | ownerReference k i => "Failed to attach owner reference to " ++ k.name ++ " " ++ i.display
  | unknownRuntime i selector =>
    "Intent " ++ i.display ++ " requests unsupported runtime " ++ Text.quoted selector
  | cancelled i => "Reconciliation of " ++ i.display ++ " was cancelled"

def isCancelled : ReconcileError → Bool
  | cancelled _ => true
  | _ => false

end ReconcileError

def PolicyError.message : PolicyError → String
  | unknownRuntime selector => "Unknown runtime selector " ++ Text.quoted selector

def OwnershipError.message : OwnershipError → String
  | missingOwnerField k field => "Owner " ++ k ++ " has no " ++ field

/-! ## Reports -/

/-- One level of a report. -/
inductive Context where
  | plane (e : PlaneError)
  | reconcile (e : ReconcileError)
  | policy (e : PolicyError)
  | ownership (e : OwnershipError)
  | client (e : Rest.ClientFailure)
  deriving DecidableEq, Repr, Inhabited

/-- An error that can be a level of a report. -/
class Reportable (ε : Type) where
  context : ε → Context

instance : Reportable PlaneError := ⟨.plane⟩
instance : Reportable ReconcileError := ⟨.reconcile⟩
instance : Reportable PolicyError := ⟨.policy⟩
instance : Reportable OwnershipError := ⟨.ownership⟩
instance : Reportable Rest.ClientFailure := ⟨.client⟩

/-- An error, and beneath it the levels that led to it, the nearest one
first. -/
structure Report (ε : Type) where
  top : ε
  beneath : List Context := []
  deriving DecidableEq, Repr, Inhabited

namespace Report

variable {ε δ : Type}

/-- The report of an error that nothing led to. -/
def of (e : ε) : Report ε := ⟨e, []⟩

/-- All levels of a report, the top one first. -/
def levels [Reportable ε] (r : Report ε) : List Context := Reportable.context r.top :: r.beneath

/-- Puts a level on top of a report. -/
def wrap [Reportable ε] (r : Report ε) (e : δ) : Report δ := ⟨e, r.levels⟩

/-- The uppermost failure of the control plane in a report. -/
def planeError? [Reportable ε] (r : Report ε) : Option PlaneError :=
  r.levels.findSome? fun
    | .plane e => some e
    | _ => none

/-- The failure of the control plane nearest to the top is a conflict. -/
def isConflict (r : Report ReconcileError) : Bool := r.planeError?.any PlaneError.isConflict

/-- The pass was cancelled. A cancelled pass beneath another error does not
count. -/
def isCancelled (r : Report ReconcileError) : Bool := r.top.isCancelled

end Report

/-! ## Who an object is -/

/-- The identity of an object. The name is asked for first. -/
def Kind.identity? {k : Kind} (o : k.Object) : Except (Report PlaneError) Identity :=
  match (Kind.metadata o).name, (Kind.metadata o).ns with
  | none, _ => .error (.of (.incompleteObject k.name "metadata.name"))
  | some _, none => .error (.of (.incompleteObject k.name "metadata.namespace"))
  | some name, some ns => .ok ⟨ns, name⟩

end ServingOperator
