-- One pass over an intent: it reads the intent and makes its children be
-- what the intent asks for. A child is created if it is missing and
-- replaced otherwise, the workload before the endpoint. The first failure
-- ends the pass, and nothing is tried twice.
import ServingOperator.Adoption
import ServingOperator.Desired
import ServingOperator.Pass.Basic

namespace ServingOperator

/-- How a pass ends that does not fail. -/
inductive Outcome where
  /-- The intent is no more, and nothing was written. -/
  | intentGone
  /-- Both children were written. -/
  | converged (workload endpoint : ChildAction)
  deriving DecidableEq, Repr, Inhabited

namespace Pass

/-- Makes one child of an intent be the desired one. -/
def convergeChild (id : Identity) (intent : Intent) (c : Child) (desired : c.Object)
    (next : ChildAction → Attempt Outcome) : Attempt Outcome :=
  Attempt.request id (.childLookup c.kind id) (.get c.kind id) fun current =>
  match attachOwner intent desired with
  | .error r => Attempt.fail (r.wrap (.ownerReference c.kind id))
  | .ok owned =>
    match current with
    | none =>
      .note (.childAbsent c.kind) <|
      Attempt.request id (.write c.kind .create id) (.create c.kind owned) fun _ =>
      .note (.childReconciled c.kind .created) (next .created)
    | some current =>
      Attempt.request id (.write c.kind .replace id)
        (.replace c.kind (Child.carryOver owned current)) fun _ =>
      .note (.childReconciled c.kind .updated) (next .updated)

/-- Makes both children of an intent be what it asks for. -/
def converge (policies : PolicyTable) (id : Identity) (intent : Intent) : Attempt Outcome :=
  match Desired.workload policies intent with
  | .error r => Attempt.fail (r.wrap (.unknownRuntime id intent.spec.runtimeSelector))
  | .ok workload =>
    convergeChild id intent .workload workload fun workloadAction =>
    convergeChild id intent .endpoint (Desired.endpoint intent) fun endpointAction =>
    Attempt.ok (.converged workloadAction endpointAction)

/-- One pass over the intent `id`. -/
def reconcile (policies : PolicyTable) (id : Identity) : Attempt Outcome :=
  Attempt.request id (.intentLookup id) (.get .intent id) fun
    | none => .note .intentGone (Attempt.ok .intentGone)
    | some intent => converge policies id intent

end Pass

end ServingOperator
