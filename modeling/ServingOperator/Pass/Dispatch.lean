-- What happens to an intent that has changed: a pass is run over it, and a
-- failed pass is tried again after a while. The copy at hand says only
-- which intent it is, the pass reads the intent anew.
import ServingOperator.Pass.Reconcile

namespace ServingOperator

/-- What is to be done about an intent after a pass. -/
inductive Action where
  | awaitChange
  | requeue (seconds : UInt64)
  deriving DecidableEq, Repr, Inhabited

/-- The seconds to wait before a failed pass is tried again. A pass that
met a conflict has to read fresh versions and may be tried sooner. -/
structure RequeueDelays where
  conflict : UInt64 := 1
  error : UInt64 := 15
  deriving DecidableEq, Repr, Inhabited

/-- What is to be done after a pass that failed. A cancelled one is not
tried again. -/
def RequeueDelays.afterFailure (d : RequeueDelays) (r : Report ReconcileError) : Action :=
  if r.isCancelled then .awaitChange
  else if r.isConflict then .requeue d.conflict
  else .requeue d.error

/-- The event that tells of a failed pass over an intent. -/
def failureEvent (intent : Intent) (r : Report ReconcileError) : Event :=
  if r.isCancelled then .cancelled intent.metadata.anyName
  else .failed intent.metadata.anyName intent.metadata.ns r.top

/-- A dispatch that has ended: how it failed, if it did, and what is to be
done. -/
structure Dispatched where
  failure : Option (Report ReconcileError)
  action : Action
  deriving DecidableEq, Repr

namespace Pass

/-- A pass over the intent that a copy names. -/
def dispatch (policies : PolicyTable) (intent : Intent) : Attempt Action :=
  match Kind.identity? (k := .intent) intent with
  | .error r =>
    Attempt.fail (r.wrap (.intentLookup ⟨intent.metadata.ns.getD "", intent.metadata.anyName⟩))
  | .ok id =>
    (reconcile policies id).bind fun
      | .ok (.converged workload endpoint) =>
        .note (.reconciled id workload endpoint) (Attempt.ok .awaitChange)
      | .ok .intentGone => Attempt.ok .awaitChange
      | .error r => Attempt.fail r

/-- A dispatch and, if it fails, the decision when to try again. -/
def handle (policies : PolicyTable) (delays : RequeueDelays) (intent : Intent) : Pass Dispatched :=
  (dispatch policies intent).bind fun
    | .ok action => .done ⟨none, action⟩
    | .error r => .note (failureEvent intent r) (.done ⟨some r, delays.afterFailure r⟩)

end Pass

end ServingOperator
