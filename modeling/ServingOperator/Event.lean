-- What is written to the log while intents are reconciled.
import ServingOperator.Failure
import ServingOperator.Logging.Level

namespace ServingOperator

/-- What was done to a child. -/
inductive ChildAction where
  | created
  | updated
  deriving DecidableEq, Repr, Inhabited

def ChildAction.name : ChildAction → String
  | created => "created"
  | updated => "updated"

inductive Event where
  | intentGone
  | childAbsent (kind : Kind)
  | childReconciled (kind : Kind) (action : ChildAction)
  | reconciled (identity : Identity) (workload endpoint : ChildAction)
  | cancelled (name : String)
  | failed (name : String) (ns : Option String) (error : ReconcileError)
  deriving DecidableEq, Repr, Inhabited

namespace Event

def level : Event → Level
  | childAbsent _ => .debug
  | failed .. => .error
  | _ => .info

/-- The message of an event. A failure is told in one line. -/
def message : Event → String
  | intentGone => "ModelDeployment not found, nothing to reconcile"
  | childAbsent _ => "child absent"
  | childReconciled _ _ => "child reconciled"
  | reconciled .. => "ModelDeployment reconciled"
  | cancelled _ => "reconciliation cancelled, not requeueing"
  | failed _ _ e => "reconciliation failed: " ++ Text.heading e.message

/-- The named texts that go with the message. -/
def fields : Event → List (String × String)
  | intentGone => []
  | childAbsent k => [("kind", k.name)]
  | childReconciled k a => [("kind", k.name), ("action", a.name)]
  | reconciled i w e => [("identity", i.display), ("workload", w.name), ("endpoint", e.name)]
  | cancelled name => [("name", name)]
  | failed name ns _ => [("name", name), ("namespace", Text.quotedOption ns)]

end Event

end ServingOperator
