-- A pass is a conversation with the control plane: it makes one call after
-- the other and goes on as each is replied to. It is a value, so that what
-- answers the calls, what happens between them and when the pass is
-- cancelled are left to whoever runs it.
import ServingOperator.Event

namespace ServingOperator

/-- A call to the control plane. -/
inductive Call where
  | get (kind : Kind) (identity : Identity)
  | create (kind : Kind) (object : kind.Object)
  | replace (kind : Kind) (object : kind.Object)

inductive Verb where
  | get
  | create
  | replace
  deriving DecidableEq, Repr, Inhabited

def Verb.name : Verb → String
  | get => "get"
  | create => "create"
  | replace => "replace"

def Verb.ofName? (s : String) : Option Verb :=
  if s = "get" then some get
  else if s = "create" then some create
  else if s = "replace" then some replace
  else none

namespace Call

/-- What a call is answered with if it succeeds. To get nothing is to learn
that there is nothing. -/
abbrev Answer : Call → Type
  | get k _ => Option k.Object
  | create k _ => k.Object
  | replace k _ => k.Object

def verb : Call → Verb
  | get _ _ => .get
  | create _ _ => .create
  | replace _ _ => .replace

def kind : Call → Kind
  | get k _ => k
  | create k _ => k
  | replace k _ => k

/-- The object a call is about. A written object may lack a name. -/
def identity? : Call → Except (Report PlaneError) Identity
  | get _ i => .ok i
  | create _ o => Kind.identity? o
  | replace _ o => Kind.identity? o

end Call

/-- What a pass hears after a call: that it was cancelled, or an answer. -/
inductive Reply (α : Type) where
  | cancelled
  | answered (result : Except (Report PlaneError) α)

/-- A conversation that ends in an `α`. On the way it notes events. -/
inductive Pass (α : Type) where
  | done (result : α)
  | note (event : Event) (rest : Pass α)
  | ask (call : Call) (next : Reply call.Answer → Pass α)

namespace Pass

/-- The first conversation, and then the one that its end asks for. -/
def bind {α β : Type} : Pass α → (α → Pass β) → Pass β
  | done a, f => f a
  | note e rest, f => note e (rest.bind f)
  | ask call next, f => ask call fun r => (next r).bind f

end Pass

/-! ## Passes that may fail -/

/-- A pass that ends in an `α` or in a report. -/
abbrev Attempt (α : Type) := Pass (Except (Report ReconcileError) α)

namespace Attempt

variable {α : Type}

def ok (a : α) : Attempt α := .done (.ok a)

def fail (r : Report ReconcileError) : Attempt α := .done (.error r)

/-- Makes a call for the intent `id`. A cancelled pass ends at once, and a
failure is reported under `context`. -/
def request (id : Identity) (context : ReconcileError) (call : Call)
    (next : call.Answer → Attempt α) : Attempt α :=
  .ask call fun
    | .cancelled => fail (.of (.cancelled id))
    | .answered (.error r) => fail (r.wrap context)
    | .answered (.ok a) => next a

end Attempt

end ServingOperator
