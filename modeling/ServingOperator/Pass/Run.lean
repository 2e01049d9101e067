-- Running a pass: a control plane answers the calls, others may change its
-- state between them, and a token may fire. A fired token is seen when the
-- next call is due, so that call is not made, or while a call hangs.
import ServingOperator.Pass.Basic

namespace ServingOperator

/-- How a call ends: it hangs for ever, or it is answered. -/
inductive Served (α : Type) where
  | hangs
  | answers (result : Except (Report PlaneError) α)

/-- A control plane whose state is a `σ`. -/
abbrev Plane (σ : Type) := (call : Call) → σ → Served call.Answer × σ

/-- A moment at which a token fires. Calls are counted from 1. -/
inductive Moment where
  /-- Before call `n` is due. -/
  | before (n : Nat)
  /-- While call `n` is made. If the call is answered, the answer counts. -/
  | during (n : Nat)
  /-- As soon as a call hangs. -/
  | blocked
  deriving DecidableEq, Repr

/-- The moments at which the token of a pass fires. -/
abbrev Token := List Moment

namespace Token

/-- The token has fired when call `n` is due. -/
def fired (t : Token) (n : Nat) : Bool :=
  t.any fun
    | .before m => m ≤ n
    | .during m => m < n
    | .blocked => false

/-- The token fires while call `n` hangs. -/
def firesDuring (t : Token) (n : Nat) : Bool :=
  t.any fun
    | .before _ => false
    | .during m => m = n
    | .blocked => true

end Token

/-- What a pass is run against. `meddle n` is what others do to the state
just before call `n`. -/
structure Surroundings (σ : Type) where
  plane : Plane σ
  token : Token := []
  meddle : Nat → σ → σ := fun _ s => s

/-- A pass after it was run: its end, unless it is blocked, the state it
left and the events it noted. -/
structure Run (σ α : Type) where
  ending : Option α
  state : σ
  log : List Event

namespace Pass

/-- Runs a pass from the point where call `n` comes next. -/
def runFrom {σ α : Type} (w : Surroundings σ) : Pass α → Nat → σ → Run σ α
  | done a, _, s => ⟨some a, s, []⟩
  | note e rest, n, s =>
    let r := rest.runFrom w n s
    { r with log := e :: r.log }
  | ask call next, n, s =>
    if w.token.fired n then (next .cancelled).runFrom w n s
    else
      match w.plane call (w.meddle n s) with
      | (.answers result, s) => (next (.answered result)).runFrom w (n + 1) s
      | (.hangs, s) =>
        if w.token.firesDuring n then (next .cancelled).runFrom w (n + 1) s
        else ⟨none, s, []⟩

def run {σ α : Type} (w : Surroundings σ) (p : Pass α) (s : σ) : Run σ α := p.runFrom w 1 s

end Pass

end ServingOperator
