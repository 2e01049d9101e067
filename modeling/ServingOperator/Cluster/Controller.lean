-- The controller: it watches a cluster and runs a pass over an intent when
-- the intent or one of its children changes, and again after a while when
-- the pass failed. Time goes by in seconds, and passes take none of it. The
-- changes of a second are made before the first pass of that second.
import ServingOperator.Cluster.Server
import ServingOperator.Cluster.Watch
import ServingOperator.Pass.Dispatch

namespace ServingOperator.Cluster

/-- What the controller writes to the log. -/
inductive Notice where
  | starting
  | ofPass (e : Event)
  | finished
  | failed (i : Identity)
  | unknown (i : Identity)
  /-- An object that was heard of cannot be read. -/
  | unreadable
  | shutdown
  deriving DecidableEq, Repr

namespace Notice

/-- An intent as the log names it. -/
def designation (i : Identity) : String :=
  Intent.kind ++ "." ++ Intent.version ++ "." ++ Intent.group ++ "/" ++ i.name ++ "." ++ i.ns

def level : Notice → Level
  | ofPass e => e.level
  | finished => .debug
  | failed _ => .warn
  | unknown _ => .warn
  | unreadable => .warn
  | _ => .info

/-- What a notice says, in full. -/
def text : Notice → String
  | starting => "Starting ModelDeployment controller"
  | ofPass e => e.message
  | finished => "reconcile finished"
  | failed i => "reconcile dispatch failed: reconciler for object " ++ designation i ++ " failed"
  | unknown i =>
    "reconcile dispatch failed: tried to reconcile object " ++ designation i ++
      " that was not found in local store"
  | unreadable => "reconcile dispatch failed: event queue error"
  | shutdown => "ModelDeployment controller shutdown requested"

/-- What a notice says, on one line. -/
def message (n : Notice) : String := Text.firstLine n.text

end Notice

/-! ## The queue -/

/-- The intents that a pass is due for, each with the second at which it is
due. -/
abbrev Queue := List (Identity × Nat)

namespace Queue

/-- Makes a pass due at second `t`, unless one is due sooner. -/
def schedule (q : Queue) (i : Identity) (t : Nat) : Queue :=
  match q.lookup i with
  | none => q ++ [(i, t)]
  | some u => q.map fun e => if e.1 = i then (i, min t u) else e

/-- The intents that a pass is due for at second `t`. -/
def dueAt (q : Queue) (t : Nat) : List Identity := (q.filter (·.2 ≤ t)).map (·.1)

/-- The queue without an intent. -/
def without (q : Queue) (i : Identity) : Queue := q.filter (·.1 ≠ i)

/-- The queue without an intent that is due by second `t`. -/
def withoutDue (q : Queue) (i : Identity) (t : Nat) : Queue :=
  q.filter fun e => e.1 ≠ i || t < e.2

/-- The longest delay in seconds: 36 bits count the milliseconds. -/
def longestDelay : Nat := (Nat.pow 2 36 - 1) / 1000

end Queue

/-! ## The controller -/

/-- Where a controller looks, and how it does its work. -/
structure Setup where
  scope : Scope
  policies : PolicyTable
  delays : RequeueDelays

/-- A controller in its cluster. -/
structure Controller where
  setup : Setup
  server : Server
  /-- Copies of the intents in scope. -/
  known : List (Identity × Intent) := []
  queue : Queue := []
  log : List Notice := []
  /-- A pass was to be put off for longer than the queue can. The controller
  does not survive this. -/
  broken : Bool := false

namespace Controller

/-- Keeps the copy of an intent, or drops it. -/
def learn (c : Controller) {k : Kind} (i : Identity) (o : k.Object) (removed : Bool) : Controller :=
  match k, o with
  | .intent, o =>
    let others := c.known.filter (·.1 ≠ i)
    { c with known := if removed then others else others ++ [(i, o)] }
  | _, _ => c

/-- Hears that an object is there now, or is there no more, and tells which
intents this concerns. An intent that was removed needs no pass. -/
def hear (c : Controller) (k : Kind) (v : Json) (removed : Bool) : Controller × List Identity :=
  let i := identityIn v
  if c.setup.scope.holds i.ns then
    match k.decode v with
    | .error _ => ({ c with log := c.log ++ [.unreadable] }, [])
    | .ok o => (c.learn i o removed, if removed ∧ k = .intent then [] else concerned i o)
  else (c, [])

/-- Runs a pass over an intent that the controller knows, and puts the next
one off if it fails. -/
def attend (c : Controller) (i : Identity) : Controller :=
  let c := { c with queue := c.queue.withoutDue i c.server.now }
  match c.known.lookup i with
  | none => { c with log := c.log ++ [.unknown i] }
  | some copy =>
    let r := (Pass.handle c.setup.policies c.setup.delays copy).run
      { plane := Server.plane } c.server
    let c := { c with server := r.state, log := c.log ++ r.log.map .ofPass }
    match r.ending with
    | none => c
    | some d =>
      let c := { c with log := c.log ++ [if d.failure.isSome then .failed i else .finished] }
      match d.action with
      | .awaitChange => c
      | .requeue n =>
        if Queue.longestDelay < n.toNat then { c with broken := true }
        else { c with queue := c.queue.schedule i (c.server.now + n.toNat) }

/-- Runs the passes that are due by now. -/
def attendDue (c : Controller) : Controller :=
  (c.queue.dueAt c.server.now).foldl attend c

/-- Runs the passes that are due by now, and those that are put off by no
time at all. A pass that fails in the end for want of faults has used up
one fault in each round. -/
def settle (rounds : Nat) (c : Controller) : Controller :=
  match rounds with
  | 0 => c
  | rounds + 1 => if c.queue.dueAt c.server.now = [] then c else settle rounds c.attendDue

/-! ## A second -/

/-- The intents that passes are run for because of what is heard in
a second. One pass at a time runs over an intent, and what is heard
meanwhile makes one more pass wait for its end. -/
structure Agenda where
  running : List Identity
  started : List Identity := []
  waiting : List Identity := []

/-- A pass is wanted for an intent. It takes the place of one that is put
off. Only an intent that is known at this moment gets it. -/
def want (c : Controller) (a : Agenda) (i : Identity) : Controller × Agenda :=
  if a.running.contains i then
    (c, if a.waiting.contains i then a else { a with waiting := a.waiting ++ [i] })
  else
    let c := { c with queue := c.queue.without i }
    match c.known.lookup i with
    | none => ({ c with log := c.log ++ [.unknown i] }, a)
    | some _ => (c, { a with running := i :: a.running, started := a.started ++ [i] })

/-- Hears of changes in turn. -/
def hearAll (c : Controller) (a : Agenda) : List Change → Controller × Agenda
  | [] => (c, a)
  | x :: rest =>
    let (c, wanted) := c.hear x.kind x.object x.removed
    let (c, a) := wanted.foldl (fun (c, a) i => c.want a i) (c, a)
    hearAll c a rest

/-- One second. Others make their changes. The passes that were put off
until now run, then those for what is heard of the changes, and last those
that had to wait. -/
def second (changes : List Change) (c : Controller) (t : Nat) : Controller :=
  let (heard, server) := ({ c.server with now := t }).changeAll (changes.filter (·.time = t))
  let c := { c with server }
  let running := (c.queue.dueAt t).filter fun i => (c.known.lookup i).isSome
  let (c, a) := c.attendDue.hearAll { running } heard
  let c := a.waiting.foldl attend (a.started.foldl attend c)
  c.settle (c.server.strikesLeft + 1)

/-- The controller as it starts: it lists the objects in its scope. Passes
are due for all intents that this concerns, one for each. -/
def start (setup : Setup) (server : Server) : Controller :=
  server.objects.reverse.foldl (fun c (key, v) =>
      let (c, wanted) := c.hear key.kind v false
      { c with queue := wanted.foldl (fun q i => q.schedule i server.now) c.queue })
    { setup, server, log := [.starting] }

/-- The first second after `t` at which something happens: a change, or
a pass that is put off until then. -/
def nextAfter? (c : Controller) (changes : List Change) (t : Nat) : Option Nat :=
  ((changes.map (·.time) ++ c.queue.map (·.2)).filter (t < ·)).min?

/-- The seconds at which something happens, from `t` to `last`. -/
def seconds (changes : List Change) (last t : Nat) (c : Controller) : Controller :=
  let c := c.second changes t
  match c.nextAfter? changes t with
  | none => c
  | some u => if t < u ∧ u ≤ last then seconds changes last u c else c
termination_by last - t

/-- Runs a controller from second 0 to second `last` and shuts it down.
What is changed in second 0 is there before the controller starts. -/
def run (setup : Setup) (server : Server) (changes : List Change) (last : Nat) : Controller :=
  let (_, server) := server.changeAll (changes.filter (·.time = 0))
  let later := changes.filter (0 < ·.time)
  let c := (start setup server).seconds later last 0
  { c with log := c.log ++ [.shutdown] }

end Controller

end ServingOperator.Cluster
