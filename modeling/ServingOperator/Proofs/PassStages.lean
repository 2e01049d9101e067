-- The stages of a pass: where it can be between two calls. Each call leads
-- from one stage to the next, or to the end of the pass. At each stage but
-- the last a pass is a request, so a failure and a cancellation end it in
-- one way.
import ServingOperator.Proofs.WrittenChildren
import ServingOperator.Proofs.Crowd

namespace ServingOperator

/-- How a pass over an intent ends. -/
abbrev Verdict := Except (Report ReconcileError) Outcome

/-- The child whose turn it is. The endpoint comes second and knows what was
done to the workload. -/
inductive Turn where
  | workload
  | endpoint (first : ChildAction)

namespace Turn

abbrev child : Turn → Child
  | workload => .workload
  | endpoint _ => .endpoint

/-- The rest of a pass after the child was written. -/
def next (id : Identity) (intent : Intent) : Turn → ChildAction → Attempt Outcome
  | workload, first =>
    Pass.convergeChild id intent .endpoint (Desired.endpoint intent) fun second =>
    Attempt.ok (.converged first second)
  | endpoint first, second => Attempt.ok (.converged first second)

end Turn

/-- Where a pass is. -/
inductive Stage where
  /-- It is about to read the intent. -/
  | start
  /-- It is about to read a child. -/
  | reading (turn : Turn) (intent : Intent) (policy : RuntimePolicy)
  /-- It is about to write a child over what it has read. -/
  | writing (turn : Turn) (intent : Intent) (policy : RuntimePolicy) (owner : OwnerReference)
      (current : Option turn.child.Object)
  | ended (verdict : Verdict)

namespace Stage

/-- What is left of a pass at a stage. -/
def rest (policies : PolicyTable) (id : Identity) : Stage → Attempt Outcome
  | start => Pass.reconcile policies id
  | reading turn intent policy =>
    Pass.convergeChild id intent turn.child (turn.child.desired intent policy)
      (turn.next id intent)
  | writing turn intent policy owner current =>
    Attempt.request id (.write turn.child.kind (Child.writeVerb current) id)
      (Child.write (turn.child.owned intent policy owner) current) fun _ =>
    .note (.childReconciled turn.child.kind (Child.action current))
      (turn.next id intent (Child.action current))
  | ended verdict => .done verdict

/-! ## From stage to stage -/

/-- The stage after the intent was read. -/
def afterIntent (policies : PolicyTable) (id : Identity) : Option Intent → Stage
  | none => ended (.ok .intentGone)
  | some intent =>
    match policies.resolve intent.spec.runtimeSelector with
    | .error r => ended (.error (r.wrap (.unknownRuntime id intent.spec.runtimeSelector)))
    | .ok policy => reading .workload intent policy

/-- The stage after a child was read. -/
def afterRead (id : Identity) (turn : Turn) (intent : Intent) (policy : RuntimePolicy)
    (current : Option turn.child.Object) : Stage :=
  match intent.reference with
  | .error r => ended (.error (r.wrap (.ownerReference turn.child.kind id)))
  | .ok owner => writing turn intent policy owner current

/-- The stage after a child was written. -/
def afterWrite (intent : Intent) (policy : RuntimePolicy) : Turn → ChildAction → Stage
  | .workload, first => reading (.endpoint first) intent policy
  | .endpoint first, second => ended (.ok (.converged first second))

variable {policies : PolicyTable} {id : Identity} {turn : Turn} {intent : Intent}
  {policy : RuntimePolicy}

theorem start_rest (policies : PolicyTable) (id : Identity) :
    ∃ next : Option Intent → Attempt Outcome,
    start.rest policies id = Attempt.request id (.intentLookup id) (.get .intent id) next ∧
      ∀ intent?, (next intent?).unnoted = (afterIntent policies id intent?).rest policies id := by
  refine ⟨_, rfl, fun intent? => ?_⟩
  cases intent? with
  | none => rfl
  | some intent =>
    simp only [Pass.converge, Desired.workload, afterIntent]
    cases policies.resolve intent.spec.runtimeSelector with
    | error r => rfl
    | ok policy => rfl

theorem reading_rest (policies : PolicyTable) (id : Identity) (turn : Turn) (intent : Intent)
    (policy : RuntimePolicy) : ∃ next : Option turn.child.Object → Attempt Outcome,
    (reading turn intent policy).rest policies id =
      Attempt.request id (.childLookup turn.child.kind id) (.get turn.child.kind id) next ∧
      ∀ current, (next current).unnoted =
        (afterRead id turn intent policy current).rest policies id := by
  refine ⟨_, rfl, fun current => ?_⟩
  rw [attachOwner_eq, afterRead]
  cases intent.reference with
  | error r => rfl
  | ok owner => cases current <;> rfl

theorem unnoted_next (policies : PolicyTable) (policy : RuntimePolicy) (first : ChildAction) :
    (turn.next id intent first).unnoted =
      (afterWrite intent policy turn first).rest policies id := by
  cases turn <;> rfl

/-- A pass that is cancelled at a stage ends there. -/
theorem cancelled_rest {st : Stage} {call : Call} {next : Reply call.Answer → Attempt Outcome}
    (h : .ask call next = st.rest policies id) :
    next .cancelled = (ended (.error (.of (.cancelled id)))).rest policies id := by
  cases st with
  | ended => cases h
  | start | reading | writing =>
    cases h
    rfl

/-! ## The call of a stage -/

/-- At a stage that is not the last, a pass makes a call. This is under which
context its failure is reported, and the stage that follows an answer. -/
inductive Asks (policies : PolicyTable) (id : Identity) :
    Stage → ReconcileError → (call : Call) → (call.Answer → Stage) → Prop
  | start :
    Asks policies id start (.intentLookup id) (.get .intent id) (afterIntent policies id)
  | reading (turn : Turn) (intent : Intent) (policy : RuntimePolicy) :
    Asks policies id (reading turn intent policy) (.childLookup turn.child.kind id)
      (.get turn.child.kind id) (afterRead id turn intent policy)
  | writing (turn : Turn) (intent : Intent) (policy : RuntimePolicy) (owner : OwnerReference)
      (current : Option turn.child.Object) :
    Asks policies id (writing turn intent policy owner current)
      (.write turn.child.kind (Child.writeVerb current) id)
      (Child.write (turn.child.owned intent policy owner) current)
      fun _ => afterWrite intent policy turn (Child.action current)

variable {st : Stage} {context : ReconcileError} {call : Call} {after : call.Answer → Stage}

/-- What is left of a pass at a stage is the request for its call. -/
theorem Asks.rest_eq (h : Asks policies id st context call after) :
    ∃ next : call.Answer → Attempt Outcome,
    st.rest policies id = Attempt.request id context call next ∧
      ∀ a, (next a).unnoted = (after a).rest policies id := by
  cases h with
  | start => exact start_rest policies id
  | reading turn intent policy => exact reading_rest policies id turn intent policy
  | writing turn intent policy owner current =>
    exact ⟨_, rfl, fun _ => unnoted_next policies policy (Child.action current)⟩

/-- What holds of each last stage, and of a stage if it holds of all that
follow an answer to its call, holds of all stages. -/
theorem induction_asks {motive : Stage → Prop} (policies : PolicyTable) (id : Identity)
    (ended : ∀ v, motive (ended v))
    (asks : ∀ {st context call} {after : call.Answer → Stage},
      Asks policies id st context call after → (∀ a, motive (after a)) → motive st)
    (st : Stage) : motive st := by
  have read : ∀ turn intent policy,
      (∀ owner current, motive (writing turn intent policy owner current)) →
        motive (reading turn intent policy) := by
    intro turn intent policy hwriting
    refine asks (.reading turn intent policy) fun current => ?_
    unfold afterRead
    cases intent.reference with
    | error r => exact ended _
    | ok owner => exact hwriting owner current
  have writeEndpoint : ∀ first intent policy owner current,
      motive (writing (.endpoint first) intent policy owner current) :=
    fun first intent policy owner current =>
      asks (.writing (.endpoint first) intent policy owner current) fun _ => ended _
  have writeWorkload : ∀ intent policy owner current,
      motive (writing .workload intent policy owner current) :=
    fun intent policy owner current =>
      asks (.writing .workload intent policy owner current) fun _ =>
        read _ intent policy (writeEndpoint _ intent policy)
  cases st with
  | ended v => exact ended v
  | writing turn intent policy owner current =>
    cases turn with
    | workload => exact writeWorkload intent policy owner current
    | endpoint first => exact writeEndpoint first intent policy owner current
  | reading turn intent policy =>
    cases turn with
    | workload => exact read _ intent policy (writeWorkload intent policy)
    | endpoint first => exact read _ intent policy (writeEndpoint first intent policy)
  | start =>
    refine asks .start fun intent? => ?_
    cases intent? with
    | none => exact ended _
    | some intent =>
      simp only [afterIntent]
      cases policies.resolve intent.spec.runtimeSelector with
      | error r => exact ended _
      | ok policy => exact read _ intent policy (writeWorkload intent policy)

/-! ## Who a stage is about -/

/-- The intent that was read is the one that the pass is about. -/
def About (id : Identity) : Stage → Prop
  | start => True
  | reading _ intent _ => Kind.identity? (k := .intent) intent = .ok id
  | writing _ intent _ _ _ => Kind.identity? (k := .intent) intent = .ok id
  | ended _ => True

/-- All calls of a pass are about its intent or the children of this intent. -/
theorem Asks.identity?_call (h : Asks policies id st context call after) (hst : st.About id) :
    call.identity? = .ok id := by
  cases h with
  | start | reading => rfl
  | writing turn intent policy owner current =>
    have howned := Child.identity?_owned hst policy owner turn.child
    cases current with
    | none => exact howned
    | some current => exact (Child.identity?_written _ (some current)).trans howned

theorem Asks.about (h : Asks policies id st context call after) (hst : st.About id) {s : Store}
    (hs : s.Good) {a : call.Answer} (ha : (Store.plane call s).1 = .answers (.ok a)) :
    (after a).About id := by
  cases h with
  | start =>
    have hstored := hs.found ha
    cases a with
    | none => trivial
    | some intent =>
      unfold afterIntent
      cases hruntime : policies.resolve (IntentSpec.runtimeSelector (Intent.spec intent)) with
      | error r =>
        simp only [hruntime]
        trivial
      | ok policy =>
        simp only [hruntime]
        exact (hs.stamped hstored).identity
  | reading turn intent policy =>
    unfold afterRead
    cases intent.reference with
    | error r => trivial
    | ok owner => exact hst
  | writing turn intent policy owner current =>
    cases turn with
    | workload => exact hst
    | endpoint first => trivial

end Stage

/-! ## What a run comes to -/

/-- How a pass ends that is run from call `n` on, if it does, and the state
that it leaves. -/
def Pass.outcome {σ α : Type} (w : Surroundings σ) (p : Pass α) (n : Nat) (s : σ) :
    Option α × σ := ((p.runFrom w n s).ending, (p.runFrom w n s).state)

section

variable {σ : Type} {policies : PolicyTable} {id : Identity} {st : Stage}
  {context : ReconcileError} {call : Call} {after : call.Answer → Stage}

/-- What a pass notes has no part in what it comes to. -/
theorem outcome_unnoted {α : Type} (w : Surroundings σ) (p : Pass α) (n : Nat) (s : σ) :
    p.unnoted.outcome w n s = p.outcome w n s := by
  induction p with
  | done | ask => rfl
  | note _ rest ih => exact ih

/-- A pass makes the call of the stage it is at, unless it is cancelled, and
is at the next stage if the call is answered. -/
theorem Stage.Asks.outcome_eq (h : Stage.Asks policies id st context call after)
    (w : Surroundings σ) (n : Nat) (s : σ) :
    (st.rest policies id).outcome w n s =
      if w.token.fired n then (some (.error (.of (.cancelled id))), s)
      else
        match w.plane call (w.meddle n s) with
        | (.hangs, s) =>
          (if w.token.firesDuring n then some (.error (.of (.cancelled id))) else none, s)
        | (.answers (.error r), s) => (some (.error (r.wrap context)), s)
        | (.answers (.ok a), s) => ((after a).rest policies id).outcome w (n + 1) s := by
  obtain ⟨next, hrest, hnext⟩ := h.rest_eq
  simp only [hrest, Attempt.request, Pass.outcome, Pass.runFrom]
  split
  · rfl
  · rcases w.plane call (w.meddle n s) with ⟨_ | ⟨r | a⟩, t⟩
    · cases w.token.firesDuring n <;> rfl
    · rfl
    · exact (outcome_unnoted w (next a) (n + 1) t).symm.trans (by rw [hnext]; rfl)

end

end ServingOperator
