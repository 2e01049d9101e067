-- The law of reports. A pass takes its steps in one order, and the first
-- one that fails decides what is reported: what was being done, and beneath
-- it what went wrong. From what went wrong comes how soon the pass is tried
-- again.
import ServingOperator.Proofs.CallOrder
import ServingOperator.Proofs.Reports

namespace ServingOperator

variable {policies : PolicyTable} {s : Store} {id : Identity} {intent : Intent} {p : Plan}

/-! ## Steps -/

/-- A step of a pass that can fail: a call, or a check between two calls. -/
inductive Step where
  /-- The intent is read. -/
  | intent
  /-- The policy for the runtime is looked up. -/
  | runtime
  | read (c : Child)
  /-- The intent is made the owner of the child. -/
  | owner (c : Child)
  | write (c : Child)
  deriving DecidableEq, Repr

namespace Step

/-- The steps of a pass as it takes them. -/
def inOrder : List Step :=
  [.intent, .runtime, .read .workload, .owner .workload, .write .workload,
    .read .endpoint, .owner .endpoint, .write .endpoint]

/-- How a step fails, if it does: what was being done, and what went wrong.
A call fails if it is made to. Without an intent there is no further step. -/
def failure? (s : Store) (id : Identity) : Step → Option (ReconcileError × Context)
  | .intent =>
    (s.failures.lookup (.get, .intent)).map fun e => (.intentLookup id, .plane e)
  | .runtime => do
    let intent : Intent ← s.stored? .intent id
    let selector := intent.spec.runtimeSelector
    if Flavor.ofSelector? selector = none then
      some (.unknownRuntime id selector, .policy (.unknownRuntime selector))
    else none
  | .read c => do
    let _ ← s.stored? .intent id
    (s.failures.lookup (.get, c.kind)).map fun e => (.childLookup c.kind id, .plane e)
  | .owner c => do
    let intent : Intent ← s.stored? .intent id
    if intent.metadata.uid = none then
      some (.ownerReference c.kind id,
        .ownership (.missingOwnerField Intent.kind "metadata.uid"))
    else none
  | .write c => do
    let _ ← s.stored? .intent id
    let current := s.stored? c.kind id
    (s.failures.lookup (Child.callVerb current, c.kind)).map fun e =>
      (.write c.kind (Child.writeVerb current) id, .plane e)

theorem failure?_intent (s : Store) (id : Identity) :
    failure? s id .intent =
      (s.failures.lookup (.get, .intent)).map fun e => (.intentLookup id, .plane e) :=
  rfl

section

variable (hintent : s.stored? .intent id = some intent) (c : Child)
include hintent

theorem failure?_runtime (h : Flavor.ofSelector? intent.spec.runtimeSelector ≠ none) :
    failure? s id .runtime = none := by
  simp [failure?, hintent, h]

theorem failure?_read :
    failure? s id (.read c) = (s.failures.lookup (.get, c.kind)).map fun e =>
      (.childLookup c.kind id, .plane e) := by
  simp [failure?, hintent]

theorem failure?_owner (h : intent.metadata.uid ≠ none) : failure? s id (.owner c) = none := by
  simp [failure?, hintent, h]

theorem failure?_write :
    failure? s id (.write c) =
      (s.failures.lookup (Child.callVerb (s.stored? c.kind id), c.kind)).map fun e =>
        (.write c.kind (Child.writeVerb (s.stored? c.kind id)) id, .plane e) := by
  simp [failure?, hintent]

end

/-- The report of the first step that fails. -/
def firstFailure? (s : Store) (id : Identity) : Option (Report ReconcileError) :=
  (inOrder.findSome? (failure? s id)).map fun f => ⟨f.1, [f.2]⟩

end Step

/-! ## The checks between calls -/

/-- An intent that is known lacks nothing for a reference but its uid. -/
theorem Intent.reference_eq_error (hid : Kind.identity? (k := .intent) intent = .ok id)
    {r : Report OwnershipError} (h : intent.reference = .error r) :
    intent.metadata.uid = none ∧ r = .of (.missingOwnerField Intent.kind "metadata.uid") := by
  cases huid : intent.metadata.uid with
  | none =>
    simp only [reference, huid] at h
    cases h
    exact ⟨rfl, rfl⟩
  | some uid =>
    rw [reference_eq hid huid] at h
    cases h

theorem Intent.uid_of_reference {owner : OwnerReference} (h : intent.reference = .ok owner) :
    intent.metadata.uid ≠ none := by
  intro hnone
  simp only [reference, hnone] at h
  cases h

/-! ## The first failure along a plan -/

/-- The report of the first planned call that is made to fail. -/
def refused? (s : Store) (calls : List PlannedCall) : Option (Report ReconcileError) :=
  calls.findSome? fun c =>
    (s.failures.lookup (c.record.verb, c.record.kind)).map fun e => ⟨c.context, [.plane e]⟩

theorem treatment_of_no_hang (h : s.hanging = []) (c : CallRecord) :
    s.treatment c =
      match s.failures.lookup (c.verb, c.kind) with
      | some e => .fails e
      | none => .serves := by
  cases hf : s.failures.lookup (c.verb, c.kind) <;> simp [Store.treatment, h, hf]

/-- If no call hangs, a run along planned calls ends with the first call that
fails, or as planned. -/
theorem ending_follow (id : Identity) (verdict : Verdict) (calls : List PlannedCall) (n : Nat)
    (h : s.hanging = []) :
    (follow [] id verdict calls n s).ending =
      some (match refused? s calls with
        | some r => .error r
        | none => verdict) := by
  induction calls generalizing n s with
  | nil => rfl
  | cons c rest ih =>
    have hfired : Token.fired [] n = false := rfl
    have hhanging : (c.after s).hanging = [] := by
      unfold PlannedCall.after
      split <;> exact h
    have hfailures : (c.after s).failures = s.failures := by
      unfold PlannedCall.after
      split <;> rfl
    simp only [follow, hfired, Bool.false_eq_true, if_false, treatment_of_no_hang h, refused?,
      List.findSome?_cons]
    cases hlookup : s.failures.lookup (c.record.verb, c.record.kind) with
    | some e => rfl
    | none =>
      have hrest := ih (s := c.after s) (n + 1) hhanging
      simp only [refused?, hfailures] at hrest
      exact hrest

/-- The plan fails where the steps do. -/
theorem Planned.firstFailure?_eq (h : Planned policies id s p) (hs : s.Good) :
    Step.firstFailure? s id =
      match refused? s p.calls, p.verdict with
      | some r, _ => some r
      | none, .error r => some r
      | none, .ok _ => none := by
  cases h with
  | gone hintent =>
    cases hget : s.failures.lookup (.get, .intent) <;>
      simp [Step.firstFailure?, Step.inOrder, Step.failure?, refused?, intentCall, hintent, hget]
  | @unknown intent r hintent hruntime =>
    obtain ⟨hflavor, rfl⟩ := PolicyTable.resolve_eq_error hruntime
    cases hget : s.failures.lookup (.get, .intent) <;>
      simp [Step.firstFailure?, Step.inOrder, Step.failure?, refused?, intentCall, hintent, hget,
        hflavor, Report.wrap, Report.levels, Report.of, Reportable.context]
  | @unowned intent policy r hintent hruntime howner =>
    have hflavor := PolicyTable.ofSelector?_of_resolve hruntime
    obtain ⟨huid, rfl⟩ := Intent.reference_eq_error (hs.stamped hintent).identity howner
    cases hget : s.failures.lookup (.get, .intent) <;>
      cases hread : s.failures.lookup (.get, .workload) <;>
      simp [Step.firstFailure?, Step.inOrder, Step.failure?, refused?, intentCall, readCall,
        hintent, hget, hread, hflavor, huid, Report.wrap, Report.levels, Report.of,
        Reportable.context]
  | @ready intent policy owner hintent hruntime howner =>
    have hflavor := PolicyTable.ofSelector?_of_resolve hruntime
    have huid := Intent.uid_of_reference howner
    have hsteps : Step.firstFailure? s id =
        refused? s (convergingCalls s id intent policy owner) := by
      rw [Step.firstFailure?, List.map_findSome?]
      simp only [Step.inOrder, refused?, convergingCalls, childCalls,
        List.cons_append, List.nil_append, List.findSome?_cons, Function.comp_apply,
        Step.failure?_runtime hintent hflavor, Step.failure?_read hintent,
        Step.failure?_owner hintent _ huid, Step.failure?_write hintent,
        Step.failure?_intent, Option.map_map, Option.map_none]
      rfl
    rw [hsteps]
    cases refused? s _ <;> rfl

/-- No call that is planned fails for want of an owner. -/
theorem Planned.refused?_top (h : Planned policies id s p) {r : Report ReconcileError}
    (hr : refused? s p.calls = some r) (k : Kind) (i : Identity) : r.top ≠ .ownerReference k i := by
  obtain ⟨c, hc, hfails⟩ := List.exists_of_findSome?_eq_some hr
  obtain ⟨e, _, rfl⟩ := Option.map_eq_some_iff.1 hfails
  rw [(h.plain c hc).context]
  unfold CallRecord.context
  split
  · split
    · exact fun h => nomatch h
    · exact fun h => nomatch h
  · exact fun h => nomatch h
  · exact fun h => nomatch h

/-- If a plan ends in a failure, it is not for want of an owner of the
endpoint. -/
theorem Planned.verdict_top (h : Planned policies id s p) {r : Report ReconcileError}
    (hr : p.verdict = .error r) (i : Identity) : r.top ≠ .ownerReference .endpoint i := by
  cases h with
  | gone | ready => cases hr
  | unknown | unowned =>
    cases hr
    simp [Report.wrap]

/-! ## When the pass is tried again -/

/-- No step fails as a cancelled pass does. -/
theorem Step.failure?_isCancelled {step : Step} {f : ReconcileError × Context}
    (h : step.failure? s id = some f) : f.1.isCancelled = false := by
  cases step with
  | intent =>
    obtain ⟨e, _, rfl⟩ := Option.map_eq_some_iff.1 h
    rfl
  | runtime | owner =>
    obtain ⟨intent, _, h⟩ := Option.bind_eq_some_iff.1 h
    obtain ⟨_, h⟩ := Option.ite_none_right_eq_some.1 h
    cases h
    rfl
  | read | write =>
    obtain ⟨intent, _, h⟩ := Option.bind_eq_some_iff.1 h
    obtain ⟨e, _, rfl⟩ := Option.map_eq_some_iff.1 h
    rfl

/-- What is done about a report that names one cause. -/
theorem RequeueDelays.afterFailure_of_cause (delays : RequeueDelays) {top : ReconcileError}
    (htop : top.isCancelled = false) (cause : Context) :
    ((∃ k i, cause = .plane (.conflict k i)) →
        delays.afterFailure ⟨top, [cause]⟩ = .requeue delays.conflict) ∧
      ((¬ ∃ k i, cause = .plane (.conflict k i)) →
        delays.afterFailure ⟨top, [cause]⟩ = .requeue delays.error) := by
  rw [afterFailure_of_not_cancelled (r := ⟨top, [cause]⟩) htop]
  constructor
  · rintro ⟨k, i, rfl⟩
    rfl
  · intro hno
    rcases cause with e | _ | _ | _ | _
    · cases e with
      | conflict k i => exact absurd ⟨k, i, rfl⟩ hno
      | connectionFailed | rejected | unavailable | incompleteObject => rfl
    all_goals rfl

/-! ## The law -/

/-- How a pass that came from the store `s` accounts for a failure, and what
is done about it. -/
structure Accounted (policies : PolicyTable) (s : Store) (id : Identity) (delays : RequeueDelays)
    (r : Run Store Verdict) : Prop where
  /-- The first step that fails is reported, and no pass fails at no step. -/
  first : ∀ e, r.ending = some (.error e) ↔ Step.firstFailure? s id = some e
  /-- What a pass reads is what the steps are told by. -/
  found : ∀ x ∈ (Pass.reconcile policies id).heardFrom (.alone []) 1 s, Truthful s x
  /-- If the intent cannot own the endpoint, it cannot own the workload. -/
  never_endpoint : ∀ e, r.ending = some (.error e) → ∀ i, e.top ≠ .ownerReference .endpoint i
  /-- The report names one cause, and a conflict alone is tried again early. -/
  retried : ∀ e, r.ending = some (.error e) → ∃ cause, e.beneath = [cause] ∧
    ((∃ k i, cause = .plane (.conflict k i)) →
      delays.afterFailure e = .requeue delays.conflict) ∧
    ((¬ ∃ k i, cause = .plane (.conflict k i)) →
      delays.afterFailure e = .requeue delays.error)

/-- In any store where no call hangs, with any calls made to fail: a pass of
which nobody fires the token reports the first step that fails, and it is
tried again. -/
theorem a_failed_pass_reports_the_first_failing_step (policies : PolicyTable) (id : Identity)
    (delays : RequeueDelays) (hs : s.Reachable) (hhang : s.hanging = []) :
    Accounted policies s id delays ((Pass.reconcile policies id).run (.alone []) s) := by
  obtain ⟨p, hp⟩ := exists_planned policies id s
  have hending := congrArg Run.ending (hp.run_eq hs.good [])
  rw [ending_follow id p.verdict p.calls 1 hhang] at hending
  have hsteps := hp.firstFailure?_eq hs.good
  have hfirst : ∀ e, ((Pass.reconcile policies id).run (.alone []) s).ending = some (.error e) ↔
      Step.firstFailure? s id = some e := by
    intro e
    rw [hending, hsteps]
    cases refused? s p.calls with
    | some r => simp
    | none => cases p.verdict <;> simp
  constructor
  case first => exact hfirst
  case found => exact truthful_reconcile policies id hs.good
  case never_endpoint =>
    intro e he i
    rw [hending] at he
    cases hrefused : refused? s p.calls with
    | some r =>
      rw [hrefused] at he
      cases he
      exact hp.refused?_top hrefused _ i
    | none =>
      rw [hrefused] at he
      exact hp.verdict_top (Option.some.inj he) i
  case retried =>
    intro e he
    obtain ⟨f, hf, rfl⟩ := Option.map_eq_some_iff.1 ((hfirst e).1 he)
    obtain ⟨step, _, hstep⟩ := List.exists_of_findSome?_eq_some hf
    exact ⟨f.2, rfl, delays.afterFailure_of_cause (Step.failure?_isCancelled hstep) f.2⟩

/-- A store where another writer is always ahead at the endpoint. -/
def contestedStore : Store :=
  busyStore.perform (.failOn .replace .endpoint (.conflict .endpoint llamaId))

example : Step.firstFailure? contestedStore llamaId =
    some ⟨.write .endpoint .replace llamaId, [.plane (.conflict .endpoint llamaId)]⟩ := by
  rfl

/-- A pass that is beaten at the endpoint. -/
theorem a_pass_reports_that_it_was_beaten_at_the_endpoint :
    Accounted .standard contestedStore llamaId {}
      ((Pass.reconcile .standard llamaId).run (.alone []) contestedStore) :=
  a_failed_pass_reports_the_first_failing_step .standard llamaId {}
    (.perform _ busyStore_reachable) rfl

end ServingOperator
