-- The laws of a dispatch. It runs a pass over the intent that the copy at hand names,
-- and nothing that follows the end of the pass makes a call. So a dispatch hears what
-- its pass hears and leaves what its pass leaves, and it ends as its pass ends.
import ServingOperator.Proofs.CallOrder
import ServingOperator.Proofs.Reports

namespace ServingOperator

variable {σ α β : Type} {id : Identity} {copy : Intent}

/-! ## A pass and what follows its end -/

/-- If what follows a pass makes no call, it only gives the end another form. -/
theorem outcome_bind {f : α → Pass β} {g : α → β} (hf : ∀ a, (f a).unnoted = .done (g a))
    (w : Surroundings σ) (p : Pass α) (n : Nat) (s : σ) :
    (p.bind f).outcome w n s = ((p.outcome w n s).1.map g, (p.outcome w n s).2) := by
  induction p generalizing n s with
  | done a =>
    rw [Pass.bind, ← outcome_unnoted, hf]
    rfl
  | note e rest ih => exact ih n s
  | ask call next ih =>
    simp only [Pass.bind, Pass.outcome, Pass.runFrom] at ih ⊢
    split
    · exact ih .cancelled n s
    · rcases w.plane call (w.meddle n s) with ⟨_ | result, t⟩
      · cases w.token.firesDuring n with
        | true => exact ih .cancelled (n + 1) t
        | false => rfl
      · exact ih (.answered result) (n + 1) t

theorem heardFrom_bind {f : α → Pass β} {g : α → β} (hf : ∀ a, (f a).unnoted = .done (g a))
    (w : Surroundings σ) (p : Pass α) (n : Nat) (s : σ) :
    (p.bind f).heardFrom w n s = p.heardFrom w n s := by
  induction p generalizing n s with
  | done a =>
    rw [Pass.bind, ← heardFrom_unnoted, hf]
    rfl
  | note e rest ih => exact ih n s
  | ask call next ih =>
    simp only [Pass.bind, Pass.heardFrom] at ih ⊢
    split
    · rw [ih .cancelled n s]
    · rcases w.plane call (w.meddle n s) with ⟨_ | result, t⟩
      · simp only [ih .cancelled (n + 1) t]
      · simp only [ih (.answered result) (n + 1) t]

/-! ## From a copy to its pass -/

/-- What a dispatch makes of the end of its pass. -/
def Pass.afterPass (id : Identity) : Verdict → Attempt Action
  | .ok (.converged workload endpoint) =>
    .note (.reconciled id workload endpoint) (Attempt.ok .awaitChange)
  | .ok .intentGone => Attempt.ok .awaitChange
  | .error r => Attempt.fail r

theorem unnoted_afterPass (id : Identity) (v : Verdict) :
    (Pass.afterPass id v).unnoted = .done (v.map fun _ => .awaitChange) := by
  rcases v with r | _ | _ <;> rfl

/-- A copy that says which intent is meant leads to a pass over this intent. -/
theorem dispatch_of_identity (policies : PolicyTable)
    (hid : Kind.identity? (k := .intent) copy = .ok id) :
    Pass.dispatch policies copy = (Pass.reconcile policies id).bind (Pass.afterPass id) := by
  simp only [Pass.dispatch, hid]
  rfl

/-- What is decided about a dispatch that has ended. -/
def RequeueDelays.decided (delays : RequeueDelays) :
    Except (Report ReconcileError) Action → Dispatched
  | .ok action => ⟨none, action⟩
  | .error r => ⟨some r, delays.afterFailure r⟩

section

variable (policies : PolicyTable) (delays : RequeueDelays) (w : Surroundings σ) (n : Nat) (s : σ)

theorem handle_eq (copy : Intent) :
    ∃ decide : Except (Report ReconcileError) Action → Pass Dispatched,
    Pass.handle policies delays copy = (Pass.dispatch policies copy).bind decide ∧
      ∀ x, (decide x).unnoted = .done (delays.decided x) :=
  ⟨_, rfl, fun x => by cases x <;> rfl⟩

variable (hid : Kind.identity? (k := .intent) copy = .ok id)
include hid

theorem heardFrom_handle :
    (Pass.handle policies delays copy).heardFrom w n s =
      (Pass.reconcile policies id).heardFrom w n s := by
  obtain ⟨decide, hhandle, hdecide⟩ := handle_eq policies delays copy
  rw [hhandle, heardFrom_bind hdecide, dispatch_of_identity policies hid,
    heardFrom_bind (unnoted_afterPass id)]

theorem outcome_handle :
    (Pass.handle policies delays copy).outcome w n s =
      (((Pass.reconcile policies id).outcome w n s).1.map fun v =>
        delays.decided (v.map fun _ => .awaitChange),
          ((Pass.reconcile policies id).outcome w n s).2) := by
  obtain ⟨decide, hhandle, hdecide⟩ := handle_eq policies delays copy
  rw [hhandle, outcome_bind hdecide, dispatch_of_identity policies hid,
    outcome_bind (unnoted_afterPass id)]
  simp only [Option.map_map]
  rfl

end

/-! ## How soon a failed pass is tried again -/

/-- What was being done has no part in the delay, if the pass was not cancelled. -/
theorem RequeueDelays.afterFailure_wrap (delays : RequeueDelays) (r : Report PlaneError)
    {top : ReconcileError} (htop : top.isCancelled = false) :
    delays.afterFailure (r.wrap top) =
      if r.top.isConflict then .requeue delays.conflict else .requeue delays.error :=
  afterFailure_of_not_cancelled (r := r.wrap top) htop

theorem CallRecord.context_isCancelled (c : CallRecord) : c.context.isCancelled = false := by
  unfold context
  split
  · split <;> rfl
  · rfl
  · rfl

end ServingOperator
