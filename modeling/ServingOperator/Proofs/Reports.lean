-- How reports are judged. A report grows by the levels that are put on top of it, of
-- any kinds and in any order. The topmost level tells whether a pass was cancelled,
-- the failure of the control plane nearest to the top tells whether it met a
-- conflict, and these two decide what is done about the pass.
import ServingOperator.Pass.Dispatch

namespace ServingOperator

/-- The failure of the control plane that a level tells of. -/
def Context.planeError? : Context → Option PlaneError
  | plane e => some e
  | _ => none

theorem Context.findSome?_planeError? {levels : List Context} (h : ∀ e, .plane e ∉ levels) :
    levels.findSome? planeError? = none := by
  rw [List.findSome?_eq_none_iff]
  intro level hlevel
  cases level with
  | plane e => exact absurd hlevel (h e)
  | reconcile | policy | ownership | client => rfl

namespace Report

/-! ## Reports that grow -/

/-- The report `r` with `added` put on top of it, one level after the other. The
latest of them stands first, as it does in the report. -/
inductive Grown {ε : Type} [Reportable ε] (r : Report ε) :
    {δ : Type} → [Reportable δ] → List Context → Report δ → Prop
  | same : Grown r [] r
  | wrap {δ γ : Type} [Reportable δ] [Reportable γ] {added : List Context} {r' : Report δ} (e : γ)
      (h : Grown r added r') : Grown r (Reportable.context e :: added) (r'.wrap e)

section

variable {ε δ : Type} [Reportable ε] [Reportable δ] {r : Report ε} {r' : Report δ}
  {added : List Context}

theorem Grown.levels_eq (h : r.Grown added r') : r'.levels = added ++ r.levels := by
  induction h with
  | same => rfl
  | wrap e _ ih => exact congrArg (Reportable.context e :: ·) ih

/-- Every report has come about from an error that nothing led to. -/
theorem exists_root (r : Report ε) :
    ∃ (γ : Type) (_ : Reportable γ) (root : γ) (added : List Context), (of root).Grown added r := by
  obtain ⟨top, beneath⟩ := r
  induction beneath generalizing ε with
  | nil => exact ⟨ε, _, top, [], .same⟩
  | cons level beneath ih =>
    cases level with
    | plane e | reconcile e | policy e | ownership e | client e =>
      obtain ⟨γ, hγ, root, added, h⟩ := ih e
      exact ⟨γ, hγ, root, _, h.wrap top⟩

/-- Of the failures of the control plane in a report, the latest counts. -/
theorem Grown.planeError?_eq (h : r.Grown added r') :
    r'.planeError? = (added.findSome? Context.planeError?).or r.planeError? := by
  have hlevels : r'.planeError? = r'.levels.findSome? Context.planeError? := rfl
  rw [hlevels, h.levels_eq, List.findSome?_append]
  rfl

end

/-! ## What a report tells -/

/-- The failure of the control plane that is nearest to the top is a conflict. -/
def MeetsConflict (r : Report ReconcileError) : Prop :=
  ∃ above k i below, r.levels = above ++ .plane (.conflict k i) :: below ∧
    ∀ e, Context.plane e ∉ above

variable {r r' : Report ReconcileError} {added : List Context}

theorem isConflict_iff : r.isConflict = true ↔ r.MeetsConflict := by
  unfold isConflict planeError?
  simp only [Option.any_eq_true, List.findSome?_eq_some_iff]
  constructor
  · rintro ⟨e, ⟨above, level, below, hlevels, hlevel, habove⟩, hconflict⟩
    cases level with
    | plane e' =>
      cases hlevel
      cases e with
      | conflict k i =>
        refine ⟨above, k, i, below, hlevels, fun e he => ?_⟩
        exact absurd (habove _ he) (Option.some_ne_none e)
      | connectionFailed | rejected | unavailable | incompleteObject => cases hconflict
    | reconcile | policy | ownership | client => cases hlevel
  · rintro ⟨above, k, i, below, hlevels, habove⟩
    refine ⟨.conflict k i, ⟨above, _, below, hlevels, rfl, fun level hlevel => ?_⟩, rfl⟩
    cases level with
    | plane e => exact absurd hlevel (habove e)
    | reconcile | policy | ownership | client => rfl

/-- Levels that tell of no failure of the control plane hide no conflict, and make
none. -/
theorem Grown.isConflict_eq (h : r.Grown added r') (hadded : ∀ e, .plane e ∉ added) :
    r'.isConflict = r.isConflict := by
  rw [isConflict, h.planeError?_eq, Context.findSome?_planeError? hadded]
  rfl

/-- A failure of the control plane hides all that has led to it. -/
theorem Grown.isConflict_iff_of_plane {ε : Type} [Reportable ε] {s : Report ε} {e : PlaneError}
    (h : (s.wrap e).Grown added r) (hadded : ∀ e', .plane e' ∉ added) :
    r.isConflict = true ↔ ∃ k i, e = .conflict k i := by
  have htop : (s.wrap e).planeError? = some e := rfl
  rw [isConflict, h.planeError?_eq, Context.findSome?_planeError? hadded, htop]
  cases e <;> simp [PlaneError.isConflict]

theorem isCancelled_iff : r.isCancelled = true ↔ ∃ i, r.top = .cancelled i := by
  unfold isCancelled ReconcileError.isCancelled
  cases r.top <;> simp

end Report

/-! ## What is done about a report -/

namespace RequeueDelays

variable {delays : RequeueDelays} {r : Report ReconcileError}

theorem afterFailure_eq_awaitChange :
    delays.afterFailure r = .awaitChange ↔ r.top.isCancelled = true := by
  unfold afterFailure Report.isCancelled
  cases r.top.isCancelled with
  | true => simp
  | false => cases r.isConflict <;> simp

/-- A pass that was not cancelled is tried again. -/
theorem afterFailure_of_not_cancelled (h : r.top.isCancelled = false) :
    delays.afterFailure r =
      if r.isConflict then .requeue delays.conflict else .requeue delays.error := by
  have hcancelled : r.isCancelled = false := h
  rw [afterFailure, hcancelled]
  rfl

end RequeueDelays

/-! ## The law -/

/-- How a report is judged, and what is done about a pass that has ended with it. -/
structure Report.Judged (delays : RequeueDelays) (r : Report ReconcileError) : Prop where
  /-- It has come about from an error that nothing led to. -/
  root : ∃ (ε : Type) (_ : Reportable ε) (root : ε) (added : List Context), (of root).Grown added r
  conflict : r.isConflict = true ↔ r.MeetsConflict
  /-- However many levels of other kinds are put on it, it stays what it is. -/
  others : ∀ (added : List Context) (r' : Report ReconcileError), r.Grown added r' →
    (∀ e, .plane e ∉ added) → r'.isConflict = r.isConflict
  /-- If it has grown by such levels since the control plane failed with `e`, then `e` alone
  counts, whatever had led to it. -/
  plane : ∀ {ε : Type} [Reportable ε] (s : Report ε) (e : PlaneError) (added : List Context),
    (s.wrap e).Grown added r → (∀ e', .plane e' ∉ added) →
      (r.isConflict = true ↔ ∃ k i, e = .conflict k i)
  cancelled : r.isCancelled = true ↔ ∃ i, r.top = .cancelled i
  /-- A level on top of it decides whether the pass counts as cancelled, even if it was. -/
  wrapped : ∀ e : ReconcileError, (r.wrap e).isCancelled = true ↔ ∃ i, e = .cancelled i
  /-- A conflict beneath makes no difference to a cancelled pass. -/
  awaits : delays.afterFailure r = .awaitChange ↔ r.isCancelled = true
  soon : r.isCancelled = false → r.isConflict = true →
    delays.afterFailure r = .requeue delays.conflict
  late : r.isCancelled = false → r.isConflict = false →
    delays.afterFailure r = .requeue delays.error

/-- Whatever levels a report has grown by, it is judged by the topmost one and by the failure of
the control plane nearest to the top, and by nothing else. -/
theorem a_report_is_judged_by_its_levels (delays : RequeueDelays) (r : Report ReconcileError) :
    r.Judged delays where
  root := r.exists_root
  conflict := Report.isConflict_iff
  others _ _ h hadded := h.isConflict_eq hadded
  plane _ _ _ h hadded := h.isConflict_iff_of_plane hadded
  cancelled := Report.isCancelled_iff
  wrapped _ := Report.isCancelled_iff
  awaits := RequeueDelays.afterFailure_eq_awaitChange
  soon hcancelled hconflict := by
    rw [RequeueDelays.afterFailure_of_not_cancelled hcancelled, if_pos hconflict]
  late hcancelled hconflict := by
    rw [RequeueDelays.afterFailure_of_not_cancelled hcancelled, hconflict]
    rfl

/-- A pass that was cancelled after a conflict waits for a change, but not if something else is
reported on top of that. -/
example :
    let r : Report ReconcileError :=
      (Report.of (.conflict .workload ⟨"models", "llama"⟩ : PlaneError)).wrap
        (.cancelled ⟨"models", "llama"⟩)
    RequeueDelays.afterFailure {} r = .awaitChange ∧
      RequeueDelays.afterFailure {} (r.wrap (.intentLookup ⟨"models", "llama"⟩)) = .requeue 1 :=
  ⟨rfl, rfl⟩

end ServingOperator
