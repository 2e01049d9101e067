-- The law of the log. Each reply that a pass hears is told of once it is heard: that the
-- intent or a child is absent, or that a child was written. The end of the pass is told of
-- last. So the log holds what happened, in the order in which it happened, and nothing else,
-- wherever the pass fails, is blocked or is cancelled.
import ServingOperator.Proofs.CachedCopies
import ServingOperator.Proofs.StagePaths

namespace ServingOperator

variable {σ α β : Type} {policies : PolicyTable} {id : Identity} {copy : Intent}

/-! ## What follows the end of a pass -/

/-- What is noted after a pass comes after what the pass has noted. -/
theorem log_bind {f : α → Pass β} {g : α → β} {events : α → List Event}
    (hf : ∀ a, f a = (Pass.done (g a)).noting (events a)) (w : Surroundings σ) (p : Pass α)
    (n : Nat) (s : σ) :
    ((p.bind f).runFrom w n s).log =
      (p.runFrom w n s).log ++ (p.runFrom w n s).ending.elim [] events := by
  induction p generalizing n s with
  | done a =>
    rw [Pass.bind, hf, runFrom_noting]
    simp [Run.noting, Pass.runFrom]
  | note e rest ih =>
    simp only [Pass.bind, Pass.runFrom, ih, List.cons_append]
  | ask call next ih =>
    simp only [Pass.bind, Pass.runFrom]
    split
    · exact ih .cancelled n s
    · rcases w.plane call (w.meddle n s) with ⟨_ | result, t⟩
      · cases w.token.firesDuring n with
        | true => exact ih .cancelled (n + 1) t
        | false => rfl
      · exact ih (.answered result) (n + 1) t

/-- What is told of the end of a pass. -/
def closing (copy : Intent) (id : Identity) : Verdict → List Event
  | .ok .intentGone => []
  | .ok (.converged workload endpoint) => [.reconciled id workload endpoint]
  | .error ⟨.cancelled _, _⟩ => [.cancelled copy.metadata.anyName]
  | .error r => [.failed copy.metadata.anyName copy.metadata.ns r.top]

theorem closing_error (copy : Intent) (id : Identity) (r : Report ReconcileError) :
    closing copy id (.error r) = [failureEvent copy r] := by
  obtain ⟨top, beneath⟩ := r
  cases top <;> rfl

/-- A dispatch notes what its pass notes, and then how it ended. -/
theorem log_handle (policies : PolicyTable) (delays : RequeueDelays)
    (hid : Kind.identity? (k := .intent) copy = .ok id) (w : Surroundings σ) (n : Nat) (s : σ) :
    ((Pass.handle policies delays copy).runFrom w n s).log =
      ((Pass.reconcile policies id).runFrom w n s).log ++
        ((Pass.reconcile policies id).runFrom w n s).ending.elim [] (closing copy id) := by
  have hafter : ∀ v, Pass.afterPass id v = (Pass.done (v.map fun _ => Action.awaitChange)).noting
      (v.toOption.elim [] fun o => closing copy id (.ok o)) := by
    rintro (r | _ | _) <;> rfl
  have hend := congrArg Prod.fst (outcome_bind (unnoted_afterPass id) w
    (Pass.reconcile policies id) n s)
  have hhandle : Pass.handle policies delays copy = (Pass.dispatch policies copy).bind fun x =>
      (Pass.done (delays.decided x)).noting
        ((delays.decided x).failure.elim [] fun r => closing copy id (.error r)) := by
    unfold Pass.handle
    congr 1
    funext x
    cases x with
    | ok action => rfl
    | error r =>
      simp only [closing_error]
      rfl
  -- either the end of the pass or its failure is told of, never both
  rw [hhandle, log_bind fun _ => rfl, dispatch_of_identity policies hid, log_bind hafter,
    List.append_assoc]
  congr 1
  simp only [Pass.outcome] at hend
  rw [hend]
  cases ((Pass.reconcile policies id).runFrom w n s).ending with
  | none => rfl
  | some v => rcases v with r | _ | _ <;> rfl

/-! ## What an event tells of -/

namespace Event

/-- The place of an event in the log of a pass: that of the call it tells of, and the last one
for the end of the pass. -/
def position : Event → Nat
  | intentGone => 0
  | childAbsent .intent => 0
  | childAbsent .workload => 1
  | childAbsent .endpoint => 3
  | childReconciled .intent _ => 0
  | childReconciled .workload _ => 2
  | childReconciled .endpoint _ => 4
  | _ => 5

/-- The child that an event says was written, and what was done to it. -/
def written? : Event → Option (Kind × ChildAction)
  | childReconciled k action => some (k, action)
  | _ => none

end Event

section

variable (owns : Bool) (x : Heard)

/-- A reply is told of once, at the place of its call. -/
theorem position_told : ((told owns x).map Event.position).Sublist [x.1.position] := by
  unfold told
  split
  case h_2 | h_3 =>
    cases owns with
    | false => exact List.nil_sublist _
    | true => exact List.Sublist.refl _
  case h_6 => exact List.nil_sublist _
  case h_1 => exact List.Sublist.refl _
  case h_4 k _ _ | h_5 k _ _ => cases k <;> exact List.Sublist.refl _

theorem written?_told : (told owns x).filterMap Event.written? = (written? x).toList := by
  obtain ⟨call, reply⟩ := x
  cases call with
  | get k i =>
    rcases reply with _ | ⟨r | ⟨_ | o⟩⟩ <;> cases k <;> cases owns <;> rfl
  | create k o | replace k o => rcases reply with _ | ⟨r | a⟩ <;> rfl

theorem childAbsent_mem_told {c : Child} :
    .childAbsent c.kind ∈ told owns x ↔
      owns = true ∧ ∃ i, x = ⟨.get c.kind i, .answered (.ok none)⟩ := by
  constructor
  · intro h
    unfold told at h
    split at h
    case h_2 i | h_3 i =>
      obtain ⟨howns, h⟩ := List.mem_ite_nil_right.1 h
      cases c <;> cases List.mem_singleton.1 h
      exact ⟨howns, i, rfl⟩
    case h_6 => exact absurd h List.not_mem_nil
    all_goals cases List.mem_singleton.1 h
  · rintro ⟨rfl, i, rfl⟩
    cases c <;> exact List.mem_singleton_self _

end

/-! ## The log of a dispatch -/

theorem position_closing (copy : Intent) (id : Identity) (ending : Option Verdict) :
    ((ending.elim [] (closing copy id)).map Event.position).Sublist [5] := by
  rcases ending with _ | ⟨⟨top, _⟩ | ⟨_ | _⟩⟩
  · exact List.nil_sublist _
  · cases top <;> exact List.Sublist.refl _
  · exact List.nil_sublist _
  · exact List.Sublist.refl _

/-- The log goes with what the pass has heard and with its end. -/
structure LogTells (copy : Intent) (id : Identity) (heard : List Heard) (ending : Option Verdict)
    (log : List Event) : Prop where
  /-- Each reply is told of as it comes, and then the end of the pass. -/
  events : log = heard.flatMap (told ((fetched? heard).any Intent.canOwn)) ++
    ending.elim [] (closing copy id)
  /-- Nothing is told of twice, and that a child is absent comes before that it is written. -/
  order : log.Pairwise fun e e' => e.position < e'.position
  absent : ∀ c : Child, .childAbsent c.kind ∈ log ↔
    ⟨.get c.kind id, .answered (.ok none)⟩ ∈ heard ∧ ∃ intent uid name,
      fetched? heard = some intent ∧ intent.metadata.uid = some uid ∧
        intent.metadata.name = some name
  /-- The writes that succeeded are told of, in the order in which they were made. -/
  written : log.filterMap Event.written? = heard.filterMap written?
  gone : .intentGone ∈ log ↔ ending = some (.ok .intentGone)
  converged : ∀ workload endpoint, .reconciled id workload endpoint ∈ log ↔
    ending = some (.ok (.converged workload endpoint))
  same_actions : ∀ workload endpoint, .reconciled id workload endpoint ∈ log →
    log.filterMap Event.written? = [(.workload, workload), (.endpoint, endpoint)]
  cancelled : (∃ name, .cancelled name ∈ log) ↔ ∃ x ∈ heard, x.2 = .cancelled
  failed : (∃ name ns e, .failed name ns e ∈ log) ↔
    (∃ r, ending = some (.error r)) ∧ ∀ x ∈ heard, x.2 ≠ .cancelled

section

variable {heard : List Heard} {log : List Event} {ending : Option Verdict}

theorem reconciled_mem_closing {workload endpoint : ChildAction} :
    .reconciled id workload endpoint ∈ ending.elim [] (closing copy id) ↔
      ending = some (.ok (.converged workload endpoint)) := by
  rcases ending with _ | ⟨⟨top, _⟩ | ⟨_ | _⟩⟩
  · simp
  · cases top <;> simp [closing]
  · simp [closing]
  · simp [closing, eq_comm]

theorem cancelled_mem_closing :
    (∃ name, .cancelled name ∈ ending.elim [] (closing copy id)) ↔
      ∃ e, ending = some (.error e) ∧ e.top.isCancelled = true := by
  rcases ending with _ | ⟨⟨top, _⟩ | ⟨_ | _⟩⟩
  · simp
  · cases top <;> simp [closing, ReconcileError.isCancelled]
  · simp [closing]
  · simp [closing]

theorem failed_mem_closing :
    (∃ name ns e, .failed name ns e ∈ ending.elim [] (closing copy id)) ↔
      ∃ e, ending = some (.error e) ∧ e.top.isCancelled = false := by
  rcases ending with _ | ⟨⟨top, _⟩ | ⟨_ | _⟩⟩
  · simp
  · cases top <;> simp [closing, ReconcileError.isCancelled]
  · simp [closing]
  · simp [closing]

theorem written?_closing :
    (ending.elim [] (closing copy id)).filterMap Event.written? = [] := by
  rcases ending with _ | ⟨⟨top, _⟩ | ⟨_ | _⟩⟩
  · rfl
  · cases top <;> rfl
  · rfl
  · rfl

/-- The replies of a pass are told of in the order of its calls. -/
theorem position_flatMap (owns : Bool) (heard : List Heard) :
    ((heard.flatMap (told owns)).map Event.position).Sublist (heard.map (·.1.position)) := by
  induction heard with
  | nil => exact List.Sublist.refl _
  | cons x rest ih =>
    rw [List.flatMap_cons, List.map_append, List.map_cons, ← List.singleton_append]
    exact (position_told owns x).append ih

theorem written?_flatMap (owns : Bool) (heard : List Heard) :
    (heard.flatMap (told owns)).filterMap Event.written? = heard.filterMap written? := by
  induction heard with
  | nil => rfl
  | cons x rest ih =>
    rw [List.flatMap_cons, List.filterMap_append, ih, written?_told, written?_cons]

theorem canOwn_iff :
    (fetched? heard).any Intent.canOwn = true ↔ ∃ intent uid name,
      fetched? heard = some intent ∧ intent.metadata.uid = some uid ∧
        intent.metadata.name = some name := by
  simp [Option.any_eq_true, Intent.canOwn, Option.isSome_iff_exists]

theorem mem_log_of_reply {e : Event} (he : e.position ≠ 5) :
    e ∈ log ++ ending.elim [] (closing copy id) ↔ e ∈ log := by
  rw [List.mem_append]
  refine or_iff_left fun hmem => he ?_
  have hposition := (position_closing copy id ending).subset (List.mem_map_of_mem hmem)
  exact List.mem_singleton.1 hposition

section

variable (h : Stage.Goes policies id .start heard log ending)
include h

/-- What is told of replies is told in order, and before the end. -/
theorem position_log : (log.map Event.position).Sublist [0, 1, 2, 3, 4] := by
  rw [h.log_start]
  exact (position_flatMap _ heard).trans h.positions.sublist

theorem mem_log_of_end {e : Event} (he : e.position = 5) :
    e ∈ log ++ ending.elim [] (closing copy id) ↔ e ∈ ending.elim [] (closing copy id) := by
  rw [List.mem_append]
  refine or_iff_right fun hmem => ?_
  have hposition := (position_log h).subset (List.mem_map_of_mem hmem)
  rw [he] at hposition
  revert hposition
  decide

/-- The writes that are told of are those that are heard to have succeeded. -/
theorem written?_log : (log ++ ending.elim [] (closing copy id)).filterMap Event.written? =
    heard.filterMap written? := by
  rw [List.filterMap_append, h.log_start, written?_flatMap, written?_closing, List.append_nil]

theorem reconciled_mem_log {workload endpoint : ChildAction} :
    .reconciled id workload endpoint ∈ log ++ ending.elim [] (closing copy id) ↔
      ending = some (.ok (.converged workload endpoint)) :=
  (mem_log_of_end h rfl).trans reconciled_mem_closing

theorem logTells (copy : Intent) :
    LogTells copy id heard ending (log ++ ending.elim [] (closing copy id)) := by
  constructor
  case events => rw [← h.log_start]
  case order =>
    have hsorted : List.Pairwise (· < ·) [0, 1, 2, 3, 4, 5] := by decide
    refine List.pairwise_map.1 (hsorted.sublist ?_)
    rw [List.map_append]
    exact (position_log h).append (position_closing copy id ending)
  case absent =>
    intro c
    rw [mem_log_of_reply (by cases c <;> decide), ← canOwn_iff, h.log_start, List.mem_flatMap]
    simp only [childAbsent_mem_told]
    constructor
    · rintro ⟨x, hx, howns, i, rfl⟩
      cases h.identity?_get _ hx rfl
      exact ⟨hx, howns⟩
    · rintro ⟨hx, howns⟩
      exact ⟨_, hx, howns, id, rfl⟩
  case written => exact written?_log h
  case gone => rw [mem_log_of_reply (by decide), ← h.gone_iff, or_iff_left nofun]
  case converged => exact fun workload endpoint => reconciled_mem_log h
  case same_actions =>
    intro workload endpoint hmem
    obtain rfl := (reconciled_mem_log h).1 hmem
    exact (written?_log h).trans h.done_eq
  case cancelled =>
    rw [h.cancelled_iff nofun, ← cancelled_mem_closing]
    exact exists_congr fun name => mem_log_of_end h rfl
  case failed =>
    rw [← h.failed_iff nofun, ← failed_mem_closing]
    exact exists_congr fun name => exists_congr fun ns => exists_congr fun e => mem_log_of_end h rfl

end

end

/-! ## Writes of a store -/

/-- A store gives out one version for each write that it answers. -/
theorem counter_plane (call : Call) (s : Store) :
    (Store.plane call s).2.counter = s.counter +
      match (Store.plane call s).1 with
      | .hangs => 0
      | .answers result => (written? ⟨call, .answered result⟩).toList.length := by
  cases call with
  | get k i =>
    simp only [Store.plane, Store.step_eq]
    cases s.treatment ⟨.get, k, i⟩ <;> rfl
  | create k o =>
    simp only [Store.plane]
    cases Kind.identity? o with
    | error r => rfl
    | ok i =>
      simp only [Store.step_eq, Store.create]
      cases s.treatment ⟨.create, k, i⟩ with
      | hangs | fails => rfl
      | serves => cases (s.record ⟨.create, k, i⟩).find? ⟨k, i⟩ <;> rfl
  | replace k o =>
    simp only [Store.plane]
    cases Kind.identity? o with
    | error r => rfl
    | ok i =>
      simp only [Store.step_eq, Store.replace]
      cases s.treatment ⟨.replace, k, i⟩ with
      | hangs | fails => rfl
      | serves =>
        rcases (s.record ⟨.replace, k, i⟩).load k i with _ | ⟨_ | current⟩
        · rfl
        · rfl
        · simp only
          split <;> rfl

/-- A store that nobody else is at counts the writes of a pass. -/
theorem counter_run (t : Token) (p : Pass α) (n : Nat) (s : Store) :
    (p.runFrom (.alone t) n s).state.counter =
      s.counter + ((p.heardFrom (.alone t) n s).filterMap written?).length := by
  have hcancelled : ∀ call : Call, written? ⟨call, .cancelled⟩ = none := by
    intro call
    cases call <;> rfl
  induction p generalizing n s with
  | done => rfl
  | note _ _ ih => exact ih n s
  | ask call next ih =>
    simp only [Pass.runFrom, Pass.heardFrom, Surroundings.alone] at ih ⊢
    split
    · rw [ih .cancelled n s, written?_cons, hcancelled]
      rfl
    · have hcounter := counter_plane call s
      rcases hplane : Store.plane call s with ⟨_ | result, u⟩
      · rw [hplane] at hcounter
        cases t.firesDuring n with
        | true =>
          simp only [if_true, ih .cancelled (n + 1) u, written?_cons, hcancelled]
          rw [hcounter]
          rfl
        | false => exact hcounter
      · rw [hplane] at hcounter
        simp only [ih (.answered result) (n + 1) u, written?_cons, List.length_append]
        rw [← Nat.add_assoc]
        exact congrArg (· + _) hcounter

/-! ## The law -/

/-- How the events read in the log. -/
structure Event.Worded : Prop where
  absent : ∀ k, (childAbsent k).level = .debug ∧ (childAbsent k).message = "child absent" ∧
    (childAbsent k).fields = [("kind", k.name)]
  written : ∀ k action, (childReconciled k action).level = .info ∧
    (childReconciled k action).message = "child reconciled" ∧
    (childReconciled k action).fields = [("kind", k.name), ("action", action.name)]
  gone : intentGone.level = .info ∧
    intentGone.message = "ModelDeployment not found, nothing to reconcile"
  converged : ∀ id workload endpoint, (reconciled id workload endpoint).level = .info ∧
    (reconciled id workload endpoint).message = "ModelDeployment reconciled" ∧
    (reconciled id workload endpoint).fields =
      [("identity", id.display), ("workload", workload.name), ("endpoint", endpoint.name)]
  cancelled : ∀ name, (cancelled name).level = .info ∧
    (cancelled name).message = "reconciliation cancelled, not requeueing"
  failed : ∀ name ns e, (failed name ns e).level = .error ∧
    ∃ cause, (failed name ns e).message = "reconciliation failed: " ++ cause
  names : Kind.workload.name = "Deployment" ∧ Kind.endpoint.name = "Service" ∧
    ChildAction.created.name = "created" ∧ ChildAction.updated.name = "updated"

theorem Event.worded : Event.Worded where
  absent _ := ⟨rfl, rfl, rfl⟩
  written _ _ := ⟨rfl, rfl, rfl⟩
  gone := ⟨rfl, rfl⟩
  converged _ _ _ := ⟨rfl, rfl, rfl⟩
  cancelled _ := ⟨rfl, rfl⟩
  failed _ _ _ := ⟨rfl, _, rfl⟩
  names := ⟨rfl, rfl, rfl, rfl⟩

section

variable (policies : PolicyTable) (delays : RequeueDelays) (w : Surroundings σ) (s : σ)

theorem logTells_handle (hid : Kind.identity? (k := .intent) copy = .ok id) :
    LogTells copy id ((Pass.handle policies delays copy).heardFrom w 1 s)
      ((Pass.reconcile policies id).run w s).ending
      ((Pass.handle policies delays copy).run w s).log := by
  have hgoes := Stage.goes policies id w .start 1 s
  have hstart : Stage.rest policies id .start = Pass.reconcile policies id := rfl
  rw [hstart] at hgoes
  rw [heardFrom_handle policies delays w 1 s hid, Pass.run, Pass.run,
    log_handle policies delays hid w 1 s]
  exact logTells hgoes copy

/-- A copy that does not say which intent is meant leads to no call, and the log says why. -/
theorem handle_incomplete (h : copy.metadata.name = none ∨ copy.metadata.ns = none) :
    (Pass.handle policies delays copy).heardFrom w 1 s = [] ∧
      ((Pass.handle policies delays copy).run w s).log =
        [.failed copy.metadata.anyName copy.metadata.ns
          (.intentLookup ⟨copy.metadata.ns.getD "", copy.metadata.anyName⟩)] := by
  rw [Pass.handle, dispatch_incomplete policies h]
  exact ⟨rfl, rfl⟩

end

/-- Whatever a dispatch is run against, and wherever it fails, is blocked or is cancelled, the
log tells what it has heard and how it ended, and each event reads as it should. At a store it
tells of as many writes as the store has taken. -/
theorem the_log_tells_what_happened (policies : PolicyTable) (delays : RequeueDelays)
    (copy : Intent) :
    (∀ {σ : Type} (w : Surroundings σ) (s : σ),
      let heard := (Pass.handle policies delays copy).heardFrom w 1 s
      let log := ((Pass.handle policies delays copy).run w s).log
      (∀ id, Kind.identity? (k := .intent) copy = .ok id →
        LogTells copy id heard ((Pass.reconcile policies id).run w s).ending log) ∧
      (copy.metadata.name = none ∨ copy.metadata.ns = none → heard = [] ∧
        log = [.failed copy.metadata.anyName copy.metadata.ns
          (.intentLookup ⟨copy.metadata.ns.getD "", copy.metadata.anyName⟩)])) ∧
    (∀ (t : Token) (s : Store),
      let run := (Pass.handle policies delays copy).run (.alone t) s
      run.state.counter = s.counter + (run.log.filterMap Event.written?).length) ∧
    Event.Worded := by
  refine ⟨fun w s => ⟨fun id hid => logTells_handle policies delays w s hid,
    handle_incomplete policies delays w s⟩, fun t s => ?_, Event.worded⟩
  have hcounter := counter_run t (Pass.handle policies delays copy) 1 s
  -- the store counts the writes that are heard of, and the log tells of the same ones
  refine hcounter.trans (congrArg (fun l => s.counter + List.length l) ?_)
  cases hid : Kind.identity? (k := .intent) copy with
  | ok id => exact (logTells_handle policies delays (.alone t) s hid).written.symm
  | error r =>
    obtain ⟨hheard, hlog⟩ := handle_incomplete policies delays (.alone t) s
      ((Kind.identity?_eq_error).1 hid).1
    rw [hheard, hlog]
    rfl

/-- A pass that hangs while it creates the workload, until it is cancelled. The log says that
the workload is absent, and not that it was created. -/
theorem a_child_that_is_not_created_is_told_to_be_absent :
    ((Pass.handle .standard {} llama).run (.alone [.blocked])
        (busyStore.hangOn .create .workload)).log =
      [.childAbsent .workload, .cancelled "llama"] := by
  obtain ⟨hlog, -, -⟩ := the_log_tells_what_happened .standard {} llama
  obtain ⟨htells, -⟩ := hlog (.alone [.blocked]) (busyStore.hangOn .create .workload)
  exact (htells llamaId rfl).events.trans rfl

end ServingOperator
