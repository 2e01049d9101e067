-- The laws of the order of calls. A pass makes its calls in one order and
-- stops at the first step that fails, so a pass that fails has written the
-- workload at most. Only a call that hangs blocks it.
import ServingOperator.Proofs.PassPlan

namespace ServingOperator

variable {policies : PolicyTable} {s : Store} {id : Identity} {p : Plan}

/-! ## What a failure is reported as -/

/-- What the failure of a call is reported as. -/
def CallRecord.context (c : CallRecord) : ReconcileError :=
  match c.verb with
  | .get => if c.kind = .intent then .intentLookup c.identity else .childLookup c.kind c.identity
  | .create => .write c.kind .create c.identity
  | .replace => .write c.kind .replace c.identity

/-- The failure of the call of a stage is reported as that of this call. -/
theorem Stage.Asks.context_eq {st : Stage} {context : ReconcileError} {call : Call}
    {after : call.Answer → Stage} (h : Stage.Asks policies id st context call after) :
    context = (⟨call.verb, call.kind, id⟩ : CallRecord).context := by
  cases h with
  | start => rfl
  | reading turn => cases turn <;> rfl
  | writing turn intent policy owner current => cases current <;> rfl

/-- The step at which a pass failed after the calls `made`: the last of
them, or one of the two checks between calls. -/
inductive FailedStep (policies : PolicyTable) (s : Store) (id : Identity)
    (made : List CallRecord) : Report ReconcileError → Prop
  | call {c : CallRecord} {e : PlaneError} (hlast : made.getLast? = some c)
      (htreat : s.treatment c = .fails e) :
      FailedStep policies s id made ((Report.of e).wrap c.context)
  | runtime {intent : Intent} {r : Report PolicyError}
      (hintent : s.stored? .intent id = some intent)
      (hruntime : policies.resolve intent.spec.runtimeSelector = .error r)
      (hmade : made = [⟨.get, .intent, id⟩]) :
      FailedStep policies s id made (r.wrap (.unknownRuntime id intent.spec.runtimeSelector))
  | owner {intent : Intent} {r : Report OwnershipError}
      (hintent : s.stored? .intent id = some intent) (howner : intent.reference = .error r)
      (hmade : made = [⟨.get, .intent, id⟩, ⟨.get, .workload, id⟩]) :
      FailedStep policies s id made (r.wrap (.ownerReference .workload id))

/-! ## Planned calls -/

/-- A call that stores something exactly if it is a write, and whose failure
is reported as that of its record. -/
structure PlannedCall.Plain (c : PlannedCall) : Prop where
  reads : c.record.verb = .get ↔ c.stores = none
  context : c.context = c.record.context

theorem plain_intentCall (id : Identity) (events : List Event) : (intentCall id events).Plain :=
  ⟨⟨fun _ => rfl, fun _ => rfl⟩, rfl⟩

theorem plain_readCall (id : Identity) (c : Child) (events : List Event) :
    (readCall id c events).Plain :=
  ⟨⟨fun _ => rfl, fun _ => rfl⟩, by cases c <;> rfl⟩

theorem callVerb_ne_get {c : Child} (current : Option c.Object) :
    Child.callVerb current ≠ .get := by
  cases current <;> simp [Child.callVerb]

theorem plain_writeCall (id : Identity) {c : Child} (o : c.Object) (current : Option c.Object) :
    (writeCall id o current).Plain :=
  ⟨⟨fun h => absurd h (callVerb_ne_get current), fun h => nomatch h⟩, by cases current <;> rfl⟩

theorem Planned.plain (h : Planned policies id s p) : ∀ c ∈ p.calls, c.Plain := by
  cases h with
  | gone | unknown => simp [plain_intentCall]
  | unowned => simp [plain_intentCall, plain_readCall]
  | ready =>
    simp [convergingCalls, childCalls, plain_intentCall, plain_readCall, plain_writeCall]

theorem Planned.runtime_known (h : Planned policies id s p) :
    ∀ c ∈ p.calls.map (·.record), c.kind ≠ .intent → ∃ intent policy,
      s.stored? .intent id = some intent ∧
        policies.resolve (IntentSpec.runtimeSelector intent.spec) = .ok policy := by
  cases h with
  | gone | unknown => simp [intentCall]
  | unowned hintent hruntime => exact fun _ _ _ => ⟨_, _, hintent, hruntime⟩
  | ready hintent hruntime => exact fun _ _ _ => ⟨_, _, hintent, hruntime⟩

theorem Planned.owner_known (h : Planned policies id s p) :
    ∀ c ∈ p.calls.map (·.record), c.verb ≠ .get → ∃ intent owner,
      s.stored? .intent id = some intent ∧ Intent.reference intent = .ok owner := by
  cases h with
  | gone | unknown | unowned => simp [intentCall, readCall]
  | ready hintent _ howner => exact fun _ _ _ => ⟨_, _, hintent, howner⟩

theorem Planned.records (h : Planned policies id s p) :
    p.calls.map (·.record) <+: fullCalls s id := by
  cases h with
  | ready => exact ⟨[], List.append_nil _⟩
  | _ => exact ⟨_, rfl⟩

/-- Reads change nothing but the record of calls. -/
theorem afterAll_reads {calls : List PlannedCall} (h : ∀ c ∈ calls, c.stores = none) (s : Store) :
    afterAll calls s = { s with calls := s.calls ++ calls.map (·.record) } := by
  induction calls generalizing s with
  | nil => simp [afterAll]
  | cons c rest ih =>
    obtain ⟨hc, hrest⟩ := List.forall_mem_cons.1 h
    have hafter : c.after s = s.record c.record := by simp only [PlannedCall.after, hc]
    have hrest := ih hrest (c.after s)
    simp only [afterAll, List.foldl_cons] at hrest ⊢
    rw [hrest, hafter]
    simp [Store.record]

/-! ## What was served before a pass stopped -/

/-- The call that writes the workload. -/
def workloadWrite (s : Store) (id : Identity) : CallRecord :=
  ⟨Child.callVerb (c := .workload) (s.stored? .workload id), .workload, id⟩

/-- Reads alone were served. -/
def OnlyReads (served : List PlannedCall) : Prop := ∀ c ∈ served, c.stores = none

/-- The write of the workload was served, and no other write. -/
def HalfWritten (s : Store) (id : Identity) (served : List PlannedCall) : Prop :=
  workloadWrite s id ∈ served.map (·.record) ∧
    ∃ w : Workload, afterAll served s =
      { (s.keep (k := .workload) id w).2 with calls := s.calls ++ served.map (·.record) }

section

variable {intent : Intent} {policy : RuntimePolicy} {owner : OwnerReference}

theorem onlyReads_take {n : Nat} (hn : n ≤ 2) :
    OnlyReads ((convergingCalls s id intent policy owner).take n) := by
  intro c hc
  have hc : c ∈ (convergingCalls s id intent policy owner).take 2 :=
    List.take_subset_take_left _ hn hc
  simp only [convergingCalls, childCalls, List.cons_append, List.take_succ_cons, List.take_zero,
    List.mem_cons, List.not_mem_nil, or_false] at hc
  rcases hc with rfl | rfl
  · rfl
  · rfl

theorem halfWritten_take {n : Nat} (h3 : 3 ≤ n) (h4 : n ≤ 4) :
    HalfWritten s id ((convergingCalls s id intent policy owner).take n) := by
  refine ⟨?_, Child.written (Child.owned intent policy owner .workload) (s.stored? .workload id), ?_⟩
  · obtain rfl | rfl : n = 3 ∨ n = 4 := by omega
    · simp [convergingCalls, childCalls, writeCall, workloadWrite]
    · simp [convergingCalls, childCalls, writeCall, workloadWrite]
  · rw [← calls_afterAll]
    obtain rfl | rfl : n = 3 ∨ n = 4 := by omega
    · rfl
    · rfl

end

/-- A pass makes reads alone, or it is going to converge. -/
theorem Planned.reads_or_converges (h : Planned policies id s p) :
    OnlyReads p.calls ∨ ∃ intent policy owner,
      p.calls = convergingCalls s id intent policy owner ∧ ∃ o, p.verdict = .ok o := by
  cases h with
  | gone | unknown | unowned => exact .inl (by simp [OnlyReads, intentCall, readCall])
  | ready => exact .inr ⟨_, _, _, rfl, _, rfl⟩

/-- Before the first call that is not served, a pass has made reads alone,
or has written the workload as well. -/
theorem Planned.served_before (h : Planned policies id s p) {served rest : List PlannedCall}
    {c : PlannedCall} (hcalls : p.calls = served ++ c :: rest) :
    OnlyReads served ∨ HalfWritten s id served := by
  rcases h.reads_or_converges with hreads | ⟨intent, policy, owner, hp, _⟩
  · exact .inl fun c hc => hreads c (by rw [hcalls]; exact List.mem_append_left _ hc)
  · have hserved : served = p.calls.take served.length := by rw [hcalls, List.take_left]
    have hlen := congrArg List.length hcalls
    rw [hp] at hserved hlen
    simp only [convergingCalls, childCalls, List.length_append, List.length_cons,
      List.length_nil] at hlen
    rw [hserved]
    rcases Nat.lt_or_ge served.length 3 with hlt | hge
    · exact .inl (onlyReads_take (by omega))
    · exact .inr (halfWritten_take hge (by omega))

/-! ## What a pass hears -/

/-- The calls of a pass, each with the reply to it. -/
def Pass.heardFrom {σ α : Type} (w : Surroundings σ) :
    Pass α → Nat → σ → List (Σ call : Call, Reply call.Answer)
  | .done _, _, _ => []
  | .note _ rest, n, s => rest.heardFrom w n s
  | .ask call next, n, s =>
    if w.token.fired n then ⟨call, .cancelled⟩ :: (next .cancelled).heardFrom w n s
    else
      match w.plane call (w.meddle n s) with
      | (.answers result, s) =>
        ⟨call, .answered result⟩ :: (next (.answered result)).heardFrom w (n + 1) s
      | (.hangs, s) =>
        if w.token.firesDuring n then
          ⟨call, .cancelled⟩ :: (next .cancelled).heardFrom w (n + 1) s
        else []

/-- What a pass notes has no part in what it hears. -/
theorem heardFrom_unnoted (w : Surroundings σ) (p : Pass α) (n : Nat) (s : σ) :
    p.unnoted.heardFrom w n s = p.heardFrom w n s := by
  induction p with
  | done | ask => rfl
  | note _ rest ih => exact ih

section

variable {σ : Type} {st : Stage} {context : ReconcileError} {call : Call}
  {after : call.Answer → Stage}

/-- What a pass hears from a stage on. -/
theorem Stage.Asks.heard_eq (h : Stage.Asks policies id st context call after)
    (w : Surroundings σ) (n : Nat) (s : σ) :
    (st.rest policies id).heardFrom w n s =
      if w.token.fired n then [⟨call, .cancelled⟩]
      else
        match w.plane call (w.meddle n s) with
        | (.hangs, _) => if w.token.firesDuring n then [⟨call, .cancelled⟩] else []
        | (.answers (.error r), _) => [⟨call, .answered (.error r)⟩]
        | (.answers (.ok a), s) =>
          ⟨call, .answered (.ok a)⟩ :: ((after a).rest policies id).heardFrom w (n + 1) s := by
  obtain ⟨next, hrest, hnext⟩ := h.rest_eq
  simp only [hrest, Attempt.request, Pass.heardFrom]
  split
  · rfl
  · rcases w.plane call (w.meddle n s) with ⟨_ | ⟨r | a⟩, t⟩
    · rfl
    · rfl
    · simp only [← hnext a, heardFrom_unnoted]

/-- What becomes of a pass at a stage: its call blocks it, the token fires, the call fails, or
the call is answered and the pass goes on from the next stage. -/
theorem Stage.Asks.run_cases (h : Stage.Asks policies id st context call after)
    (w : Surroundings σ) (n : Nat) (s : σ) :
    (((st.rest policies id).outcome w n s).1 = none ∧ (st.rest policies id).heardFrom w n s = []) ∨
      (((st.rest policies id).outcome w n s).1 = some (.error (.of (.cancelled id))) ∧
        (st.rest policies id).heardFrom w n s = [⟨call, .cancelled⟩]) ∨
      (∃ r t, w.plane call (w.meddle n s) = (.answers (.error r), t) ∧
        (st.rest policies id).outcome w n s = (some (.error (r.wrap context)), t) ∧
        (st.rest policies id).heardFrom w n s = [⟨call, .answered (.error r)⟩]) ∨
      ∃ a t, w.plane call (w.meddle n s) = (.answers (.ok a), t) ∧
        (st.rest policies id).outcome w n s =
          ((after a).rest policies id).outcome w (n + 1) t ∧
        (st.rest policies id).heardFrom w n s =
          ⟨call, .answered (.ok a)⟩ :: ((after a).rest policies id).heardFrom w (n + 1) t := by
  rw [h.outcome_eq, h.heard_eq]
  by_cases hfired : w.token.fired n = true
  · simp [hfired]
  · rw [if_neg hfired, if_neg hfired]
    rcases w.plane call (w.meddle n s) with ⟨_ | ⟨r | a⟩, t⟩
    · by_cases hduring : w.token.firesDuring n = true <;> simp [hduring]
    · exact .inr (.inr (.inl ⟨r, t, rfl, rfl, rfl⟩))
    · exact .inr (.inr (.inr ⟨a, t, rfl, rfl, rfl⟩))

end

/-- What is heard is what was called for: a pass that nobody disturbs leaves
the store that its calls lead to, made one after the other. -/
theorem state_of_heard {α : Type} (p : Pass α) (n : Nat) (s : Store) {a : α}
    (hend : (p.runFrom (.alone []) n s).ending = some a) :
    (p.runFrom (.alone []) n s).state =
      (p.heardFrom (.alone []) n s).foldl (fun s x => (Store.plane x.1 s).2) s := by
  have hfired : ∀ n, Token.fired [] n = false := fun _ => rfl
  have hduring : ∀ n, Token.firesDuring [] n = false := fun _ => rfl
  induction p generalizing n s with
  | done b => rfl
  | note e rest ih => exact ih n s hend
  | ask call next ih =>
    simp only [Pass.runFrom, Pass.heardFrom, Surroundings.alone, hfired, hduring,
      Bool.false_eq_true, if_false] at hend ⊢
    rcases hplane : Store.plane call s with ⟨_ | result, t⟩
    · rw [hplane] at hend
      cases hend
    · rw [hplane] at hend
      simp only [List.foldl_cons, hplane]
      exact ih _ (n + 1) t hend

/-- A get that is answered brings what the store `s` has. -/
def Truthful (s : Store) : (Σ call : Call, Reply call.Answer) → Prop
  | ⟨.get k i, .answered (.ok a)⟩ => a = s.stored? k i
  | _ => True

theorem truthful_get {u : Store} {k : Kind} {i : Identity} (hu : u.Good)
    (hstored : u.stored? k i = s.stored? k i) {result : Except (Report PlaneError) (Option k.Object)}
    (h : (Store.plane (.get k i) u).1 = .answers result) :
    Truthful s ⟨.get k i, .answered result⟩ := by
  cases result with
  | error r => trivial
  | ok a => exact (hu.found h).symm.trans hstored

section

variable {P : (Σ call : Call, Reply call.Answer) → Prop} {n : Nat} {u : Store}

theorem forall_heard_request {context : ReconcileError} {call : Call}
    {next : call.Answer → Attempt Outcome}
    (hhead : ∀ result, (Store.plane call u).1 = .answers result → P ⟨call, .answered result⟩)
    (htail : ∀ a, (Store.plane call u).1 = .answers (.ok a) →
      ∀ x ∈ (next a).heardFrom (.alone []) (n + 1) (Store.plane call u).2, P x) :
    ∀ x ∈ (Attempt.request id context call next).heardFrom (.alone []) n u, P x := by
  have hfired : Token.fired [] n = false := rfl
  have hduring : Token.firesDuring [] n = false := rfl
  simp only [Attempt.request, Pass.heardFrom, Surroundings.alone, hfired, hduring,
    Bool.false_eq_true, if_false]
  rcases hplane : Store.plane call u with ⟨_ | ⟨r | a⟩, t⟩
  · exact List.forall_mem_nil _
  · rw [hplane] at hhead
    exact List.forall_mem_cons.2 ⟨hhead _ rfl, List.forall_mem_nil _⟩
  · rw [hplane] at hhead htail
    exact List.forall_mem_cons.2 ⟨hhead _ rfl, htail a rfl⟩

theorem truthful_convergeChild {intent : Intent} {c : Child} {desired : c.Object}
    {next : ChildAction → Attempt Outcome} (hu : u.Good)
    (hstored : u.stored? c.kind id = s.stored? c.kind id)
    (hnext : ∀ action m v, v.Good → (∀ k i, k ≠ c.kind → v.stored? k i = u.stored? k i) →
      ∀ x ∈ (next action).heardFrom (.alone []) m v, Truthful s x) :
    ∀ x ∈ (Pass.convergeChild id intent c desired next).heardFrom (.alone []) n u,
      Truthful s x := by
  apply forall_heard_request
  · exact fun result h => truthful_get hu hstored h
  · intro current _
    have hgot := (u.change_plane (.get c.kind id)).good hu
    have hframe := fun k i hk => Store.stored?_plane_ne hu (.get c.kind id) (k := k) hk i
    generalize (Store.plane (.get c.kind id) u).2 = v at hgot hframe
    rcases attachOwner intent desired with r | o
    · exact List.forall_mem_nil _
    · cases current with
      | none =>
        refine forall_heard_request (fun _ _ => trivial) fun a _ => ?_
        refine hnext _ _ _ ((v.change_plane _).good hgot) fun k i hk => ?_
        rw [Store.stored?_plane_ne hgot _ hk, hframe k i hk]
      | some current =>
        refine forall_heard_request (fun _ _ => trivial) fun a _ => ?_
        refine hnext _ _ _ ((v.change_plane _).good hgot) fun k i hk => ?_
        rw [Store.stored?_plane_ne hgot _ hk, hframe k i hk]

end

/-- What a pass that nobody disturbs reads is what was there before it, since
it writes no child before it has read it. -/
theorem truthful_reconcile (policies : PolicyTable) (id : Identity) (hs : s.Good) :
    ∀ x ∈ (Pass.reconcile policies id).heardFrom (.alone []) 1 s, Truthful s x := by
  apply forall_heard_request
  · exact fun result h => truthful_get hs rfl h
  · intro intent? _
    have hgot := (s.change_plane (.get .intent id)).good hs
    have hframe := fun k i hk => Store.stored?_plane_ne hs (.get .intent id) (k := k) hk i
    generalize (Store.plane (.get .intent id) s).2 = v at hgot hframe
    cases intent? with
    | none => exact List.forall_mem_nil _
    | some intent =>
      simp only [Pass.converge]
      rcases Desired.workload policies intent with r | workload
      · exact List.forall_mem_nil _
      · have hworkload : Kind.workload ≠ .intent := by decide
        have hendpoint : Kind.endpoint ≠ .intent := by decide
        have hother : Kind.endpoint ≠ .workload := by decide
        apply truthful_convergeChild (c := .workload) hgot (hframe .workload id hworkload)
        intro first m v' hv' hframe'
        refine truthful_convergeChild (c := .endpoint) hv' ?_ fun _ _ _ _ _ => List.forall_mem_nil _
        exact (hframe' .endpoint id hother).trans (hframe .endpoint id hendpoint)

/-! ## The order of calls -/

/-- The write of the workload was made and served. -/
def WorkloadWritten (s : Store) (id : Identity) (made : List CallRecord) : Prop :=
  workloadWrite s id ∈ made ∧ s.treatment (workloadWrite s id) = .serves

/-- How a pass over `id` went from the store `s` on, if it made the calls
`made` and nobody fired its token. -/
structure Orderly (policies : PolicyTable) (s : Store) (id : Identity) (made : List CallRecord)
    (r : Run Store Verdict) : Prop where
  recorded : r.state.calls = s.calls ++ made
  /-- The calls are those of a full pass up to some point. -/
  in_order : made <+: fullCalls s id
  /-- A child is created exactly if its own get brought nothing: gets bring
  what is in the store that decides the verbs of a full pass. -/
  found : ∀ x ∈ (Pass.reconcile policies id).heardFrom (.alone []) 1 s, Truthful s x
  /-- No call is made after one that is not served. -/
  served : ∀ c ∈ made.dropLast, s.treatment c = .serves
  /-- It blocks only at a call that hangs. -/
  blocked : r.ending = none ↔ ∃ c ∈ made, s.treatment c = .hangs
  /-- It fails only at the step where it stops. -/
  failed : ∀ e, r.ending = some (.error e) → FailedStep policies s id made e
  /-- A child is called for only if the intent is there with a known runtime. -/
  runtime_known : ∀ c ∈ made, c.kind ≠ .intent → ∃ intent policy,
    s.stored? .intent id = some intent ∧
      policies.resolve (IntentSpec.runtimeSelector intent.spec) = .ok policy
  /-- A child is written only if the intent can own it. -/
  owner_known : ∀ c ∈ made, c.verb ≠ .get → ∃ intent owner,
    s.stored? .intent id = some intent ∧ Intent.reference intent = .ok owner
  /-- The endpoint is called for only after the workload is written. -/
  workload_first : ∀ c ∈ made, c.kind = .endpoint → WorkloadWritten s id made ∧
    ∃ w : Workload, r.state.stored? .workload id = some w ∧ s.NewerThan (k := .workload) w
  /-- The intent is read only. -/
  intent_read : ∀ c ∈ made, c.kind = .intent → c.verb = .get
  /-- Without a write of the workload, nothing but the calls is changed. -/
  untouched : ¬ WorkloadWritten s id made → r.state = { s with calls := s.calls ++ made }
  /-- After it, the workload alone is changed unless the pass ends well. -/
  half_written : WorkloadWritten s id made → (∀ o, r.ending ≠ some (.ok o)) →
    ∃ w : Workload, r.state = { (s.keep (k := .workload) id w).2 with calls := s.calls ++ made }

/-- The workload is written before the endpoint is called for. -/
theorem workloadWrite_mem {made : List CallRecord} (h : made <+: fullCalls s id)
    {c : CallRecord} (hc : c ∈ made) (hk : c.kind = .endpoint) :
    workloadWrite s id ∈ made.dropLast := by
  rw [List.prefix_iff_eq_take] at h
  rcases Nat.lt_or_ge made.length 4 with hlt | hge
  · exfalso
    rw [h] at hc
    have hc := List.take_subset_take_left (fullCalls s id) (Nat.le_of_lt_succ hlt) hc
    simp only [fullCalls, List.take_succ_cons, List.take_zero, List.mem_cons, List.not_mem_nil,
      or_false] at hc
    rcases hc with rfl | rfl | rfl
    · cases hk
    · cases hk
    · cases hk
  · have hmem : workloadWrite s id ∈ made.take 3 := by
      rw [h, List.take_take, Nat.min_eq_left (by omega)]
      simp [fullCalls, workloadWrite]
    rw [List.dropLast_eq_take]
    exact List.take_subset_take_left made (by omega) hmem

theorem not_onlyReads {calls : List PlannedCall} (hplain : ∀ c ∈ calls, c.Plain)
    (hmem : workloadWrite s id ∈ calls.map (·.record)) : ¬ OnlyReads calls := by
  intro hreads
  obtain ⟨c, hc, hrecord⟩ := List.mem_map.1 hmem
  have hget := (hplain c hc).reads.2 (hreads c hc)
  rw [hrecord] at hget
  exact callVerb_ne_get _ hget

theorem intent_only_read {made : List CallRecord} (h : made <+: fullCalls s id)
    {c : CallRecord} (hc : c ∈ made) (hk : c.kind = .intent) : c.verb = .get := by
  have hc := h.subset hc
  simp only [fullCalls, List.mem_cons, List.not_mem_nil, or_false] at hc
  rcases hc with rfl | rfl | rfl | rfl | rfl
  · rfl
  all_goals cases hk

/-- A pass of which all planned calls are served. -/
theorem Planned.orderly_of_through (h : Planned policies id s p) {r : Run Store Verdict}
    (hserved : ∀ c ∈ p.calls, s.treatment c.record = .serves)
    (hending : r.ending = some p.verdict) (hstate : r.state = afterAll p.calls s)
    (hfound : ∀ x ∈ (Pass.reconcile policies id).heardFrom (.alone []) 1 s, Truthful s x) :
    Orderly policies s id (p.calls.map (·.record)) r := by
  have hmade : ∀ c ∈ p.calls.map (·.record), s.treatment c = .serves := by
    simpa using hserved
  constructor
  case recorded => rw [hstate, calls_afterAll]
  case in_order => exact h.records
  case found => exact hfound
  case served => exact fun c hc => hmade c (List.dropLast_subset _ hc)
  case blocked =>
    rw [hending]
    refine ⟨fun hn => (nomatch hn), fun ⟨c, hc, hhangs⟩ => ?_⟩
    rw [hmade c hc] at hhangs
    cases hhangs
  case failed =>
    intro e he
    rw [hending] at he
    cases h with
    | gone | ready => cases he
    | unknown hintent hruntime =>
      cases he
      exact .runtime hintent hruntime rfl
    | unowned hintent hruntime howner =>
      cases he
      exact .owner hintent howner rfl
  case runtime_known => exact h.runtime_known
  case owner_known => exact h.owner_known
  case workload_first =>
    intro c hc hk
    have hmem := List.dropLast_subset _ (workloadWrite_mem h.records hc hk)
    refine ⟨⟨hmem, hmade _ hmem⟩, ?_⟩
    rcases h.reads_or_converges with hreads | ⟨intent, policy, owner, hp, _⟩
    · exact absurd hreads (not_onlyReads h.plain hmem)
    · rw [hstate, hp]
      exact ⟨_, stored?_workload_afterAll, s.counter + 1, Store.versionOf_withVersion _ _,
        Nat.lt_succ_self _⟩
  case intent_read => exact fun c => intent_only_read h.records
  case untouched =>
    intro hno
    rcases h.reads_or_converges with hreads | ⟨intent, policy, owner, hp, _⟩
    · rw [hstate, afterAll_reads hreads]
    · have hmem : workloadWrite s id ∈ p.calls.map (·.record) := by
        rw [hp]
        simp [convergingCalls, childCalls, writeCall, workloadWrite]
      exact absurd ⟨hmem, hmade _ hmem⟩ hno
  case half_written =>
    intro hw hno
    rcases h.reads_or_converges with hreads | ⟨_, _, _, _, o, ho⟩
    · exact absurd hreads (not_onlyReads h.plain hw.1)
    · exact absurd (by rw [hending, ho]) (hno o)

/-- A pass that stops at a call that is not served. -/
theorem Planned.orderly_of_stopped (h : Planned policies id s p) {r : Run Store Verdict}
    {served rest : List PlannedCall} {c : PlannedCall} (hcalls : p.calls = served ++ c :: rest)
    (hserved : ∀ c ∈ served, s.treatment c.record = .serves) (hstop : Stopped s c r.ending)
    (hstate : r.state = (afterAll served s).record c.record)
    (hfound : ∀ x ∈ (Pass.reconcile policies id).heardFrom (.alone []) 1 s, Truthful s x) :
    Orderly policies s id (served.map (·.record) ++ [c.record]) r := by
  have hmade : ∀ c ∈ served.map (·.record), s.treatment c = .serves := by
    simpa using hserved
  have hplan : ∀ c' ∈ served ++ [c], c' ∈ p.calls := by
    intro c' hc'
    rw [hcalls]
    simp only [List.mem_append, List.mem_cons, List.not_mem_nil, or_false] at hc' ⊢
    exact hc'.imp_right .inl
  have hmade_calls : served.map (·.record) ++ [c.record] <+: p.calls.map (·.record) := by
    refine ⟨rest.map (·.record), ?_⟩
    rw [hcalls]
    simp
  have horder := hmade_calls.trans h.records
  have hnot : s.treatment c.record ≠ .serves := by
    rcases hstop with ⟨htreat, _⟩ | ⟨e, htreat, _⟩ <;> simp [htreat]
  have hserved_of : ∀ c' ∈ served.map (·.record) ++ [c.record], s.treatment c' = .serves →
      c' ∈ served.map (·.record) := by
    intro c' hc' htreat
    rcases List.mem_append.1 hc' with hc' | hc'
    · exact hc'
    · rw [List.mem_singleton.1 hc'] at htreat
      exact absurd htreat hnot
  constructor
  case recorded =>
    rw [hstate, Store.record, calls_afterAll, List.append_assoc]
  case in_order => exact horder
  case found => exact hfound
  case served => rwa [List.dropLast_concat]
  case blocked =>
    rcases hstop with ⟨htreat, hending⟩ | ⟨e, htreat, hending⟩
    · exact ⟨fun _ => ⟨c.record, by simp, htreat⟩, fun _ => hending⟩
    · rw [hending]
      refine ⟨fun hn => (nomatch hn), fun ⟨c', hc', hhangs⟩ => ?_⟩
      rcases List.mem_append.1 hc' with hc' | hc'
      · rw [hmade c' hc'] at hhangs
        cases hhangs
      · rw [List.mem_singleton.1 hc', htreat] at hhangs
        cases hhangs
  case failed =>
    intro e he
    rcases hstop with ⟨_, hending⟩ | ⟨e', htreat, hending⟩
    · rw [hending] at he
      cases he
    · rw [hending, (h.plain c (hplan c (by simp))).context] at he
      cases he
      exact .call (by simp) htreat
  case runtime_known => exact fun c' hc' => h.runtime_known c' (hmade_calls.subset hc')
  case owner_known => exact fun c' hc' => h.owner_known c' (hmade_calls.subset hc')
  case workload_first =>
    intro c' hc' hk
    have hmem := workloadWrite_mem horder hc' hk
    rw [List.dropLast_concat] at hmem
    refine ⟨⟨List.mem_append_left _ hmem, hmade _ hmem⟩, ?_⟩
    rcases h.served_before hcalls with hreads | ⟨_, w, hw⟩
    · exact absurd hreads (not_onlyReads (fun d hd => h.plain d (hplan d (by simp [hd]))) hmem)
    · rw [hstate, hw]
      exact ⟨_, Store.stored?_keep_self _ _ _, s.counter + 1, Store.versionOf_withVersion _ _,
        Nat.lt_succ_self _⟩
  case intent_read => exact fun c => intent_only_read horder
  case untouched =>
    intro hno
    rcases h.served_before hcalls with hreads | ⟨hmem, _⟩
    · rw [hstate, afterAll_reads hreads, Store.record, List.append_assoc]
    · exact absurd ⟨List.mem_append_left _ hmem, hmade _ hmem⟩ hno
  case half_written =>
    intro ⟨hmem, htreat⟩ _
    have hmem := hserved_of _ hmem htreat
    rcases h.served_before hcalls with hreads | ⟨_, w, hw⟩
    · exact absurd hreads (not_onlyReads (fun d hd => h.plain d (hplan d (by simp [hd]))) hmem)
    · exact ⟨w, by rw [hstate, hw, Store.record, List.append_assoc]⟩

/-- From any store, with any calls made to fail or to hang, over any intent
or none: a pass of which nobody fires the token makes its calls in order and
stops at the first step that fails or hangs. -/
theorem a_pass_stops_at_the_first_failing_step (policies : PolicyTable) (id : Identity)
    (hs : s.Reachable) :
    ∃ made, Orderly policies s id made ((Pass.reconcile policies id).run (.alone []) s) := by
  obtain ⟨p, hp⟩ := exists_planned policies id s
  have hfound := truthful_reconcile policies id hs.good
  rw [hp.run_eq hs.good []]
  cases follow_followed id p.verdict p.calls 1 s with
  | through hserved hending hstate => exact ⟨_, hp.orderly_of_through hserved hending hstate hfound⟩
  | stopped served c rest hcalls hserved hstop hstate =>
    exact ⟨_, hp.orderly_of_stopped hcalls hserved hstop hstate hfound⟩

/-- A pass over the intent of a store where no endpoint can be replaced. -/
theorem a_pass_stops_where_no_endpoint_can_be_replaced :
    ∃ made, Orderly .standard
      (busyStore.perform (.failOn .replace .endpoint (.unavailable .endpoint llamaId))) llamaId made
      ((Pass.reconcile .standard llamaId).run (.alone [])
        (busyStore.perform (.failOn .replace .endpoint (.unavailable .endpoint llamaId)))) :=
  a_pass_stops_at_the_first_failing_step .standard llamaId (.perform _ busyStore_reachable)

end ServingOperator
