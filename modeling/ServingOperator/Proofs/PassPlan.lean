-- The laws of a pass that nobody disturbs. What such a pass does is fixed by
-- the store that it finds: it follows a plan, a list of calls, until one is
-- not served or the token has fired. So each law of these passes is a law
-- of lists.
import ServingOperator.Proofs.PassStages

namespace ServingOperator

/-- A store at which nobody else is at work, and a token that may fire. -/
def Surroundings.alone (t : Token) : Surroundings Store := { plane := Store.plane, token := t }

/-- A run that notes some events before it goes on as `r`. -/
def Run.noting {σ α : Type} (events : List Event) (r : Run σ α) : Run σ α :=
  { r with log := events ++ r.log }

/-! ## Plans -/

/-- A call that a pass is going to make: under which context its failure is
reported, what it stores if it is served, and which events are noted then. -/
structure PlannedCall where
  record : CallRecord
  context : ReconcileError
  stores : Option record.kind.Object := none
  events : List Event := []

/-- The store after a planned call is served. -/
def PlannedCall.after (c : PlannedCall) (s : Store) : Store :=
  match c.stores with
  | none => s.record c.record
  | some o => ((s.record c.record).keep c.record.identity o).2

/-- The store after planned calls are served one after the other. -/
def afterAll (calls : List PlannedCall) (s : Store) : Store :=
  calls.foldl (fun s c => c.after s) s

/-- The calls of a pass, and how it ends when all of them are served. -/
structure Plan where
  calls : List PlannedCall
  verdict : Verdict

/-- The pass over `id` that makes the calls that are left, from the point
where call `n` comes next. -/
def follow (t : Token) (id : Identity) (verdict : Verdict) :
    List PlannedCall → Nat → Store → Run Store Verdict
  | [], _, s => ⟨some verdict, s, []⟩
  | c :: rest, n, s =>
    if t.fired n then ⟨some (.error (.of (.cancelled id))), s, []⟩
    else
      match s.treatment c.record with
      | .hangs =>
        ⟨if t.firesDuring n then some (.error (.of (.cancelled id))) else none,
          s.record c.record, []⟩
      | .fails e => ⟨some (.error ((Report.of e).wrap c.context)), s.record c.record, []⟩
      | .serves => (follow t id verdict rest (n + 1) (c.after s)).noting c.events

/-! ## Following planned calls -/

section

variable {id : Identity} {s : Store} {verdict : Verdict}

theorem treatment_after (c : PlannedCall) (s : Store) : (c.after s).treatment = s.treatment := by
  unfold PlannedCall.after
  split <;> rfl

theorem calls_after (c : PlannedCall) (s : Store) : (c.after s).calls = s.calls ++ [c.record] := by
  unfold PlannedCall.after
  split <;> rfl

theorem calls_afterAll (calls : List PlannedCall) (s : Store) :
    (afterAll calls s).calls = s.calls ++ calls.map (·.record) := by
  induction calls generalizing s with
  | nil => simp [afterAll]
  | cons c rest ih =>
    have hrest := ih (c.after s)
    simp only [afterAll, List.foldl_cons, List.map_cons, calls_after] at hrest ⊢
    rw [hrest, List.append_assoc, List.singleton_append]

/-- A run stops at a call: it hangs, or its failure is reported under the
context of the call. -/
def Stopped (s : Store) (c : PlannedCall) (ending : Option Verdict) : Prop :=
  s.treatment c.record = .hangs ∧ ending = none ∨
    ∃ e, s.treatment c.record = .fails e ∧
      ending = some (.error ((Report.of e).wrap c.context))

/-- How a run along planned calls goes: all of them are served, or it stops
at the first one that is not. -/
inductive Followed (verdict : Verdict) (s : Store) (calls : List PlannedCall)
    (r : Run Store Verdict) : Prop
  | through (hserved : ∀ c ∈ calls, s.treatment c.record = .serves)
      (hending : r.ending = some verdict) (hstate : r.state = afterAll calls s)
  | stopped (served : List PlannedCall) (c : PlannedCall) (rest : List PlannedCall)
      (hcalls : calls = served ++ c :: rest)
      (hserved : ∀ c ∈ served, s.treatment c.record = .serves)
      (hstop : Stopped s c r.ending) (hstate : r.state = (afterAll served s).record c.record)

/-- Without a token, a run along planned calls ends or hangs at a call, and
nothing happens beyond the first call that is not served. -/
theorem follow_followed (id : Identity) (verdict : Verdict) (calls : List PlannedCall) (n : Nat)
    (s : Store) : Followed verdict s calls (follow [] id verdict calls n s) := by
  induction calls generalizing n s with
  | nil => exact .through (fun c hc => nomatch hc) rfl rfl
  | cons c rest ih =>
    have hfired : Token.fired [] n = false := rfl
    have hduring : Token.firesDuring [] n = false := rfl
    simp only [follow, hfired, hduring, Bool.false_eq_true, if_false]
    cases htreat : s.treatment c.record with
    | hangs =>
      exact .stopped [] c rest rfl (fun c hc => nomatch hc) (.inl ⟨htreat, rfl⟩) rfl
    | fails e =>
      exact .stopped [] c rest rfl (fun c hc => nomatch hc) (.inr ⟨e, htreat, rfl⟩) rfl
    | serves =>
      cases ih (n + 1) (c.after s) with
      | through hserved hending hstate =>
        rw [treatment_after] at hserved
        exact .through (List.forall_mem_cons.2 ⟨htreat, hserved⟩) hending hstate
      | stopped served c' rest' hcalls hserved hstop hstate =>
        rw [treatment_after] at hserved
        rw [Stopped, treatment_after] at hstop
        exact .stopped (c :: served) c' rest' (congrArg (c :: ·) hcalls)
          (List.forall_mem_cons.2 ⟨htreat, hserved⟩) hstop hstate

/-- A run along planned calls that are all served before the token fires. -/
theorem follow_served (t : Token) (id : Identity) (verdict : Verdict) {calls : List PlannedCall}
    {n : Nat} {s : Store} (hserved : ∀ c ∈ calls, s.treatment c.record = .serves)
    (ht : ∀ m < n + calls.length, t.fired m = false) :
    follow t id verdict calls n s =
      ⟨some verdict, afterAll calls s, calls.flatMap (·.events)⟩ := by
  induction calls generalizing n s with
  | nil => rfl
  | cons c rest ih =>
    obtain ⟨hc, hrest⟩ := List.forall_mem_cons.1 hserved
    have hfired : t.fired n = false := ht n (by simp)
    rw [← treatment_after c s] at hrest
    simp only [follow, hfired, hc, Bool.false_eq_true, if_false]
    rw [ih hrest fun m hm => ht m (by rw [List.length_cons]; omega)]
    rfl

/-- A run along planned calls that ends well was served all of them. -/
theorem follow_ok {t : Token} {calls : List PlannedCall} {n : Nat} {o : Outcome}
    (h : (follow t id verdict calls n s).ending = some (.ok o)) :
    verdict = .ok o ∧ (follow t id verdict calls n s).state = afterAll calls s := by
  induction calls generalizing n s with
  | nil => exact ⟨Option.some.inj h, rfl⟩
  | cons c rest ih =>
    simp only [follow] at h ⊢
    cases hfired : t.fired n with
    | true =>
      rw [hfired] at h
      cases h
    | false =>
      rw [hfired] at h
      cases htreat : s.treatment c.record with
      | hangs =>
        rw [htreat] at h
        cases hduring : t.firesDuring n <;> simp [hduring] at h
      | fails e =>
        rw [htreat] at h
        cases h
      | serves =>
        rw [htreat] at h
        exact ih h

end

/-! ## What a pass plans -/

/-- The call that reads the intent. -/
def intentCall (id : Identity) (events : List Event) : PlannedCall where
  record := ⟨.get, .intent, id⟩
  context := .intentLookup id
  events := events

/-- The call that reads a child. -/
def readCall (id : Identity) (c : Child) (events : List Event) : PlannedCall where
  record := ⟨.get, c.kind, id⟩
  context := .childLookup c.kind id
  events := events

/-- The call that writes a child over what is stored. -/
def writeCall (id : Identity) {c : Child} (o : c.Object) (current : Option c.Object) :
    PlannedCall where
  record := ⟨Child.callVerb current, c.kind, id⟩
  context := .write c.kind (Child.writeVerb current) id
  stores := some (Child.written o current)
  events := [.childReconciled c.kind (Child.action current)]

/-- The two calls that make a child be the object `o`. -/
def childCalls (id : Identity) {c : Child} (o : c.Object) (current : Option c.Object) :
    List PlannedCall :=
  [readCall id c (if current.isNone then [.childAbsent c.kind] else []), writeCall id o current]

/-- All calls of a pass that converges. -/
def convergingCalls (s : Store) (id : Identity) (intent : Intent) (policy : RuntimePolicy)
    (owner : OwnerReference) : List PlannedCall :=
  intentCall id [] ::
    (childCalls id (Child.owned intent policy owner .workload) (s.stored? .workload id) ++
      childCalls id (Child.owned intent policy owner .endpoint) (s.stored? .endpoint id))

/-- The calls of a pass that goes all the way, as they are recorded. -/
def fullCalls (s : Store) (id : Identity) : List CallRecord :=
  [⟨.get, .intent, id⟩, ⟨.get, .workload, id⟩,
    ⟨Child.callVerb (c := .workload) (s.stored? .workload id), .workload, id⟩,
    ⟨.get, .endpoint, id⟩,
    ⟨Child.callVerb (c := .endpoint) (s.stored? .endpoint id), .endpoint, id⟩]

/-- What a pass over `id` is going to do, by what is stored. -/
inductive Planned (policies : PolicyTable) (id : Identity) (s : Store) : Plan → Prop
  | gone (hintent : s.stored? .intent id = none) :
      Planned policies id s ⟨[intentCall id [.intentGone]], .ok .intentGone⟩
  | unknown {intent : Intent} {r : Report PolicyError}
      (hintent : s.stored? .intent id = some intent)
      (hruntime : policies.resolve intent.spec.runtimeSelector = .error r) :
      Planned policies id s
        ⟨[intentCall id []], .error (r.wrap (.unknownRuntime id intent.spec.runtimeSelector))⟩
  | unowned {intent : Intent} {policy : RuntimePolicy} {r : Report OwnershipError}
      (hintent : s.stored? .intent id = some intent)
      (hruntime : policies.resolve intent.spec.runtimeSelector = .ok policy)
      (howner : intent.reference = .error r) :
      Planned policies id s
        ⟨[intentCall id [], readCall id .workload []],
          .error (r.wrap (.ownerReference .workload id))⟩
  | ready {intent : Intent} {policy : RuntimePolicy} {owner : OwnerReference}
      (hintent : s.stored? .intent id = some intent)
      (hruntime : policies.resolve intent.spec.runtimeSelector = .ok policy)
      (howner : intent.reference = .ok owner) :
      Planned policies id s
        ⟨convergingCalls s id intent policy owner,
          .ok (.converged (Child.action (c := .workload) (s.stored? .workload id))
            (Child.action (c := .endpoint) (s.stored? .endpoint id)))⟩

theorem exists_planned (policies : PolicyTable) (id : Identity) (s : Store) :
    ∃ p, Planned policies id s p := by
  cases hintent : s.stored? .intent id with
  | none => exact ⟨_, .gone hintent⟩
  | some intent =>
    cases hruntime : policies.resolve intent.spec.runtimeSelector with
    | error r => exact ⟨_, .unknown hintent hruntime⟩
    | ok policy =>
      cases howner : intent.reference with
      | error r => exact ⟨_, .unowned hintent hruntime howner⟩
      | ok owner => exact ⟨_, .ready hintent hruntime howner⟩

/-! ## A pass follows its plan -/

section

variable {t : Token} {id : Identity} {n : Nat} {s : Store} {verdict : Verdict}

/-- A request that the store treats like a planned call goes on as the plan
does, if what comes after it does. -/
theorem runFrom_request (call : Call) (answer : call.Answer) (c : PlannedCall)
    {next : call.Answer → Attempt Outcome} {rest : List PlannedCall}
    (hplane : Store.plane call s =
      match s.treatment c.record with
      | .hangs => (.hangs, s.record c.record)
      | .fails e => (.answers (.error (.of e)), s.record c.record)
      | .serves => (.answers (.ok answer), c.after s))
    (hnext : (next answer).runFrom (.alone t) (n + 1) (c.after s) =
      (follow t id verdict rest (n + 1) (c.after s)).noting c.events) :
    (Attempt.request id c.context call next).runFrom (.alone t) n s =
      follow t id verdict (c :: rest) n s := by
  simp only [Attempt.request, Pass.runFrom, follow, Surroundings.alone] at hnext ⊢
  split
  · rfl
  · rw [hplane]
    cases htreat : s.treatment c.record with
    | hangs =>
      simp only
      split <;> rfl
    | fails e => rfl
    | serves => exact hnext

variable {c : Child} {o : c.Object} {next : ChildAction → Attempt Outcome}
  {rest : List PlannedCall}

/-- A write that is served keeps the store good. -/
theorem good_after_write (hs : s.Good) (hi : Kind.identity? o = .ok id)
    (current : Option c.Object) : ((writeCall id o current).after s).Good := by
  have hi : Kind.identity? (Child.written o current) = .ok id :=
    (Child.identity?_written o current).trans hi
  exact (Store.Change.kept id _ hi rfl rfl).good (hs.record _)

/-- A write of a child leaves all objects of other kinds as they are. -/
theorem stored?_after_write {k : Kind} (h : k ≠ c.kind) (i : Identity)
    (current : Option c.Object) : ((writeCall id o current).after s).stored? k i = s.stored? k i :=
  s.stored?_keep_ne _ fun he => h (congrArg Key.kind he)

theorem create_follows (hs : s.Good) (hi : Kind.identity? o = .ok id)
    (hstored : s.stored? c.kind id = none)
    (hnext : (next .created).runFrom (.alone t) (n + 1) ((writeCall id o none).after s) =
      follow t id verdict rest (n + 1) ((writeCall id o none).after s)) :
    (Attempt.request id (.write c.kind .create id) (.create c.kind o) fun _ =>
      .note (.childReconciled c.kind .created) (next .created)).runFrom (.alone t) n s =
        follow t id verdict (writeCall id o none :: rest) n s := by
  refine runFrom_request (.create c.kind o) (Store.withVersion o s.nextVersion)
    (writeCall id o none) ?_ ?_
  · rw [Store.plane_create hs hi, hstored]
    rfl
  · exact congrArg (Run.noting [.childReconciled c.kind .created]) hnext

theorem replace_follows {current : c.Object} (hs : s.Good) (hi : Kind.identity? o = .ok id)
    (hstored : s.stored? c.kind id = some current)
    (hnext : (next .updated).runFrom (.alone t) (n + 1) ((writeCall id o (some current)).after s) =
      follow t id verdict rest (n + 1) ((writeCall id o (some current)).after s)) :
    (Attempt.request id (.write c.kind .replace id) (.replace c.kind (Child.carryOver o current))
      fun _ => .note (.childReconciled c.kind .updated) (next .updated)).runFrom (.alone t) n s =
        follow t id verdict (writeCall id o (some current) :: rest) n s := by
  have hi : Kind.identity? (Child.carryOver o current) = .ok id :=
    (Child.identity?_written o (some current)).trans hi
  refine runFrom_request (.replace c.kind (Child.carryOver o current))
    (Store.withVersion (Child.carryOver o current) s.nextVersion)
    (writeCall id o (some current)) ?_ ?_
  · rw [Store.plane_replace hs hi, hstored]
    simp only [Child.versionOf_carryOver, if_true]
    rfl
  · exact congrArg (Run.noting [.childReconciled c.kind .updated]) hnext

theorem convergeChild_follows {intent : Intent} {desired : c.Object} (verdict : Verdict)
    (next : ChildAction → Attempt Outcome) (rest : List PlannedCall) (hs : s.Good)
    (hown : attachOwner intent desired = .ok o) (hi : Kind.identity? o = .ok id)
    (hnext : ∀ u : Store, u.Good → (∀ k, k ≠ c.kind → u.stored? k id = s.stored? k id) →
      (next (Child.action (s.stored? c.kind id))).runFrom (.alone t) (n + 2) u =
        follow t id verdict rest (n + 2) u) :
    (Pass.convergeChild id intent c desired next).runFrom (.alone t) n s =
      follow t id verdict (childCalls id o (s.stored? c.kind id) ++ rest) n s := by
  refine runFrom_request (.get c.kind id) (s.stored? c.kind id) (readCall id c _)
    (Store.plane_get hs c.kind id) ?_
  have hread : (s.record ⟨.get, c.kind, id⟩).Good := hs.record _
  have hwrite := fun current => hnext _ (good_after_write hread hi current)
    fun k hk => stored?_after_write (s := s.record _) hk id current
  simp only [hown]
  cases hstored : s.stored? c.kind id with
  | none =>
    rw [hstored] at hwrite
    exact congrArg (Run.noting [.childAbsent c.kind])
      (create_follows hread hi hstored (hwrite none))
  | some current =>
    rw [hstored] at hwrite
    exact replace_follows hread hi hstored (hwrite (some current))

end

/-- Alone at a good store, a pass does what its plan says, and notes the
events that the plan says. -/
theorem Planned.run_eq {policies : PolicyTable} {id : Identity} {s : Store} {p : Plan}
    (h : Planned policies id s p) (hs : s.Good) (t : Token) :
    (Pass.reconcile policies id).run (.alone t) s = follow t id p.verdict p.calls 1 s := by
  have hplane := Store.plane_get hs .intent id
  have hread : (s.record ⟨.get, .intent, id⟩).Good := hs.record _
  cases h with
  | gone hintent =>
    rw [hintent] at hplane
    exact runFrom_request (.get .intent id) none (intentCall id [.intentGone]) hplane rfl
  | @unknown intent r hintent hruntime =>
    rw [hintent] at hplane
    apply runFrom_request (.get .intent id) (some intent) (intentCall id []) hplane
    simp only [Pass.converge, Desired.workload, hruntime]
    rfl
  | @unowned intent policy r hintent hruntime howner =>
    rw [hintent] at hplane
    apply runFrom_request (.get .intent id) (some intent) (intentCall id []) hplane
    simp only [Pass.converge, Desired.workload, hruntime, Except.map, Pass.convergeChild,
      attachOwner_eq, howner]
    exact runFrom_request (.get .workload id) (s.stored? .workload id)
      (readCall id .workload []) (Store.plane_get hread .workload id) rfl
  | @ready intent policy owner hintent hruntime howner =>
    rw [hintent] at hplane
    have hid : Kind.identity? (k := .intent) intent = .ok id := (hs.stamped hintent).identity
    apply runFrom_request (.get .intent id) (some intent) (intentCall id []) hplane
    have hown := fun c => attachOwner_eq intent (Child.desired intent policy c)
    simp only [howner, Except.map] at hown
    simp only [Pass.converge, Desired.workload, hruntime, Except.map]
    refine convergeChild_follows (c := .workload) _ _ _ hread (hown .workload)
      (Child.identity?_owned hid policy owner .workload) fun u hu huk => ?_
    have hendpoint := convergeChild_follows (c := .endpoint) (t := t) (n := 4)
      (.ok (.converged (Child.action (s.stored? Child.workload.kind id))
        (Child.action (s.stored? Child.endpoint.kind id))))
      (fun action => Attempt.ok
        (.converged (Child.action (s.stored? Child.workload.kind id)) action))
      [] hu (hown .endpoint) (Child.identity?_owned hid policy owner .endpoint)
      fun _ _ _ => by rw [huk _ (by decide)]; rfl
    rw [huk _ (by decide), List.append_nil] at hendpoint
    exact hendpoint

/-! ## The store after a pass that converges -/

section

variable {s : Store} {id : Identity} {intent : Intent} {policy : RuntimePolicy}
  {owner : OwnerReference}

/-- The store between the two children. -/
def halfway (s : Store) (id : Identity) (intent : Intent) (policy : RuntimePolicy)
    (owner : OwnerReference) : Store :=
  afterAll (intentCall id [] :: childCalls id (Child.owned intent policy owner .workload)
    (s.stored? .workload id)) s

theorem stored?_workload_afterAll :
    (afterAll (convergingCalls s id intent policy owner) s).stored? .workload id =
      some (Store.withVersion
        (Child.written (Child.owned intent policy owner .workload) (s.stored? .workload id))
        (toString (s.counter + 1))) := by
  have hne : (⟨.workload, id⟩ : Key) ≠ ⟨.endpoint, id⟩ := by simp
  have hhalf : (afterAll (convergingCalls s id intent policy owner) s).stored? .workload id =
      (halfway s id intent policy owner).stored? .workload id := Store.stored?_keep_ne _ _ hne
  exact hhalf.trans (Store.stored?_keep_self _ _ _)

theorem stored?_endpoint_afterAll :
    (afterAll (convergingCalls s id intent policy owner) s).stored? .endpoint id =
      some (Store.withVersion
        (Child.written (Child.owned intent policy owner .endpoint) (s.stored? .endpoint id))
        (toString (s.counter + 2))) :=
  Store.stored?_keep_self _ _ _

theorem find?_afterAll {key : Key} (hw : key ≠ ⟨.workload, id⟩) (he : key ≠ ⟨.endpoint, id⟩) :
    (afterAll (convergingCalls s id intent policy owner) s).find? key = s.find? key := by
  calc
    _ = (halfway s id intent policy owner).find? key := Store.find?_keep_ne _ _ he
    _ = s.find? key := Store.find?_keep_ne _ _ hw

end

/-! ## A store at hand -/

/-- Where the intent of `busyStore` is. -/
def llamaId : Identity := ⟨"models", "llama"⟩

/-- An intent with all that a pass needs. -/
def llama : Intent where
  metadata := { name := some "llama", ns := some "models", uid := some "7f3a" }
  spec := { modelName := "meta/llama", runtime := some "gpu" }

/-- An intent beside `llama`. -/
def mistral : Intent where
  metadata := { name := some "mistral", ns := some "models", uid := some "81c0" }
  spec := { modelName := "mistral/small", runtime := some "gpu" }

/-- An endpoint that has addresses, and other things as well. -/
def oldEndpoint : Endpoint where
  metadata := { name := some "llama", ns := some "models", labels := some (.singleton "tier" "web") }
  spec := some
    { type := some "NodePort"
      clusterIP := some "10.0.0.7"
      clusterIPs := some ["10.0.0.7"]
      sessionAffinity := some "ClientIP" }

/-- A store that has an intent and its endpoint, but not its workload. -/
def busyStore : Store :=
  (Store.empty.perform (.insert .intent llama)).perform (.insert .endpoint oldEndpoint)

theorem busyStore_reachable : busyStore.Reachable := .perform _ (.perform _ .refl)

theorem busyStore_intent :
    busyStore.stored? .intent llamaId = some (Store.withVersion (k := .intent) llama "1") :=
  (Store.stored?_keep_ne _ _ (by decide)).trans (Store.stored?_keep_self _ _ _)

theorem busyStore_serves (c : CallRecord) : busyStore.treatment c = .serves := rfl

end ServingOperator
