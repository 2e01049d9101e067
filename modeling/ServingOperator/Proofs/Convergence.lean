-- The law of a pass that nothing gets in the way of. Whatever was stored
-- before, it leaves the two children that the intent asks for. From the old
-- children only the addresses of the endpoint are kept, and no other object
-- is touched.
import ServingOperator.Proofs.PassPlan

namespace ServingOperator

variable {policies : PolicyTable} {policy : RuntimePolicy} {s : Store} {id : Identity}
  {intent : Intent} {uid : String} {t : Token}

/-! ## What was written -/

/-- A workload keeps nothing of the one it replaces. -/
theorem withVersion_written_workload (w : Workload) (owner : OwnerReference)
    (current : Option Workload) (v : String) :
    Store.withVersion (k := .workload)
        (Child.written (c := .workload) (Kind.ownedBy (k := .workload) w owner) current) v =
      { w with
        metadata := { w.metadata with ownerReferences := some [owner], resourceVersion := some v } } := by
  cases current <;> rfl

/-- An endpoint without addresses keeps those of the one it replaces, if
both have a spec. -/
theorem withVersion_written_endpoint (e : Endpoint) (owner : OwnerReference)
    (current : Option Endpoint) (v : String)
    (he : ∀ d, e.spec = some d → d.clusterIP = none ∧ d.clusterIPs = none) :
    Store.withVersion (k := .endpoint)
        (Child.written (c := .endpoint) (Kind.ownedBy (k := .endpoint) e owner) current) v =
      { e with
        metadata := { e.metadata with ownerReferences := some [owner], resourceVersion := some v }
        spec := e.spec.map fun d =>
          { d with
            clusterIP := (current.bind (·.spec)).bind (·.clusterIP)
            clusterIPs := (current.bind (·.spec)).bind (·.clusterIPs) } } := by
  obtain ⟨metadata, spec, status⟩ := e
  rcases spec with _ | d
  · rcases current with _ | ⟨_, _ | old, _⟩ <;> rfl
  · obtain ⟨hip, hips⟩ := he d rfl
    obtain ⟨_, _, _, _, _, _⟩ := d
    cases hip
    cases hips
    rcases current with _ | ⟨_, _ | old, _⟩ <;> rfl

/-! ## The pass -/

/-- No object in the store has the version. -/
def Store.Unused (s : Store) (v : String) : Prop :=
  ∀ (k : Kind) i (o : k.Object), s.stored? k i = some o → Store.versionOf o ≠ some v

theorem Store.Good.unused (hs : s.Good) {n : Nat} (hn : s.counter < n) : s.Unused (toString n) := by
  intro k i o ho hv
  obtain ⟨m, hm, _, hle⟩ := (hs.stamped ho).version
  rw [hm] at hv
  have hmn : m = n := Store.toString_inj.1 (Option.some.inj hv)
  omega

/-- A run over the intent `id` that was stored in `s` has converged. -/
structure Converged (policies : PolicyTable) (s : Store) (id : Identity) (intent : Intent)
    (uid : String) (r : Run Store Verdict) : Prop where
  /-- It says which children it created, namely those that were not there. -/
  ending : r.ending = some (.ok (.converged
    (if (s.stored? .workload id).isNone then .created else .updated)
    (if (s.stored? .endpoint id).isNone then .created else .updated)))
  /-- The workload is the desired one with its owner and a version. -/
  workload : ∃ w, Desired.workload policies intent = .ok w ∧
    r.state.stored? .workload id = some
      { w with
        metadata := { w.metadata with
          ownerReferences := some [.toIntent id.name uid]
          resourceVersion := some (toString (s.counter + 1)) } }
  /-- The endpoint is the desired one with its owner, a version and the
  addresses in the spec of the endpoint that was there. -/
  endpoint :
    let desired := Desired.endpoint intent
    let old := (s.stored? .endpoint id).bind fun e : Endpoint => e.spec
    r.state.stored? .endpoint id = some
      { desired with
        metadata := { desired.metadata with
          ownerReferences := some [.toIntent id.name uid]
          resourceVersion := some (toString (s.counter + 2)) }
        spec := desired.spec.map fun d =>
          { d with
            clusterIP := old.bind (·.clusterIP)
            clusterIPs := old.bind (·.clusterIPs) } }
  /-- Both versions are new. -/
  fresh : s.Unused (toString (s.counter + 1)) ∧ s.Unused (toString (s.counter + 2))
  /-- Nothing else is changed, the calls apart. -/
  others : ∀ key, key ≠ ⟨.workload, id⟩ → key ≠ ⟨.endpoint, id⟩ →
    r.state.find? key = s.find? key
  counter : r.state.counter = s.counter + 2
  treatment : r.state.failures = s.failures ∧ r.state.hanging = s.hanging
  calls : r.state.calls = s.calls ++ fullCalls s id

/-- A pass over an intent with a uid and a known runtime converges, whatever
is stored and whatever was done before, if its five calls are served before
the token fires. -/
theorem a_served_pass_converges (hs : s.Reachable) (hintent : s.stored? .intent id = some intent)
    (huid : intent.metadata.uid = some uid)
    (hruntime : policies.resolve intent.spec.runtimeSelector = .ok policy)
    (hserved : ∀ c ∈ fullCalls s id, s.treatment c = .serves)
    (ht : ∀ n ≤ 5, t.fired n = false) :
    Converged policies s id intent uid ((Pass.reconcile policies id).run (.alone t) s) := by
  have hid := (hs.good.stamped hintent).identity
  have hplan := Planned.ready hintent hruntime (Intent.reference_eq hid huid)
  have hcalls : ∀ c ∈ convergingCalls s id intent policy (.toIntent id.name uid),
      s.treatment c.record = .serves :=
    fun c hc => hserved c.record (List.mem_map_of_mem hc)
  rw [hplan.run_eq hs.good t]
  rw [follow_served t id _ hcalls fun n hn => ht n (Nat.le_of_lt_succ hn)]
  constructor
  case ending =>
    cases s.stored? .workload id <;> cases s.stored? .endpoint id <;> rfl
  case workload =>
    refine ⟨_, by rw [Desired.workload, hruntime]; rfl, ?_⟩
    rw [stored?_workload_afterAll]
    exact congrArg some (withVersion_written_workload _ _ _ _)
  case endpoint =>
    simp only
    rw [stored?_endpoint_afterAll]
    refine congrArg some (withVersion_written_endpoint (Desired.endpoint intent) _ _ _ ?_)
    intro d hd
    cases hd
    exact ⟨rfl, rfl⟩
  case fresh => exact ⟨hs.good.unused (by omega), hs.good.unused (by omega)⟩
  case others => exact fun key hw he => find?_afterAll hw he
  case counter => rfl
  case treatment => exact ⟨rfl, rfl⟩
  case calls => exact calls_afterAll _ _

/-- Over an endpoint that has addresses, a pass creates the workload and
updates the endpoint. -/
theorem a_pass_converges_in_a_busy_store :
    Converged .standard busyStore llamaId (Store.withVersion (k := .intent) llama "1") "7f3a"
      ((Pass.reconcile .standard llamaId).run (.alone []) busyStore) :=
  a_served_pass_converges busyStore_reachable busyStore_intent
    rfl rfl (fun c _ => busyStore_serves c) fun _ _ => rfl

end ServingOperator
