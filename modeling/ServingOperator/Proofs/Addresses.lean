-- The law of addresses: no pass changes the addresses of an endpoint. A pass
-- copies them from what it has read, not from what it overwrites. As the
-- write goes through only if the two are the same, whatever the others do in
-- between, the addresses are those that were there.
import ServingOperator.Proofs.Convergence
import ServingOperator.Proofs.Provenance

namespace ServingOperator

variable {ι : Type}

/-- The addresses that an endpoint has been given. -/
def Endpoint.addresses (e : Endpoint) : Option String × Option (List String) :=
  (e.spec.bind (·.clusterIP), e.spec.bind (·.clusterIPs))

/-- The endpoint that an intent asks for, with the addresses of an old one. -/
structure Endpoint.Readdressed (intent : Intent) (old new : Endpoint) : Prop where
  spec : new.spec = (Desired.endpoint intent).spec.map fun built =>
    { built with clusterIP := old.addresses.1, clusterIPs := old.addresses.2 }
  addresses : new.addresses = old.addresses

/-! ## One write -/

/-- An endpoint that is written over another one keeps its addresses. -/
theorem readdressed_written (intent : Intent) (policy : RuntimePolicy) (owner : OwnerReference)
    (old : Endpoint) (v : String) :
    Endpoint.Readdressed intent old (Store.withVersion (k := .endpoint)
      (Child.written (Child.owned intent policy owner .endpoint) (some old)) v) := by
  have hbuilt : ∀ built, (Desired.endpoint intent).spec = some built →
      built.clusterIP = none ∧ built.clusterIPs = none := by
    intro built h
    cases h
    exact ⟨rfl, rfl⟩
  have hwritten := withVersion_written_endpoint (Desired.endpoint intent) owner (some old) v hbuilt
  have hspec := congrArg Endpoint.spec hwritten
  refine ⟨hspec, ?_⟩
  rw [Endpoint.addresses, Child.owned, Child.desired, hspec]
  rfl

section

variable {policies : PolicyTable} {i : ι} {id : Identity} {earlier : List (Deed ι)} {d : Deed ι}
  {intent : Intent} {policy : RuntimePolicy} {owner : OwnerReference}
  {current : Option Endpoint} {s : Store} {old : Endpoint}

/-- A pass that writes an endpoint where there is one has read that one. -/
theorem BuiltWrite.current_eq
    (h : BuiltWrite policies i id earlier d .endpoint intent policy owner current)
    (hs : s.Good) (hleads : Crowd.Leads s earlier d.before)
    (hold : d.before.stored? .endpoint id = some old) : current = some old := by
  cases current with
  | none =>
    obtain ⟨a, _, ha⟩ := h.answered
    have howned := Child.identity?_owned h.basis.identity policy owner .endpoint
    have hfree := ((hleads.later.good hs).created howned ha).1
    rw [hold] at hfree
    cases hfree
  | some read => exact (h.overwrites hs hleads).symm.trans hold

theorem BuiltWrite.readdressed
    (h : BuiltWrite policies i id earlier d .endpoint intent policy owner current)
    (hs : s.Good) (hleads : Crowd.Leads s earlier d.before)
    (hold : d.before.stored? .endpoint id = some old) :
    ∃ new, (d.before.perform d.op).stored? .endpoint id = some new ∧
      Endpoint.Readdressed intent old new := by
  cases h.current_eq hs hleads hold
  exact ⟨_, h.stored? (hleads.later.good hs), readdressed_written intent policy owner old _⟩

end

/-! ## Any number of writes -/

variable {policies : ι → PolicyTable} {id : ι → Identity} {s : Store} {crowd : Crowd ι Verdict}

/-- As long as the others leave an endpoint alone, it stays there, with its
addresses. -/
theorem addresses_kept (hs : s.Good) (hcrowd : Crowd.Grounded policies id s crowd)
    {later earlier : List (Deed ι)} (hcut : crowd.history = later ++ earlier) {mid : Store}
    (hlater : Crowd.Leads mid later crowd.store) {i : Identity} {old : Endpoint}
    (hold : mid.stored? .endpoint i = some old)
    (hothers : ∀ d ∈ later, d.who = none →
      (d.before.perform d.op).stored? .endpoint i = d.before.stored? .endpoint i) :
    ∃ now : Endpoint, crowd.store.stored? .endpoint i = some now ∧
      now.addresses = old.addresses := by
  refine hlater.induction (P := fun _ t => ∃ now : Endpoint, t.stored? .endpoint i = some now ∧
    now.addresses = old.addresses) ⟨old, hold, rfl⟩ ?_
  rintro after d before rfl ⟨now, hnow, haddresses⟩
  rw [List.append_assoc, List.cons_append] at hcut
  have hleads := hcrowd.leads_before hcut
  have hgood : d.before.Good := hleads.later.good hs
  cases hwho : d.who with
  | none =>
    rw [hothers d (List.mem_append_right after (.head _)) hwho]
    exact ⟨now, hnow, haddresses⟩
  | some j =>
    rcases hcrowd.stored?_of_pass hgood hcut hwho .endpoint i with
      hsame | ⟨rfl, intent, policy, owner, current, hwrite⟩
    · exact ⟨now, hsame.trans hnow, haddresses⟩
    · obtain ⟨new, hnew, hreaddressed⟩ := hwrite.readdressed hs hleads hnow
      exact ⟨new, hnew, hreaddressed.addresses.trans haddresses⟩

/-- However passes and other clients take turns, from any state on: an answered
write of a pass where there is an endpoint leaves the endpoint that an intent
asks for, which the pass has read, with the addresses that were there just
before. So the addresses stay, from any moment on, as long as the others leave
the endpoint alone. -/
theorem no_pass_changes_the_addresses_of_an_endpoint [DecidableEq ι] {s : Store}
    (hs : s.Reachable) (policies : ι → PolicyTable) (id : ι → Identity)
    (moves : List (Move ι)) :
    let crowd := (Crowd.start s fun i => Pass.reconcile (policies i) (id i)).run moves
    (∀ later d earlier i (call : Call) (a : call.Answer) (old : Endpoint),
      crowd.history = later ++ d :: earlier → d.who = some i → d.answers call a →
        call.verb ≠ .get → call.kind = .endpoint →
        d.before.stored? .endpoint (id i) = some old →
          ∃ intent new, HasRead i (id i) intent earlier ∧
            (d.before.perform d.op).stored? .endpoint (id i) = some new ∧
            Endpoint.Readdressed intent old new) ∧
    ∀ later earlier mid i (old : Endpoint),
      crowd.history = later ++ earlier → Crowd.Leads mid later crowd.store →
        mid.stored? .endpoint i = some old →
        (∀ d ∈ later, d.who = none →
          (d.before.perform d.op).stored? .endpoint i = d.before.stored? .endpoint i) →
          ∃ now : Endpoint, crowd.store.stored? .endpoint i = some now ∧
            now.addresses = old.addresses := by
  intro crowd
  have hcrowd := Crowd.grounded_run hs.good policies id moves
  constructor
  · intro later d earlier i call a old hcut hwho hd hverb hkind hold
    obtain ⟨c, intent, policy, owner, current, hc, _, hwrite⟩ :=
      hcrowd.builtWrite hcut hwho hd hverb
    cases c with
    | workload => cases hc.symm.trans hkind
    | endpoint =>
      obtain ⟨new, hnew, hreaddressed⟩ :=
        hwrite.readdressed hs.good (hcrowd.leads_before hcut) hold
      exact ⟨intent, new, hwrite.basis.hasRead, hnew, hreaddressed⟩
  · intro later earlier mid i old hcut hlater hold hothers
    exact addresses_kept hs.good hcrowd hcut hlater hold hothers

/-- A pass that makes all of its calls in a busy store. -/
def busyPass : Crowd Unit Verdict :=
  (Crowd.start busyStore fun _ => Pass.reconcile .standard llamaId).run
    (List.replicate 5 (.go ()))

/-- It writes over an endpoint that has addresses, and they stay. -/
theorem a_pass_leaves_the_addresses_in_a_busy_store :
    (∃ d earlier, busyPass.history = d :: earlier ∧
      ∃ old : Endpoint, d.before.stored? .endpoint llamaId = some old ∧
      ∃ intent new, HasRead () llamaId intent earlier ∧
        (d.before.perform d.op).stored? .endpoint llamaId = some new ∧
        Endpoint.Readdressed intent old new) ∧
    ∃ now : Endpoint, busyPass.store.stored? .endpoint llamaId = some now ∧
      now.addresses = (some "10.0.0.7", some ["10.0.0.7"]) := by
  obtain ⟨hwrite, hrun⟩ := no_pass_changes_the_addresses_of_an_endpoint busyStore_reachable
    (fun _ : Unit => .standard) (fun _ => llamaId) (List.replicate 5 (.go ()))
  constructor
  · refine ⟨_, _, rfl, _, rfl, ?_⟩
    exact hwrite [] _ _ () _ _ _ rfl rfl ⟨rfl, rfl⟩ (by decide) rfl rfl
  · refine hrun _ [] busyStore llamaId (Store.withVersion (k := .endpoint) oldEndpoint "2")
      (List.append_nil _).symm (Crowd.leads_run _ _ _) (Store.stored?_keep_self _ _ _) ?_
    intro d hd hwho
    rcases Crowd.mem_history_run hd hwho with hstart | hmove
    · cases hstart
    · simp at hmove

end ServingOperator
