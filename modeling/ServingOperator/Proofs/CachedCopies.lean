-- The law of the copy that a dispatch is given. A pass reads the intent anew,
-- so the copy says which intent is meant and has no other part in what is
-- done: whatever it says besides, the same calls are made, the same objects
-- are written, and the dispatch ends in the same way. A copy that does not
-- say which intent is meant leads to no call at all.
import ServingOperator.Proofs.Dispatches

namespace ServingOperator

variable {σ α : Type} {policies : PolicyTable} {id : Identity} {intent copy other : Intent}

/-! ## What a pass can call for -/

/-- Whatever a pass hears, all calls that it makes are of this sort. -/
inductive Pass.Calls (P : Call → Prop) : Pass α → Prop
  | done (a : α) : Pass.Calls P (.done a)
  | note (e : Event) {rest : Pass α} (hrest : Pass.Calls P rest) : Pass.Calls P (.note e rest)
  | ask {call : Call} {next : Reply call.Answer → Pass α} (hcall : P call)
      (hnext : ∀ reply, Pass.Calls P (next reply)) : Pass.Calls P (.ask call next)

theorem Pass.Calls.heard {P : Call → Prop} {p : Pass α} (h : p.Calls P) (w : Surroundings σ)
    (n : Nat) (s : σ) : ∀ x ∈ p.heardFrom w n s, P x.1 := by
  induction h generalizing n s with
  | done a => exact List.forall_mem_nil _
  | note e _ ih => exact ih n s
  | @ask call next hcall _ ih =>
    simp only [Pass.heardFrom]
    split
    · exact List.forall_mem_cons.2 ⟨hcall, ih .cancelled n s⟩
    · rcases w.plane call (w.meddle n s) with ⟨_ | result, t⟩
      · simp only
        split
        · exact List.forall_mem_cons.2 ⟨hcall, ih .cancelled (n + 1) t⟩
        · exact List.forall_mem_nil _
      · exact List.forall_mem_cons.2 ⟨hcall, ih (.answered result) (n + 1) t⟩

theorem calls_request {P : Call → Prop} {context : ReconcileError} {call : Call}
    {next : call.Answer → Attempt α} (hcall : P call) (hnext : ∀ a, (next a).Calls P) :
    (Attempt.request id context call next).Calls P := by
  refine .ask hcall fun reply => ?_
  cases reply with
  | cancelled => exact .done _
  | answered result =>
    cases result with
    | error r => exact .done _
    | ok a => exact hnext a

/-! ## What a pass writes -/

/-- The call writes a child as the intent asks for it: under the policy of its
runtime, owned by it, over what was read of the child. -/
inductive BuiltFrom (policies : PolicyTable) (intent : Intent) : Call → Prop
  | write (c : Child) {policy : RuntimePolicy} {owner : OwnerReference}
      (hpolicy : policies.resolve intent.spec.runtimeSelector = .ok policy)
      (howner : intent.reference = .ok owner) (current : Option c.Object) :
      BuiltFrom policies intent (Child.write (c.owned intent policy owner) current)

/-- The call reads, or it writes a child as the intent asks for it. -/
def Warranted (policies : PolicyTable) (intent : Intent) (call : Call) : Prop :=
  call.verb = .get ∨ BuiltFrom policies intent call

theorem calls_convergeChild {c : Child} {policy : RuntimePolicy}
    {next : ChildAction → Attempt Outcome}
    (hpolicy : policies.resolve intent.spec.runtimeSelector = .ok policy)
    (hnext : ∀ action, (next action).Calls (Warranted policies intent)) :
    (Pass.convergeChild id intent c (c.desired intent policy) next).Calls
      (Warranted policies intent) := by
  refine calls_request (.inl rfl) fun current => ?_
  rw [attachOwner_eq]
  cases howner : intent.reference with
  | error r => exact .done _
  | ok owner =>
    have hwrite : ∀ current, Warranted policies intent
        (Child.write (c.owned intent policy owner) current) :=
      fun current => .inr (.write c hpolicy howner current)
    cases current with
    | none => exact .note _ (calls_request (hwrite none) fun _ => .note _ (hnext .created))
    | some old => exact calls_request (hwrite (some old)) fun _ => .note _ (hnext .updated)

/-- Once the intent is read, nothing else has a part in what is written. -/
theorem calls_converge (policies : PolicyTable) (id : Identity) (intent : Intent) :
    (Pass.converge policies id intent).Calls (Warranted policies intent) := by
  simp only [Pass.converge, Desired.workload]
  cases hpolicy : policies.resolve intent.spec.runtimeSelector with
  | error r => exact .done _
  | ok policy =>
    refine calls_convergeChild (c := .workload) hpolicy fun first => ?_
    exact calls_convergeChild (c := .endpoint) hpolicy fun second => .done _

/-- All that a pass writes is built from the intent that its first call has
brought. -/
theorem builtFrom_first (policies : PolicyTable) (id : Identity) (w : Surroundings σ) (s : σ) :
    ∀ x ∈ (Pass.reconcile policies id).heardFrom w 1 s, x.1.verb ≠ .get →
      ∃ intent : Intent, ((Pass.reconcile policies id).heardFrom w 1 s).head? =
        some ⟨.get .intent id, .answered (.ok (some intent))⟩ ∧ BuiltFrom policies intent x.1 := by
  have hread : ∀ reply : Reply (Option Intent), ∀ x ∈
      [(⟨.get .intent id, reply⟩ : Σ call : Call, Reply call.Answer)], x.1.verb = .get := by
    simp [Call.verb]
  simp only [Pass.reconcile, Attempt.request, Pass.heardFrom]
  intro x hx hverb
  -- unless the first call brings an intent, it is the only one
  split at hx
  · exact absurd (hread _ x hx) hverb
  · rename_i hfired
    rw [if_neg hfired]
    rcases hplane : w.plane (.get .intent id) (w.meddle 1 s) with ⟨_ | ⟨r | _ | intent⟩, t⟩
    · rw [hplane] at hx
      simp only at hx
      split at hx
      · exact absurd (hread _ x hx) hverb
      · cases hx
    · rw [hplane] at hx
      exact absurd (hread _ x hx) hverb
    · rw [hplane] at hx
      exact absurd (hread _ x hx) hverb
    · rw [hplane] at hx
      rcases List.mem_cons.1 hx with rfl | hx
      · exact absurd rfl hverb
      · have hwarranted := (calls_converge policies id intent).heard w 2 t x hx
        exact ⟨intent, rfl, hwarranted.resolve_left hverb⟩

/-! ## Copies that do not say which intent is meant -/

/-- The report of a dispatch whose copy lacks a name or a namespace. -/
def incompleteReport (copy : Intent) : Report ReconcileError :=
  ⟨.intentLookup ⟨copy.metadata.ns.getD "", copy.metadata.anyName⟩,
    [.plane (.incompleteObject "ModelDeployment" (Kind.missingField (k := .intent) copy))]⟩

theorem dispatch_incomplete (policies : PolicyTable)
    (h : copy.metadata.name = none ∨ copy.metadata.ns = none) :
    Pass.dispatch policies copy = Attempt.fail (incompleteReport copy) := by
  have hidentity := (Kind.identity?_eq_error (k := .intent)).2 ⟨h, rfl⟩
  simp only [Pass.dispatch, hidentity]
  rfl

/-! ## Copies that are named alike -/

section

variable (hname : other.metadata.name = copy.metadata.name)
  (hns : other.metadata.ns = copy.metadata.ns)
include hname hns

theorem identity?_alike :
    Kind.identity? (k := .intent) other = Kind.identity? (k := .intent) copy := by
  simp only [Kind.identity?, Kind.metadata, hname, hns]

theorem dispatch_alike (policies : PolicyTable)
    (hany : other.metadata.anyName = copy.metadata.anyName) :
    Pass.dispatch policies other = Pass.dispatch policies copy := by
  simp only [Pass.dispatch, identity?_alike hname hns, hns, hany]

theorem handle_alike (policies : PolicyTable) (delays : RequeueDelays)
    (hany : other.metadata.anyName = copy.metadata.anyName) :
    Pass.handle policies delays other = Pass.handle policies delays copy := by
  have hevent : failureEvent other = failureEvent copy := by
    funext r
    simp only [failureEvent, hns, hany]
  simp only [Pass.handle, dispatch_alike hname hns policies hany, hevent]

end

/-- A name that is there counts, and what it might have been generated from
does not. -/
theorem anyName_alike (hname : other.metadata.name = copy.metadata.name)
    (hgenerate : copy.metadata.name = none →
      other.metadata.generateName.getD "" = copy.metadata.generateName.getD "") :
    other.metadata.anyName = copy.metadata.anyName := by
  unfold Metadata.anyName
  rw [hname]
  cases h : copy.metadata.name with
  | none => exact hgenerate h
  | some name => rfl

/-! ## The law -/

/-- What becomes of the dispatch of a copy. -/
structure NamesOnly (policies : PolicyTable) (delays : RequeueDelays) (w : Surroundings σ) (s : σ)
    (copy : Intent) : Prop where
  /-- Another copy of the same name and namespace makes the same calls, hears
  the same and leaves the same state. -/
  same_effect : ∀ other : Intent, other.metadata.name = copy.metadata.name →
    other.metadata.ns = copy.metadata.ns →
      ((Pass.dispatch policies other).run w s).state =
          ((Pass.dispatch policies copy).run w s).state ∧
        (Pass.dispatch policies other).heardFrom w 1 s =
          (Pass.dispatch policies copy).heardFrom w 1 s
  /-- It ends in the same way and notes the same, and the same is done about
  it. Without a name the one that it is to be generated from has to be the
  same. -/
  same_result : ∀ other : Intent, other.metadata.name = copy.metadata.name →
    other.metadata.ns = copy.metadata.ns →
    (copy.metadata.name = none →
      other.metadata.generateName.getD "" = copy.metadata.generateName.getD "") →
      (Pass.dispatch policies other).run w s = (Pass.dispatch policies copy).run w s ∧
        (Pass.handle policies delays other).run w s = (Pass.handle policies delays copy).run w s
  /-- What is written is built from the intent that the first call has brought. -/
  fetched : ∀ x ∈ (Pass.dispatch policies copy).heardFrom w 1 s, x.1.verb ≠ .get →
    ∃ (id : Identity) (intent : Intent), Kind.identity? (k := .intent) copy = .ok id ∧
      ((Pass.dispatch policies copy).heardFrom w 1 s).head? =
        some ⟨.get .intent id, .answered (.ok (some intent))⟩ ∧ BuiltFrom policies intent x.1
  /-- A copy that lacks a name or a namespace makes no call. It fails, and is
  tried again after the delay for errors. -/
  incomplete : copy.metadata.name = none ∨ copy.metadata.ns = none →
    (Pass.dispatch policies copy).run w s = ⟨some (.error (incompleteReport copy)), s, []⟩ ∧
      (Pass.dispatch policies copy).heardFrom w 1 s = [] ∧
      delays.afterFailure (incompleteReport copy) = .requeue delays.error
  /-- A dispatch that does not fail waits for a change. -/
  awaits : ∀ action, ((Pass.dispatch policies copy).run w s).ending = some (.ok action) →
    action = .awaitChange

/-- Whatever answers the calls, whatever others do between them and whenever
the token fires, of the copy that is dispatched only its name and its
namespace count. -/
theorem a_copy_only_names_the_intent (policies : PolicyTable) (delays : RequeueDelays)
    (w : Surroundings σ) (s : σ) (copy : Intent) : NamesOnly policies delays w s copy := by
  have hincomplete : copy.metadata.name = none ∨ copy.metadata.ns = none →
      (Pass.dispatch policies copy).run w s = ⟨some (.error (incompleteReport copy)), s, []⟩ ∧
        (Pass.dispatch policies copy).heardFrom w 1 s = [] := by
    intro h
    rw [dispatch_incomplete policies h]
    exact ⟨rfl, rfl⟩
  have hcomplete : ¬ (copy.metadata.name = none ∨ copy.metadata.ns = none) →
      ∃ id, Kind.identity? (k := .intent) copy = .ok id := by
    intro h
    rw [not_or] at h
    obtain ⟨name, hname⟩ := Option.ne_none_iff_exists'.1 h.1
    obtain ⟨ns, hns⟩ := Option.ne_none_iff_exists'.1 h.2
    exact ⟨⟨ns, name⟩, Kind.identity?_eq_ok.2 ⟨hname, hns⟩⟩
  constructor
  case same_effect =>
    intro other hname hns
    by_cases h : copy.metadata.name = none ∨ copy.metadata.ns = none
    · rw [dispatch_incomplete policies h, dispatch_incomplete policies (by rwa [hname, hns])]
      exact ⟨rfl, rfl⟩
    · obtain ⟨id, hid⟩ := hcomplete h
      rw [dispatch_of_identity policies hid,
        dispatch_of_identity policies ((identity?_alike hname hns).trans hid)]
      exact ⟨rfl, rfl⟩
  case same_result =>
    intro other hname hns hgenerate
    have hany := anyName_alike hname hgenerate
    rw [dispatch_alike hname hns policies hany, handle_alike hname hns policies delays hany]
    exact ⟨rfl, rfl⟩
  case fetched =>
    intro x hx hverb
    by_cases h : copy.metadata.name = none ∨ copy.metadata.ns = none
    · rw [(hincomplete h).2] at hx
      cases hx
    · obtain ⟨id, hid⟩ := hcomplete h
      rw [dispatch_of_identity policies hid, heardFrom_bind (unnoted_afterPass id)] at hx ⊢
      obtain ⟨intent, hfirst, hbuilt⟩ := builtFrom_first policies id w s x hx hverb
      exact ⟨id, intent, hid, hfirst, hbuilt⟩
  case incomplete =>
    intro h
    exact ⟨(hincomplete h).1, (hincomplete h).2, rfl⟩
  case awaits =>
    intro action haction
    by_cases h : copy.metadata.name = none ∨ copy.metadata.ns = none
    · rw [(hincomplete h).1] at haction
      cases haction
    · obtain ⟨id, hid⟩ := hcomplete h
      have hending := congrArg Prod.fst
        (outcome_bind (unnoted_afterPass id) w (Pass.reconcile policies id) 1 s)
      rw [Pass.run, dispatch_of_identity policies hid] at haction
      simp only [Pass.outcome, haction] at hending
      obtain ⟨v, _, hv⟩ := Option.map_eq_some_iff.1 hending.symm
      cases v with
      | error r => cases hv
      | ok o => exact (Except.ok.inj hv).symm

/-- A copy of `llama` that asks for another model and an unknown runtime. -/
def outdatedLlama : Intent :=
  { llama with spec := { modelName := "meta/old", runtime := some "tpu" } }

theorem an_outdated_copy_names_the_same_intent :
    (Pass.dispatch .standard outdatedLlama).run (.alone [.before 4]) busyStore =
      (Pass.dispatch .standard llama).run (.alone [.before 4]) busyStore :=
  ((a_copy_only_names_the_intent .standard {} (.alone [.before 4]) busyStore llama).same_result
    outdatedLlama rfl rfl nofun).1

/-- Two copies without a name, which say what it is to be generated from. -/
def namelessCopy (generateName : String) : Intent :=
  { metadata := { generateName := some generateName, ns := some "models" } }

/-- Two copies that both lack a name fail in different ways. -/
theorem nameless_copies_are_told_apart :
    (namelessCopy "mistral-").metadata.name = (namelessCopy "llama-").metadata.name ∧
      (namelessCopy "mistral-").metadata.ns = (namelessCopy "llama-").metadata.ns ∧
      ((Pass.dispatch .standard (namelessCopy "mistral-")).run (.alone []) .empty).ending ≠
        ((Pass.dispatch .standard (namelessCopy "llama-")).run (.alone []) .empty).ending := by
  refine ⟨rfl, rfl, ?_⟩
  intro h
  have hreports : incompleteReport (namelessCopy "mistral-") =
      incompleteReport (namelessCopy "llama-") := Except.error.inj (Option.some.inj h)
  exact absurd hreports (by decide)

end ServingOperator
