-- The law of what a workload carries. An intent says more than it asks for: it has
-- parts that have nothing to do with serving, and numbers that stand for defaults.
-- A workload carries what the intent asks for, all of it, and nothing else.
import ServingOperator.Proofs.AdmittedIntents
import ServingOperator.Proofs.StoredObjects

namespace ServingOperator

/-! ## What an intent asks for -/

/-- What is to be served, where, and in which way, with the defaults put in. -/
structure EffectiveIntent where
  name : String
  ns : Option String
  modelName : String
  replicas : Int
  contextLength : Int
  nodeLabels : Option TextMap
  flavor : Flavor
  deriving DecidableEq, Repr

namespace IntentSpec

/-- At least one replica. An unset count is 0. -/
def wantedReplicas (s : IntentSpec) : Int := max 1 (s.replicas.elim 0 Int32.toInt)

/-- The length that is given if it is above 0, or 512. -/
def wantedLength (s : IntentSpec) : Int :=
  let given := s.maxModelLength.elim 0 Int32.toInt
  if 0 < given then given else 512

/-- All but those that ask for an accelerator ask for none. -/
def wantedFlavor (s : IntentSpec) : Flavor := if s.runtime = some "gpu" then .gpu else .cpu

/-- The bytes of the runtime that is asked for are those of one that there is. -/
def KnownRuntime (s : IntentSpec) : Prop :=
  (s.runtime.getD "").toUTF8 ∈ ["", "cpu", "gpu"].map String.toUTF8

/-- The spec with each default put in. A runtime that there is goes by its name. -/
def settled (s : IntentSpec) : IntentSpec :=
  { s with
    replicas := some s.effectiveReplicas
    maxModelLength := some s.effectiveMaxModelLength
    runtime := (Flavor.ofSelector? s.runtimeSelector).elim s.runtime (some ·.name) }

theorem toInt_effectiveReplicas (s : IntentSpec) :
    s.effectiveReplicas.toInt = s.wantedReplicas := by
  have hmax : ∀ n : Int32, (max n minReplicas).toInt = max 1 n.toInt := by
    intro n
    change (if n ≤ minReplicas then minReplicas else n).toInt = _
    have hone : minReplicas.toInt = 1 := by decide
    rw [apply_ite Int32.toInt, hone]
    simp only [Int32.le_iff_toInt_le, hone]
    omega
  unfold effectiveReplicas wantedReplicas
  rw [hmax]
  cases s.replicas <;> rfl

theorem toInt_effectiveMaxModelLength (s : IntentSpec) :
    s.effectiveMaxModelLength.toInt = s.wantedLength := by
  unfold effectiveMaxModelLength wantedLength
  cases s.maxModelLength with
  | none => rfl
  | some n =>
    dsimp only [Option.elim]
    rw [apply_ite Int32.toInt]
    simp only [Int32.lt_iff_toInt_lt, Int32.toInt_zero]
    rfl

theorem wantedLength_pos (s : IntentSpec) : 0 < s.wantedLength := by
  unfold wantedLength
  dsimp only
  split
  · assumption
  · decide

theorem knownRuntime_iff {s : IntentSpec} :
    s.KnownRuntime ↔ s.runtimeSelector ∈ ["", "cpu", "gpu"] := by
  simp only [KnownRuntime, runtimeSelector, List.mem_map, String.toUTF8_eq_toByteArray,
    String.toByteArray_inj, exists_eq_right]

/-- A runtime that is known asks for a flavor, by its name or by none. -/
theorem ofSelector?_of_known {s : IntentSpec} (h : s.KnownRuntime) :
    Flavor.ofSelector? s.runtimeSelector = some s.wantedFlavor := by
  have hselector := knownRuntime_iff.1 h
  unfold runtimeSelector at hselector ⊢
  unfold wantedFlavor
  cases hruntime : s.runtime with
  | none => rfl
  | some runtime =>
    rw [hruntime] at hselector
    simp only [Option.getD_some, List.mem_cons, List.not_mem_nil, or_false] at hselector ⊢
    rcases hselector with rfl | rfl | rfl <;> simp [Flavor.ofSelector?]

theorem resolve_of_known (t : PolicyTable) {s : IntentSpec} (h : s.KnownRuntime) :
    t.resolve s.runtimeSelector = .ok (t.entry s.wantedFlavor) := by
  rw [PolicyTable.resolve, ofSelector?_of_known h]

/-! ## Defaults that are put in -/

theorem effectiveReplicas_settled (s : IntentSpec) :
    s.settled.effectiveReplicas = s.effectiveReplicas := by
  apply Int32.toInt_inj.1
  have hsettled : s.settled.wantedReplicas = max 1 s.effectiveReplicas.toInt := rfl
  rw [toInt_effectiveReplicas, hsettled, toInt_effectiveReplicas, wantedReplicas]
  omega

theorem effectiveMaxModelLength_settled (s : IntentSpec) :
    s.settled.effectiveMaxModelLength = s.effectiveMaxModelLength := by
  have hpos : 0 < s.effectiveMaxModelLength := by
    rw [Int32.lt_iff_toInt_lt, toInt_effectiveMaxModelLength]
    exact s.wantedLength_pos
  exact if_pos hpos

theorem ofSelector?_settled (s : IntentSpec) :
    Flavor.ofSelector? s.settled.runtimeSelector = Flavor.ofSelector? s.runtimeSelector := by
  have hsettled : s.settled.runtime =
    (Flavor.ofSelector? s.runtimeSelector).elim s.runtime (some ·.name) := rfl
  rw [runtimeSelector, hsettled]
  rcases hflavor : Flavor.ofSelector? s.runtimeSelector with _ | flavor
  · exact hflavor
  · cases flavor <;> simp [Flavor.name, Flavor.ofSelector?]

end IntentSpec

/-- What an intent asks for. -/
def Intent.effective (x : Intent) : EffectiveIntent where
  name := x.metadata.name.getD (x.metadata.generateName.getD "")
  ns := x.metadata.ns
  modelName := x.spec.modelName
  replicas := x.spec.wantedReplicas
  contextLength := x.spec.wantedLength
  nodeLabels := x.spec.nodeSelectorLabels
  flavor := x.spec.wantedFlavor

theorem Metadata.anyName_eq (m : Metadata) : m.anyName = m.name.getD (m.generateName.getD "") := by
  unfold anyName
  cases m.name <;> rfl

/-! ## What a workload carries -/

namespace Desired

/-- Two numbers above 0 with the same digits are the same. -/
theorem toString_inj_of_pos {m n : Int} (hm : 0 < m) (hn : 0 < n) :
    toString m = toString n ↔ m = n := by
  obtain ⟨m, rfl⟩ := Int.eq_ofNat_of_zero_le hm.le
  obtain ⟨n, rfl⟩ := Int.eq_ofNat_of_zero_le hn.le
  exact Store.toString_inj.trans Int.natCast_inj.symm

theorem serveCommand_inj {s t : IntentSpec} :
    serveCommand s = serveCommand t ↔
      s.wantedLength = t.wantedLength ∧ s.modelName = t.modelName := by
  simp only [serveCommand, List.cons.injEq, true_and, and_true,
    IntentSpec.toInt_effectiveMaxModelLength,
    toString_inj_of_pos s.wantedLength_pos t.wantedLength_pos]

/-- Workloads are the same just if they agree in what they take from the intent and in the
flavor, which the tolerations tell even where the images are the same. -/
theorem workloadUnder_inj {cpuImage gpuImage : String} {a b : Intent} {f g : Flavor} :
    workloadUnder a ((PolicyTable.withImages cpuImage gpuImage).entry f) =
        workloadUnder b ((PolicyTable.withImages cpuImage gpuImage).entry g) ↔
      a.metadata.anyName = b.metadata.anyName ∧ a.metadata.ns = b.metadata.ns ∧
        a.spec.effectiveReplicas = b.spec.effectiveReplicas ∧
        serveCommand a.spec = serveCommand b.spec ∧
        a.spec.nodeSelectorLabels = b.spec.nodeSelectorLabels ∧ f = g := by
  constructor
  · intro h
    have hns : a.metadata.ns = b.metadata.ns := congrArg (fun w => w.metadata.ns) h
    have hspec := Option.some.inj (congrArg Workload.spec h)
    have hpods := Option.some.inj (congrArg (fun s => s.template.spec) hspec)
    have hcontainer := (List.cons.inj (congrArg PodSpec.containers hpods)).1
    -- the images may be the same, but only one flavor puts up with a taint
    have hflavor : f = g := by
      have htolerations := congrArg PodSpec.tolerations hpods
      cases f <;> cases g
      · rfl
      · cases htolerations
      · cases htolerations
      · rfl
    exact ⟨Option.some.inj (congrArg (fun w => w.metadata.name) h), hns,
      Option.some.inj (congrArg WorkloadSpec.replicas hspec),
      Option.some.inj (congrArg Container.command hcontainer),
      congrArg PodSpec.nodeSelector hpods, hflavor⟩
  · rintro ⟨hname, hns, hreplicas, hcommand, hlabels, rfl⟩
    simp only [workloadUnder, childMetadata, podTemplate, container, selectorLabels, hname, hns,
      hreplicas, hcommand, hlabels]

/-- Of two intents with known runtimes, what they ask for is the same just if their
workloads are. -/
theorem workloadUnder_eq_iff {cpuImage gpuImage : String} {a b : Intent} :
    workloadUnder a ((PolicyTable.withImages cpuImage gpuImage).entry a.spec.wantedFlavor) =
        workloadUnder b ((PolicyTable.withImages cpuImage gpuImage).entry b.spec.wantedFlavor) ↔
      a.effective = b.effective := by
  rw [workloadUnder_inj, serveCommand_inj, Metadata.anyName_eq, Metadata.anyName_eq,
    ← Int32.toInt_inj, IntentSpec.toInt_effectiveReplicas, IntentSpec.toInt_effectiveReplicas]
  simp only [Intent.effective, EffectiveIntent.mk.injEq]
  tauto

theorem workload_of_known (t : PolicyTable) {x : Intent} (h : x.spec.KnownRuntime) :
    workload t x = .ok (workloadUnder x (t.entry x.spec.wantedFlavor)) := by
  rw [workload, IntentSpec.resolve_of_known t h]
  rfl

theorem resolve_settled (t : PolicyTable) (s : IntentSpec) :
    t.resolve s.settled.runtimeSelector = t.resolve s.runtimeSelector := by
  rw [PolicyTable.resolve, PolicyTable.resolve, IntentSpec.ofSelector?_settled]
  cases hflavor : Flavor.ofSelector? s.runtimeSelector with
  | some flavor => rfl
  | none =>
    have hruntime : s.settled.runtime = s.runtime := by
      rw [IntentSpec.settled, hflavor]
      rfl
    rw [IntentSpec.runtimeSelector, hruntime, IntentSpec.runtimeSelector]

theorem workload_settled (t : PolicyTable) (x : Intent) :
    workload t { x with spec := x.spec.settled } = workload t x := by
  have hcommand : serveCommand x.spec.settled = serveCommand x.spec := by
    rw [serveCommand, IntentSpec.effectiveMaxModelLength_settled]
    rfl
  have hunder : workloadUnder { x with spec := x.spec.settled } = workloadUnder x := by
    funext policy
    simp only [workloadUnder, podTemplate, container, IntentSpec.effectiveReplicas_settled,
      hcommand]
    rfl
  rw [workload, workload, resolve_settled, hunder]

/-- A workload carries what its intent asks for, all of it and nothing else, whatever images
serve the flavors. So it makes no difference to put in the defaults. There is a workload
unless the runtime is unknown. -/
theorem a_workload_carries_what_its_intent_asks_for (cpuImage gpuImage : String) :
    (∀ a b : Intent, a.spec.KnownRuntime → b.spec.KnownRuntime →
      ∃ wa wb : Workload, workload (.withImages cpuImage gpuImage) a = .ok wa ∧
        workload (.withImages cpuImage gpuImage) b = .ok wb ∧
        (wa = wb ↔ a.effective = b.effective)) ∧
    ∀ table : PolicyTable,
      (∀ x : Intent, workload table { x with spec := x.spec.settled } = workload table x) ∧
      ∀ (x : Intent) (r : Report PolicyError), workload table x = .error r ↔
        ¬ x.spec.KnownRuntime ∧ r = .of (.unknownRuntime (x.spec.runtime.getD "")) := by
  refine ⟨?_, fun table => ⟨workload_settled table, ?_⟩⟩
  · intro a b ha hb
    exact ⟨_, _, workload_of_known _ ha, workload_of_known _ hb, workloadUnder_eq_iff⟩
  · intro x r
    constructor
    · intro h
      refine ⟨fun hknown => ?_, workload_eq_error h⟩
      rw [workload_of_known table hknown] at h
      cases h
    · rintro ⟨hunknown, rfl⟩
      cases h : workload table x with
      | error r => exact congrArg _ (workload_eq_error h)
      | ok w =>
        have hresolves := (exists_workload_iff table x).1 ⟨w, h⟩
        rw [PolicyTable.exists_resolve_iff] at hresolves
        exact absurd (IntentSpec.knownRuntime_iff.2 hresolves) hunknown

/-- An intent that leaves out all that it may leave out. -/
def terse : Intent :=
  { metadata := { generateName := some "llama-", ns := some "models" }
    spec := { modelName := "meta/llama" } }

/-- An intent with the same name, the least count of replicas and the same length. -/
def verbose (runtime : String) : Intent :=
  { metadata := { name := some "llama-", ns := some "models", uid := some "uid-1" }
    spec :=
      { modelName := "meta/llama", replicas := some (-2147483648), maxModelLength := some 512,
        runtime := some runtime } }

/-- With one image for both flavors, a runtime that is spelled out makes no difference, but
another flavor does. -/
theorem a_default_that_is_spelled_out_makes_no_difference :
    workload (.withImages "vllm" "vllm") terse =
        workload (.withImages "vllm" "vllm") (verbose "cpu") ∧
      workload (.withImages "vllm" "vllm") terse ≠
        workload (.withImages "vllm" "vllm") (verbose "gpu") := by
  obtain ⟨hsame, -⟩ := a_workload_carries_what_its_intent_asks_for "vllm" "vllm"
  have hknown : ∀ {s : IntentSpec}, s.runtimeSelector ∈ ["", "cpu", "gpu"] → s.KnownRuntime :=
    IntentSpec.knownRuntime_iff.2
  constructor
  · obtain ⟨wa, wb, ha, hb, h⟩ := hsame terse (verbose "cpu") (hknown (by decide))
      (hknown (by decide))
    rw [ha, hb, h.2 (by decide)]
  · obtain ⟨wa, wb, ha, hb, h⟩ := hsame terse (verbose "gpu") (hknown (by decide))
      (hknown (by decide))
    rw [ha, hb]
    exact fun heq => absurd (h.1 (Except.ok.inj heq)) (by decide)

end Desired

end ServingOperator
