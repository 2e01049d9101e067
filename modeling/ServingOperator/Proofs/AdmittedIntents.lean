-- The laws of intents that an API server lets in. The definition that it is given
-- says what a spec may be, the reader says what a spec is, and the policy table
-- says what can be served. For the spec of an intent the three say the same, but
-- for counts below zero, which only the definition forbids.
import ServingOperator.CustomResource.Definition
import ServingOperator.Desired
import ServingOperator.Proofs.SchemaDocuments

namespace ServingOperator

open Json (LetsIn)
open ReadsBack (countP_le_one strictRecord_eq_ok)

/-! ## Maps of texts -/

namespace Decode

/-- A text is put into a map of texts. -/
def putText (m : TextMap) (key : String) (v : Json) : Decoded TextMap :=
  (text v).map (m.insert key)

/-- A map of texts reads if each of its values is a text. -/
theorem exists_textMap_iff (fields : List (String × Json)) :
    (∃ m, textMap (.obj fields) = .ok m) ↔ ∀ f ∈ fields, ∃ s, text f.2 = .ok s := by
  have hread : textMap (.obj fields) = ReadsBack.takeUp putText .empty fields := rfl
  rw [hread]
  constructor
  · rintro ⟨m, hm⟩ f hf
    obtain ⟨before, after, htext⟩ := exists_field_of_takeUp hm hf
    rw [putText] at htext
    cases hs : text f.2 with
    | error e =>
      rw [hs] at htext
      cases htext
    | ok s => exact ⟨s, rfl⟩
  · intro h
    refine exists_takeUp (fun f hf m => ?_) TextMap.empty
    obtain ⟨s, hs⟩ := h f hf
    exact ⟨m.insert f.1 s, by rw [putText, hs]; rfl⟩

end Decode

/-! ## Runtimes -/

/-- The selectors that every table has a policy for. -/
theorem PolicyTable.exists_resolve_iff (policies : PolicyTable) (selector : String) :
    (∃ p, policies.resolve selector = .ok p) ↔ selector ∈ ["", "cpu", "gpu"] := by
  unfold resolve Flavor.ofSelector?
  by_cases hcpu : selector = "" ∨ selector = "cpu"
  · rw [if_pos hcpu]
    rcases hcpu with rfl | rfl <;> simp
  · by_cases hgpu : selector = "gpu"
    · simp [hgpu]
    · obtain ⟨hempty, hcpu⟩ := not_or.1 hcpu
      simp [hempty, hcpu, hgpu]

/-! ## Schemas and readers -/

namespace Schema

variable {β : Type} {s : Schema} {read : Json → Decoded β} {good : β → Prop}

/-- The schema admits a value just if it reads as a good one. -/
def AdmitsJust (s : Schema) (read : Json → Decoded β) (good : β → Prop) : Prop :=
  ∀ v, s.admits v = true ↔ ∃ b, read v = .ok b ∧ good b

/-- A schema that null meets, and a reader that takes it for unset. -/
theorem admitsJust_optional {good : Option β → Prop} (hnull : s.admits .null = true)
    (hunset : good none)
    (h : ∀ v, v ≠ .null → (s.admits v = true ↔ ∃ b, read v = .ok b ∧ good (some b))) :
    s.AdmitsJust (Decode.optional read) good := by
  intro v
  by_cases hv : v = .null
  · rw [hv, hnull]
    exact iff_of_true rfl ⟨none, rfl, hunset⟩
  rw [h v hv]
  have hread : Decode.optional read v = (read v).map some := by
    cases v with
    | null => exact absurd rfl hv
    | _ => rfl
  rw [hread]
  cases read v <;> simp [Except.map]

/-- A property may be left out if the value that stands for it then is good. -/
theorem AdmitsJust.property (h : s.AdmitsJust read good) (missing : β) (hmissing : good missing)
    (fields : List (String × Json)) (key : String) :
    (∀ v, fields.lookup key = some v → s.admits v = true) ↔
      ∃ b, ReadFrom fields key read missing b ∧ good b := by
  unfold ReadFrom
  cases fields.lookup key with
  | none => simp [hmissing]
  | some v => simp [h v]

/-! ## The schemas of the fields of a spec -/

theorem admitsJust_text (n : SchemaNotes) (hn : n.nullable = false) :
    (text n none).AdmitsJust Decode.text fun _ => True := by
  intro v
  cases v <;> simp [admits, Decode.text, hn]

theorem admitsJust_count (n : SchemaNotes) (hn : n.nullable = true) :
    (int32 n (some 0)).AdmitsJust (Decode.optional Decode.int32) fun o => ∀ k ∈ o, 0 ≤ k := by
  refine admitsJust_optional hn nofun fun v hv => ?_
  cases v with
  | null => exact absurd rfl hv
  | int i =>
    simp only [admits, Decode.int32, Bool.and_eq_true, decide_eq_true_eq]
    by_cases hrange : Int32.minValue.toInt ≤ i ∧ i ≤ Int32.maxValue.toInt
    · have hlow : Int32.minValue.toInt = -2 ^ 31 := by decide
      have hhigh : Int32.maxValue.toInt = 2 ^ 31 - 1 := by decide
      have hvalue : (Int32.ofInt i).toInt = i :=
        Int32.toInt_ofInt_of_le (by omega) (by omega)
      rw [if_pos hrange]
      simp only [hrange, and_self, true_and, Except.ok.injEq, exists_eq_left']
      simp [Int32.le_iff_toInt_le, hvalue]
    · rw [if_neg hrange]
      simp only [hrange, false_and, reduceCtorEq, exists_false]
  | _ => simp [admits, Decode.int32]

theorem admitsJust_labels (n : SchemaNotes) (hn : n.nullable = true) :
    (map n (text {} none)).AdmitsJust (Decode.optional Decode.textMap) fun _ => True := by
  refine admitsJust_optional hn trivial fun v hv => ?_
  cases v with
  | null => exact absurd rfl hv
  | obj fields =>
    simp only [and_true, Decode.exists_textMap_iff, admits, List.all_eq_true]
    exact forall₂_congr fun f _ => (admitsJust_text {} rfl f.2).trans (by simp)
  | _ => simp [admits, Decode.textMap]

/-- The runtimes that the schema lists are those that there is a policy for. -/
theorem admitsJust_runtime (policies : PolicyTable) (n : SchemaNotes) (hn : n.nullable = true) :
    (text n (some ["", "cpu", "gpu"])).AdmitsJust (Decode.optional Decode.text) fun o =>
      ∃ p, policies.resolve (o.getD "") = .ok p := by
  refine admitsJust_optional hn ⟨policies.cpu, rfl⟩ fun v hv => ?_
  cases v with
  | null => exact absurd rfl hv
  | str s => simp [admits, Decode.text, policies.exists_resolve_iff]
  | _ => simp [admits, Decode.text]

end Schema

/-! ## Fields of a spec -/

namespace IntentSpec

open Decode

/-- The parts of a spec are read from the fields of an object. -/
structure ReadFrom (fields : List (String × Json)) (s : IntentSpec) : Prop where
  modelName_there : ∃ f ∈ fields, f.1 = "modelName"
  modelName : ServingOperator.ReadFrom fields "modelName" text "" s.modelName
  replicas : ServingOperator.ReadFrom fields "replicas" (optional int32) none s.replicas
  maxModelLength :
    ServingOperator.ReadFrom fields "maxModelLength" (optional int32) none s.maxModelLength
  runtime : ServingOperator.ReadFrom fields "runtime" (optional text) none s.runtime
  nodeSelectorLabels :
    ServingOperator.ReadFrom fields "nodeSelectorLabels" (optional textMap) none
      s.nodeSelectorLabels

/-- A field sets the part of its key, and no other part. -/
theorem withField_eq_ok {s t : IntentSpec} {k : String} {v : Json} (h : s.withField k v = .ok t) :
    (if k = "modelName" then text v = .ok t.modelName else t.modelName = s.modelName) ∧
    (if k = "replicas" then optional int32 v = .ok t.replicas else t.replicas = s.replicas) ∧
    (if k = "maxModelLength" then optional int32 v = .ok t.maxModelLength
      else t.maxModelLength = s.maxModelLength) ∧
    (if k = "runtime" then optional text v = .ok t.runtime else t.runtime = s.runtime) ∧
    (if k = "nodeSelectorLabels" then optional textMap v = .ok t.nodeSelectorLabels
      else t.nodeSelectorLabels = s.nodeSelectorLabels) := by
  unfold withField at h
  split at h
  case h_6 =>
    cases h
    simp_all
  all_goals
    obtain ⟨x, hx, rfl⟩ := set_eq_ok.1 h
    simp [hx]

theorem readFrom_of_decode {fields : List (String × Json)} {s : IntentSpec}
    (h : decode (.obj fields) = .ok s) : ReadFrom fields s := by
  obtain ⟨hone, hthere, hfields⟩ := strictRecord_eq_ok.1 h
  refine ⟨hthere _ List.mem_cons_self, ?_, ?_, ?_, ?_, ?_⟩
  · exact readFrom_of_takeUp hfields (hone _ (by decide)) fun h => (withField_eq_ok h).1
  · exact readFrom_of_takeUp hfields (hone _ (by decide)) fun h => (withField_eq_ok h).2.1
  · exact readFrom_of_takeUp hfields (hone _ (by decide)) fun h => (withField_eq_ok h).2.2.1
  · exact readFrom_of_takeUp hfields (hone _ (by decide)) fun h => (withField_eq_ok h).2.2.2.1
  · exact readFrom_of_takeUp hfields (hone _ (by decide)) fun h => (withField_eq_ok h).2.2.2.2

/-- A field can be taken up if its value reads as the part of its key. -/
theorem exists_withField (s : IntentSpec) {k : String} {v : Json}
    (hname : k = "modelName" → ∃ x, text v = .ok x)
    (hreplicas : k = "replicas" → ∃ x, optional int32 v = .ok x)
    (hlength : k = "maxModelLength" → ∃ x, optional int32 v = .ok x)
    (hruntime : k = "runtime" → ∃ x, optional text v = .ok x)
    (hlabels : k = "nodeSelectorLabels" → ∃ x, optional textMap v = .ok x) :
    ∃ t, s.withField k v = .ok t := by
  unfold withField
  split
  · obtain ⟨x, hx⟩ := hname rfl
    exact ⟨_, set_eq_ok.2 ⟨x, hx, rfl⟩⟩
  · obtain ⟨x, hx⟩ := hreplicas rfl
    exact ⟨_, set_eq_ok.2 ⟨x, hx, rfl⟩⟩
  · obtain ⟨x, hx⟩ := hlength rfl
    exact ⟨_, set_eq_ok.2 ⟨x, hx, rfl⟩⟩
  · obtain ⟨x, hx⟩ := hruntime rfl
    exact ⟨_, set_eq_ok.2 ⟨x, hx, rfl⟩⟩
  · obtain ⟨x, hx⟩ := hlabels rfl
    exact ⟨_, set_eq_ok.2 ⟨x, hx, rfl⟩⟩
  · exact ⟨s, rfl⟩

theorem ReadFrom.unique {fields : List (String × Json)} {s t : IntentSpec}
    (hs : ReadFrom fields s) (ht : ReadFrom fields t) : s = t := by
  have hname := hs.modelName.unique ht.modelName
  have hreplicas := hs.replicas.unique ht.replicas
  have hlength := hs.maxModelLength.unique ht.maxModelLength
  have hruntime := hs.runtime.unique ht.runtime
  have hlabels := hs.nodeSelectorLabels.unique ht.nodeSelectorLabels
  cases s
  cases t
  simp only at hname hreplicas hlength hruntime hlabels
  subst hname hreplicas hlength hruntime hlabels
  rfl

/-- An object without double keys reads as a spec if the parts of the spec read from
its fields. -/
theorem decode_eq_ok_iff {fields : List (String × Json)} (hkeys : (fields.map Prod.fst).Nodup)
    {s : IntentSpec} : decode (.obj fields) = .ok s ↔ ReadFrom fields s := by
  constructor
  · exact readFrom_of_decode
  · intro h
    have hvalue : ∀ f ∈ fields, ∀ k, f.1 = k → fields.lookup k = some f.2 := by
      rintro f hf k rfl
      exact (lookup_eq_some_iff_mem hkeys).2 hf
    have hfield : ∀ f ∈ fields, ∀ t : IntentSpec, ∃ u, t.withField f.1 f.2 = .ok u := by
      intro f hf t
      exact t.exists_withField
        (fun hk => ⟨_, (readFrom_iff.1 h.modelName).2 _ (hvalue f hf _ hk)⟩)
        (fun hk => ⟨_, (readFrom_iff.1 h.replicas).2 _ (hvalue f hf _ hk)⟩)
        (fun hk => ⟨_, (readFrom_iff.1 h.maxModelLength).2 _ (hvalue f hf _ hk)⟩)
        (fun hk => ⟨_, (readFrom_iff.1 h.runtime).2 _ (hvalue f hf _ hk)⟩)
        (fun hk => ⟨_, (readFrom_iff.1 h.nodeSelectorLabels).2 _ (hvalue f hf _ hk)⟩)
    obtain ⟨t, ht⟩ := exists_takeUp hfield {}
    have hthere : ∀ k ∈ ["modelName"], ∃ f ∈ fields, f.1 = k := by
      simpa using h.modelName_there
    have hread : decode (.obj fields) = .ok t :=
      strictRecord_eq_ok.2 ⟨fun k _ => countP_le_one hkeys k, hthere, ht⟩
    rw [hread, (readFrom_of_decode hread).unique h]

/-! ## The schema of a spec -/

/-- The spec can be served: no count is below zero, and there is a policy for the
runtime. -/
structure Servable (policies : PolicyTable) (s : IntentSpec) : Prop where
  replicas : ∀ n ∈ s.replicas, 0 ≤ n
  maxModelLength : ∀ n ∈ s.maxModelLength, 0 ≤ n
  runtime : ∃ p, policies.resolve s.runtimeSelector = .ok p

theorem schema_admits_iff (policies : PolicyTable) (fields : List (String × Json)) :
    schema.admits (.obj fields) = true ↔ ∃ s, ReadFrom fields s ∧ s.Servable policies := by
  rw [schema, Schema.admits_record]
  simp only [List.forall_mem_cons, List.not_mem_nil, false_implies, implies_true, and_true]
  rw [(Schema.admitsJust_count _ (by rfl)).property none (by simp) fields "maxModelLength",
    (Schema.admitsJust_text _ (by rfl)).property "" trivial fields "modelName",
    (Schema.admitsJust_labels _ (by rfl)).property none trivial fields "nodeSelectorLabels",
    (Schema.admitsJust_count _ (by rfl)).property none (by simp) fields "replicas",
    (Schema.admitsJust_runtime policies _ (by rfl)).property none ⟨policies.cpu, rfl⟩ fields
      "runtime"]
  constructor
  · rintro ⟨hthere, ⟨length, hlength, hleast⟩, ⟨name, hname, -⟩, ⟨labels, hlabels, -⟩,
      ⟨replicas, hreplicas, hleast'⟩, ⟨runtime, hruntime, hresolves⟩⟩
    exact ⟨⟨name, replicas, length, runtime, labels⟩,
      ⟨hthere, hname, hreplicas, hlength, hruntime, hlabels⟩, ⟨hleast', hleast, hresolves⟩⟩
  · rintro ⟨s, hread, hservable⟩
    exact ⟨hread.modelName_there, ⟨_, hread.maxModelLength, hservable.maxModelLength⟩,
      ⟨_, hread.modelName, trivial⟩, ⟨_, hread.nodeSelectorLabels, trivial⟩,
      ⟨_, hread.replicas, hservable.replicas⟩, ⟨_, hread.runtime, hservable.runtime⟩⟩

/-- A spec that was read and that the schema admits can be served. -/
theorem servable_of_admits (policies : PolicyTable) {v : Json} {s : IntentSpec}
    (h : decode v = .ok s) (hadmits : schema.admits v = true) : s.Servable policies := by
  cases v with
  | obj fields =>
    obtain ⟨t, hread, hservable⟩ := (schema_admits_iff policies fields).1 hadmits
    rwa [(readFrom_of_decode h).unique hread]
  | null | arr _ => cases hadmits
  | _ => cases h

theorem schema_exact : schema.Exact := by
  have hzero : ∀ m ∈ some 0, (Schema.pointNumber m).number? = some (m : ℚ) := by
    intro m hm
    cases hm
    have hwritten : Schema.pointNumber 0 = .float (.zero false) := rfl
    simp [hwritten, Json.number?, Binary64.value, Binary64.zero]
  refine .record _ _ (by decide) ?_
  simp only [List.forall_mem_cons, List.not_mem_nil, false_implies, implies_true, and_true]
  exact ⟨.int32 _ hzero, .text _ _, .map _ (.text _ _), .int32 _ hzero, .text _ _⟩

end IntentSpec

/-! ## Whole intents -/

namespace Intent

theorem schema_exact : schema.Exact := by
  refine .record _ _ (by decide) ?_
  simp only [List.forall_mem_cons, List.not_mem_nil, false_implies, implies_true, and_true]
  exact IntentSpec.schema_exact

theorem at?_specSchema :
    schema.encode.at? ["properties", "spec"] = some IntentSpec.schema.encode := by
  rw [Schema.at?_properties]
  rfl

theorem withField_spec {o o' : Intent} {k : String} {v : Json} (h : o.withField k v = .ok o') :
    if k = "spec" then IntentSpec.decode v = .ok o'.spec else o'.spec = o.spec := by
  unfold withField at h
  split at h
  · obtain ⟨x, hx, rfl⟩ := set_eq_ok.1 h
    simp
  · obtain ⟨x, hx, rfl⟩ := set_eq_ok.1 h
    simpa using hx
  · next hmetadata hspec =>
    cases h
    rw [if_neg hspec]

/-- The spec of an intent that is written as an object is read from the field of
that name. -/
theorem decode_spec {fields : List (String × Json)} {x : Intent}
    (h : decode (.obj fields) = .ok x) :
    ∃ v, fields.lookup "spec" = some v ∧ IntentSpec.decode v = .ok x.spec := by
  obtain ⟨hone, hthere, hfields⟩ := strictRecord_eq_ok.1 h
  obtain ⟨f, hf, hkey⟩ := hthere "spec" (by decide)
  have hread := readFrom_of_takeUp hfields (hone "spec" (by decide)) withField_spec
  cases hv : fields.lookup "spec" with
  | none =>
    have hmissing := List.lookup_eq_none_iff.1 hv f hf
    simp [hkey] at hmissing
  | some v => exact ⟨v, rfl, (readFrom_iff.1 hread).2 v hv⟩

/-- An intent that its schema admits can be served. -/
theorem servable_of_admits (policies : PolicyTable) {v : Json} {x : Intent}
    (h : decode v = .ok x) (hadmits : schema.admits v = true) : x.spec.Servable policies := by
  cases v with
  | obj fields =>
    obtain ⟨v, hv, hspec⟩ := decode_spec h
    have hpart := ((Schema.admits_record _ _ _ fields).1 hadmits).2 _ List.mem_cons_self v hv
    exact IntentSpec.servable_of_admits policies hspec hpart
  | null | arr _ => cases hadmits
  | _ => cases h

end Intent

/-- There is a workload for an intent just if there is a policy for its runtime. -/
theorem Desired.exists_workload_iff (policies : PolicyTable) (x : Intent) :
    (∃ w, workload policies x = .ok w) ↔ ∃ p, policies.resolve x.spec.runtimeSelector = .ok p := by
  unfold workload
  cases policies.resolve x.spec.runtimeSelector <;> simp [Except.map]

theorem Desired.workload_eq_error {policies : PolicyTable} {x : Intent} {r : Report PolicyError}
    (h : workload policies x = .error r) : r = .of (.unknownRuntime x.spec.runtimeSelector) := by
  unfold workload at h
  cases hp : policies.resolve x.spec.runtimeSelector with
  | error e =>
    rw [hp] at h
    cases h
    exact (PolicyTable.resolve_eq_error hp).2
  | ok p =>
    rw [hp] at h
    cases h

/-! ## The definition that an API server is given -/

namespace CustomResource

/-- The document of the schema that a definition gives for its only version. -/
def schemaDocument? (definition : Json) : Option Json := do
  let versions ← (← definition.at? ["spec", "versions"]).items?
  (← versions.head?).at? ["schema", "openAPIV3Schema"]

theorem schemaDocument?_encode (r : CustomResource) :
    schemaDocument? r.encode = some r.schema.encode := rfl

/-- The definition of the intents has a document for a whole intent, and in it one
for its spec. That one lets in an object just if it reads as a spec that can be
served. So there always is a workload for an intent that is let in, and one for
which there is none, as its runtime is unknown, is not let in. -/
theorem the_definition_lets_in_what_can_be_served (policies : PolicyTable) :
    ∃ whole part : Json, schemaDocument? intents.encode = some whole ∧
      whole.at? ["properties", "spec"] = some part ∧
      (∀ fields : List (String × Json), (fields.map Prod.fst).Nodup →
        (part.LetsIn (.obj fields) ↔
          ∃ s, IntentSpec.decode (.obj fields) = .ok s ∧ s.Servable policies)) ∧
      (∀ v s m, IntentSpec.decode v = .ok s → part.LetsIn v →
        ∃ w, Desired.workload policies { metadata := m, spec := s } = .ok w) ∧
      ∀ v x, Intent.decode v = .ok x →
        (whole.LetsIn v → ∃ w, Desired.workload policies x = .ok w) ∧
          ∀ r, Desired.workload policies x = .error r →
            r = .of (.unknownRuntime x.spec.runtimeSelector) ∧ ¬ whole.LetsIn v := by
  refine ⟨Intent.schema.encode, IntentSpec.schema.encode, schemaDocument?_encode intents,
    Intent.at?_specSchema, ?_, ?_, ?_⟩
  · intro fields hkeys
    rw [Schema.letsIn_encode IntentSpec.schema_exact, IntentSpec.schema_admits_iff policies]
    simp only [IntentSpec.decode_eq_ok_iff hkeys]
  · intro v s m hread hlets
    have hadmits := (Schema.letsIn_encode IntentSpec.schema_exact v).1 hlets
    exact (Desired.exists_workload_iff policies _).2
      (IntentSpec.servable_of_admits policies hread hadmits).runtime
  · intro v x hread
    have hworkload : Intent.schema.encode.LetsIn v → ∃ w, Desired.workload policies x = .ok w := by
      intro hlets
      have hadmits := (Schema.letsIn_encode Intent.schema_exact v).1 hlets
      exact (Desired.exists_workload_iff policies x).2
        (Intent.servable_of_admits policies hread hadmits).runtime
    refine ⟨hworkload, fun r hr => ⟨Desired.workload_eq_error hr, fun hlets => ?_⟩⟩
    obtain ⟨w, hw⟩ := hworkload hlets
    rw [hw] at hr
    cases hr

/-- An intent that asks for a runtime that nobody knows. -/
def unknownRuntime : Intent :=
  { metadata := { name := some "llama" }, spec := { modelName := "llama", runtime := some "tpu" } }

theorem an_unset_runtime_is_let_in_and_an_unknown_one_is_not :
    ∃ whole part : Json, schemaDocument? intents.encode = some whole ∧
      whole.at? ["properties", "spec"] = some part ∧
      part.LetsIn (.obj [("modelName", .str "llama"), ("replicas", .int 0), ("runtime", .null),
        ("note", .arr [])]) ∧
      ¬ part.LetsIn (.obj [("modelName", .str "llama"), ("replicas", .int (-1))]) ∧
      ¬ whole.LetsIn unknownRuntime.encode := by
  obtain ⟨whole, part, hwhole, hpart, hspec, -, hintent⟩ :=
    the_definition_lets_in_what_can_be_served .standard
  refine ⟨whole, part, hwhole, hpart, ?_, ?_, ?_⟩
  · refine (hspec _ (by decide)).2 ⟨{ modelName := "llama", replicas := some 0 }, rfl, ?_⟩
    exact ⟨by simp, nofun, ⟨PolicyTable.standard.cpu, rfl⟩⟩
  · intro hlets
    obtain ⟨s, hread, hservable⟩ := (hspec _ (by decide)).1 hlets
    have hs : s = { modelName := "llama", replicas := some (-1) } := (Except.ok.inj hread).symm
    have hnegative := hservable.replicas (-1) (by rw [hs]; rfl)
    exact absurd hnegative (by decide)
  · exact ((hintent _ unknownRuntime rfl).2 _ rfl).2

end CustomResource

end ServingOperator
