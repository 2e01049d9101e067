-- The laws of the JSON forms of objects: every object of every kind reads
-- back as it was written, so a store that keeps JSON loses nothing.
import ServingOperator.Kind
import ServingOperator.Proofs.ReadBack

namespace ServingOperator

open ReadsBack

/-! ## Metadata -/

theorem OwnerReference.readsBack : ReadsBack OwnerReference.decode OwnerReference.encode := by
  refine ofFields fun o => ?_
  simp only [List.cons_append, List.nil_append, List.append_assoc]
  rw [takeUp_field _ rfl,
    flag.takeUp_optional (fun o x => { o with blockOwnerDeletion := x }) rfl fun _ => rfl,
    flag.takeUp_optional (fun o x => { o with controller := x }) rfl fun _ => rfl,
    takeUp_field _ rfl, takeUp_field _ rfl, takeUp_field _ rfl]
  rfl

theorem Metadata.readsBack : ReadsBack Metadata.decode Metadata.encode := by
  refine ofFields fun m => ?_
  simp only [List.append_assoc]
  rw [textMap.takeUp_optional (fun m x => { m with annotations := x }) rfl fun _ => rfl,
    text.list.takeUp_optional (fun m x => { m with finalizers := x }) rfl fun _ => rfl,
    text.takeUp_optional (fun m x => { m with generateName := x }) rfl fun _ => rfl,
    int64.takeUp_optional (fun m x => { m with generation := x }) rfl fun _ => rfl,
    textMap.takeUp_optional (fun m x => { m with labels := x }) rfl fun _ => rfl,
    text.takeUp_optional (fun m x => { m with name := x }) rfl fun _ => rfl,
    text.takeUp_optional (fun m x => { m with ns := x }) rfl fun _ => rfl,
    OwnerReference.readsBack.list.takeUp_optional
      (fun m x => { m with ownerReferences := x }) rfl fun _ => rfl,
    text.takeUp_optional (fun m x => { m with resourceVersion := x }) rfl fun _ => rfl,
    text.takeUp_optional_last (fun m x => { m with uid := x }) rfl fun _ => rfl]

/-! ## Workloads -/

theorem Toleration.readsBack : ReadsBack Toleration.decode Toleration.encode := by
  refine ofFields fun t => ?_
  simp only [List.append_assoc]
  rw [text.takeUp_optional (fun t x => { t with effect := x }) rfl fun _ => rfl,
    text.takeUp_optional (fun t x => { t with key := x }) rfl fun _ => rfl,
    text.takeUp_optional (fun t x => { t with operator := x }) rfl fun _ => rfl,
    text.takeUp_optional_last (fun t x => { t with value := x }) rfl fun _ => rfl]

theorem Resources.readsBack : ReadsBack Resources.decode Resources.encode := by
  refine ofFields fun r => ?_
  rw [textMap.takeUp_optional_last (fun r x => { r with limits := x }) rfl fun _ => rfl]

theorem Container.readsBack : ReadsBack Container.decode Container.encode := by
  refine ofFields fun c => ?_
  simp only [List.cons_append, List.nil_append, List.append_assoc]
  rw [text.list.takeUp_optional (fun c x => { c with args := x }) rfl fun _ => rfl,
    text.list.takeUp_optional (fun c x => { c with command := x }) rfl fun _ => rfl,
    text.takeUp_optional (fun c x => { c with image := x }) rfl fun _ => rfl,
    text.takeUp_optional (fun c x => { c with imagePullPolicy := x }) rfl fun _ => rfl,
    takeUp_field _ rfl,
    Resources.readsBack.takeUp_optional_last (fun c x => { c with resources := x }) rfl fun _ => rfl]
  rfl

theorem PodSpec.readsBack : ReadsBack PodSpec.decode PodSpec.encode := by
  refine ofFields fun p => ?_
  simp only [List.cons_append, List.nil_append]
  rw [Container.readsBack.list.takeUp_always (fun p x => { p with containers := x }) fun _ => rfl,
    textMap.takeUp_optional (fun p x => { p with nodeSelector := x }) rfl fun _ => rfl,
    Toleration.readsBack.list.takeUp_optional_last
      (fun p x => { p with tolerations := x }) rfl fun _ => rfl]

theorem PodTemplate.readsBack : ReadsBack PodTemplate.decode PodTemplate.encode := by
  refine ofFields fun t => ?_
  rw [Metadata.readsBack.takeUp_optional (fun t x => { t with metadata := x }) rfl fun _ => rfl,
    PodSpec.readsBack.takeUp_optional_last (fun t x => { t with spec := x }) rfl fun _ => rfl]

theorem LabelSelector.readsBack : ReadsBack LabelSelector.decode LabelSelector.encode := by
  refine ofFields fun s => ?_
  rw [textMap.takeUp_optional_last (fun s x => { s with matchLabels := x }) rfl fun _ => rfl]

theorem WorkloadSpec.readsBack : ReadsBack WorkloadSpec.decode WorkloadSpec.encode := by
  refine ofFields fun s => ?_
  simp only [List.append_assoc]
  rw [int32.takeUp_optional (fun s x => { s with minReadySeconds := x }) rfl fun _ => rfl,
    flag.takeUp_optional (fun s x => { s with paused := x }) rfl fun _ => rfl,
    int32.takeUp_optional (fun s x => { s with replicas := x }) rfl fun _ => rfl,
    LabelSelector.readsBack.takeUp_always (fun s x => { s with selector := x }) fun _ => rfl,
    PodTemplate.readsBack.takeUp_always (fun s x => { s with template := x }) fun _ => rfl]
  rfl

theorem WorkloadStatus.readsBack : ReadsBack WorkloadStatus.decode WorkloadStatus.encode := by
  refine ofFields fun s => ?_
  rw [int32.takeUp_optional (fun s x => { s with readyReplicas := x }) rfl fun _ => rfl,
    int32.takeUp_optional_last (fun s x => { s with replicas := x }) rfl fun _ => rfl]

theorem Workload.readsBack : ReadsBack Workload.decode Workload.encode := by
  refine ofFields fun o => ?_
  simp only [List.cons_append, List.nil_append]
  rw [takeUp_field _ rfl, takeUp_field _ rfl,
    Metadata.readsBack.takeUp_always (fun o x => { o with metadata := x }) fun _ => rfl,
    WorkloadSpec.readsBack.takeUp_optional (fun o x => { o with spec := x }) rfl fun _ => rfl,
    WorkloadStatus.readsBack.takeUp_optional_last
      (fun o x => { o with status := x }) rfl fun _ => rfl]

/-! ## Endpoints -/

theorem TargetPort.readsBack : ReadsBack TargetPort.decode TargetPort.encode := by
  refine ⟨fun p => ?_, fun p => by cases p <;> simp [TargetPort.encode]⟩
  cases p with
  | number n =>
    simp only [TargetPort.encode, TargetPort.decode]
    rw [if_pos ⟨n.minValue_le_toInt, n.toInt_le⟩, Int32.ofInt_toInt]
  | name s => rfl

theorem ServicePort.readsBack : ReadsBack ServicePort.decode ServicePort.encode := by
  refine ofFields fun p => ?_
  simp only [List.cons_append, List.nil_append, List.append_assoc]
  rw [text.takeUp_optional (fun p x => { p with name := x }) rfl fun _ => rfl,
    int32.takeUp_optional (fun p x => { p with nodePort := x }) rfl fun _ => rfl,
    int32.takeUp_always (fun p x => { p with port := x }) fun _ => rfl,
    text.takeUp_optional (fun p x => { p with protocol := x }) rfl fun _ => rfl,
    TargetPort.readsBack.takeUp_optional_last
      (fun p x => { p with targetPort := x }) rfl fun _ => rfl]

theorem EndpointSpec.readsBack : ReadsBack EndpointSpec.decode EndpointSpec.encode := by
  refine ofFields fun s => ?_
  simp only [List.append_assoc]
  rw [text.takeUp_optional (fun s x => { s with clusterIP := x }) rfl fun _ => rfl,
    text.list.takeUp_optional (fun s x => { s with clusterIPs := x }) rfl fun _ => rfl,
    ServicePort.readsBack.list.takeUp_optional (fun s x => { s with ports := x }) rfl fun _ => rfl,
    textMap.takeUp_optional (fun s x => { s with selector := x }) rfl fun _ => rfl,
    text.takeUp_optional (fun s x => { s with sessionAffinity := x }) rfl fun _ => rfl,
    text.takeUp_optional_last (fun s x => { s with type := x }) rfl fun _ => rfl]

theorem LoadBalancer.readsBack : ReadsBack LoadBalancer.decode LoadBalancer.encode :=
  ofFields fun _ => rfl

theorem EndpointStatus.readsBack : ReadsBack EndpointStatus.decode EndpointStatus.encode := by
  refine ofFields fun s => ?_
  rw [LoadBalancer.readsBack.takeUp_optional_last
    (fun s x => { s with loadBalancer := x }) rfl fun _ => rfl]

theorem Endpoint.readsBack : ReadsBack Endpoint.decode Endpoint.encode := by
  refine ofFields fun o => ?_
  simp only [List.cons_append, List.nil_append]
  rw [takeUp_field _ rfl, takeUp_field _ rfl,
    Metadata.readsBack.takeUp_always (fun o x => { o with metadata := x }) fun _ => rfl,
    EndpointSpec.readsBack.takeUp_optional (fun o x => { o with spec := x }) rfl fun _ => rfl,
    EndpointStatus.readsBack.takeUp_optional_last
      (fun o x => { o with status := x }) rfl fun _ => rfl]

/-! ## Intents -/

theorem IntentSpec.keys_sublist (s : IntentSpec) :
    (([("modelName", Json.str s.modelName)] ++
      Encode.optional "replicas" Encode.int32 s.replicas ++
      Encode.optional "maxModelLength" Encode.int32 s.maxModelLength ++
      Encode.optional "runtime" Encode.text s.runtime ++
      Encode.optional "nodeSelectorLabels" Encode.textMap s.nodeSelectorLabels).map
        Prod.fst).Sublist IntentSpec.fieldNames := by
  simp only [List.map_append]
  exact ((((List.Sublist.refl ["modelName"]).append (keys_optional _ _ _)).append
    (keys_optional _ _ _)).append (keys_optional _ _ _)).append (keys_optional _ _ _)

theorem IntentSpec.readsBack : ReadsBack IntentSpec.decode IntentSpec.encode := by
  refine ofStrictFields (fun s => ?_) (fun s => by simp) fun s => ?_
  · have hnames : IntentSpec.fieldNames.Nodup := by decide
    exact hnames.sublist s.keys_sublist
  · simp only [List.cons_append, List.nil_append, List.append_assoc]
    rw [takeUp_field _ rfl,
      int32.takeUp_optional (fun s x => { s with replicas := x }) rfl fun _ => rfl,
      int32.takeUp_optional (fun s x => { s with maxModelLength := x }) rfl fun _ => rfl,
      text.takeUp_optional (fun s x => { s with runtime := x }) rfl fun _ => rfl,
      textMap.takeUp_optional_last (fun s x => { s with nodeSelectorLabels := x }) rfl fun _ => rfl]

theorem Intent.readsBack : ReadsBack Intent.decode Intent.encode := by
  refine ofStrictFields (fun _ => by simp) (fun _ => by simp) fun o => ?_
  have hmetadata : Intent.withField {} "metadata" o.metadata.encode =
      .ok { metadata := o.metadata } := by
    simp only [Intent.withField, Metadata.readsBack.read_write]
    rfl
  have hspec : Intent.withField { metadata := o.metadata } "spec" o.spec.encode = .ok o := by
    simp only [Intent.withField, IntentSpec.readsBack.read_write]
    rfl
  rw [takeUp_field _ rfl, takeUp_field _ rfl, takeUp_field _ hmetadata, takeUp_field _ hspec]
  rfl

/-! ## All kinds -/

theorem Kind.readsBack : (k : Kind) → ReadsBack k.decode (Kind.encode (k := k))
  | .intent => Intent.readsBack
  | .workload => Workload.readsBack
  | .endpoint => Endpoint.readsBack

@[simp] theorem Kind.decode_encode {k : Kind} (o : k.Object) : k.decode (Kind.encode o) = .ok o :=
  k.readsBack.read_write o

end ServingOperator
