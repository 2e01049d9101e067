-- The laws of versions in JSON forms. The form of an object names its
-- version in its metadata, or names none. A server that puts another version
-- into the form has the object with that version.
import ServingOperator.Cluster.Server
import ServingOperator.Proofs.PlainForms
import ServingOperator.Proofs.RecordFields
import ServingOperator.Proofs.StoredObjects

namespace ServingOperator

open ReadsBack

/-! ## Fields -/

theorem filter_optional {α : Type} (key key' : String) (write : α → Json) (o : Option α) :
    (Encode.optional key write o).filter (·.1 ≠ key') =
      if key = key' then [] else Encode.optional key write o := by
  cases o with
  | none => simp [Encode.optional]
  | some a => by_cases h : key = key' <;> simp [Encode.optional, h]

theorem optional_of_ne_null {α : Type} {read : Json → Decoded α} {v : Json} {a : α}
    (hnull : v ≠ .null) (h : read v = .ok a) : Decode.optional read v = .ok (some a) := by
  cases v with
  | null => exact absurd rfl hnull
  | _ => simp only [Decode.optional, h]; rfl

theorem Json.field?_withField (fields : List (String × Json)) (key : String) (v : Json) :
    ((Json.obj fields).withField key v).field? key = some v := by
  rw [Json.withField, Json.field?, List.lookup_append, Store.lookup_filter_self]
  simp

/-- A field that is set leaves the others as they are. -/
theorem Json.field?_withField_ne (v : Json) {key key' : String} (value : Json)
    (h : key' ≠ key) : (v.withField key value).field? key' = v.field? key' := by
  cases v with
  | obj fields =>
    rw [Json.withField, Json.field?, List.lookup_append, Store.lookup_filter_ne fields h]
    simp [Json.field?, List.lookup_cons, beq_false_of_ne h]
  | _ => rfl

theorem Json.Solid.withField {fields : List (String × Json)} (h : SolidFields fields) (key : String)
    {v : Json} (hv : Solid v) : Solid ((Json.obj fields).withField key v) := by
  refine solid_of_fields (solidFields_append.2 ⟨fun f hf => ?_, ?_⟩)
  · exact h f (List.mem_filter.1 hf).1
  · exact solidFields_cons.2 ⟨hv, solidFields_nil⟩

/-! ## Metadata -/

theorem Metadata.field?_version (m : Metadata) :
    m.encode.field? "resourceVersion" = m.resourceVersion.map Json.str := by
  simp [Metadata.encode, Json.field?, List.lookup_append, lookup_optional]
  rfl

theorem Metadata.field?_name (m : Metadata) : m.encode.field? "name" = m.name.map Json.str := by
  simp [Metadata.encode, Json.field?, List.lookup_append, lookup_optional]
  rfl

theorem Metadata.field?_namespace (m : Metadata) :
    m.encode.field? "namespace" = m.ns.map Json.str := by
  simp [Metadata.encode, Json.field?, List.lookup_append, lookup_optional]
  rfl

/-- Metadata that are given another version in their form are read with it. -/
theorem Metadata.decode_withVersion (m : Metadata) (version : String) :
    Metadata.decode (m.encode.withField "resourceVersion" (.str version)) =
      .ok { m with resourceVersion := some version } := by
  simp only [Metadata.encode, Json.withField, List.filter_append, filter_optional, String.reduceEq,
    if_false, if_true, List.append_assoc, List.nil_append, Metadata.decode, Decode.record]
  change takeUp Metadata.withField {} _ = _
  rw [textMap.takeUp_optional (fun m x => { m with annotations := x }) rfl fun _ => rfl,
    text.list.takeUp_optional (fun m x => { m with finalizers := x }) rfl fun _ => rfl,
    text.takeUp_optional (fun m x => { m with generateName := x }) rfl fun _ => rfl,
    int64.takeUp_optional (fun m x => { m with generation := x }) rfl fun _ => rfl,
    textMap.takeUp_optional (fun m x => { m with labels := x }) rfl fun _ => rfl,
    text.takeUp_optional (fun m x => { m with name := x }) rfl fun _ => rfl,
    text.takeUp_optional (fun m x => { m with ns := x }) rfl fun _ => rfl,
    OwnerReference.readsBack.list.takeUp_optional
      (fun m x => { m with ownerReferences := x }) rfl fun _ => rfl,
    text.takeUp_optional (fun m x => { m with uid := x }) rfl fun _ => rfl]
  rfl

/-! ## Objects -/

section

variable {v : Json} {m : Metadata} (hm : Metadata.decode v = .ok m)
include hm

theorem Intent.decode_withMetadata (o : Intent) :
    Intent.decode (o.encode.withField "metadata" v) = .ok { o with metadata := m } := by
  have hspec : Intent.withField {} "spec" o.spec.encode = .ok { spec := o.spec } := by
    simp only [Intent.withField, IntentSpec.readsBack.read_write]
    rfl
  have hlast : Intent.withField { spec := o.spec } "metadata" v =
      .ok { o with metadata := m } := by
    simp only [Intent.withField, hm]
    rfl
  have hfields : takeUp Intent.withField {} [("apiVersion", .str Intent.apiVersion),
      ("kind", .str Intent.kind), ("spec", o.spec.encode), ("metadata", v)] =
      .ok { o with metadata := m } := by
    rw [takeUp_field _ rfl, takeUp_field _ rfl, takeUp_field _ hspec, takeUp_field _ hlast]
    rfl
  rw [takeUp] at hfields
  simp only [Intent.encode, Json.withField, Intent.decode, List.filter_cons, List.filter_nil,
    ne_eq, String.reduceEq, not_false_eq_true, not_true_eq_false, decide_true, decide_false,
    if_true, if_false, Bool.false_eq_true, List.cons_append, List.nil_append,
    Decode.strictRecord, hfields]
  rfl

variable (hnull : v ≠ .null)
include hnull

theorem Workload.decode_withMetadata (o : Workload) :
    Workload.decode (o.encode.withField "metadata" v) = .ok { o with metadata := m } := by
  have hlast : ∀ w, Workload.withField w "metadata" v = .ok { w with metadata := m } := by
    intro w
    simp only [Workload.withField, optional_of_ne_null hnull hm]
    rfl
  simp only [Workload.encode, Json.withField, List.filter_append, filter_optional,
    String.reduceEq, if_false, Workload.decode, Decode.record, List.filter_cons, ne_eq,
    not_false_eq_true, not_true_eq_false, decide_true, decide_false, if_true,
    Bool.false_eq_true, List.cons_append, List.nil_append, List.append_assoc]
  change takeUp Workload.withField {} _ = _
  rw [takeUp_field _ rfl, takeUp_field _ rfl,
    WorkloadSpec.readsBack.takeUp_optional (fun o x => { o with spec := x }) rfl fun _ => rfl,
    WorkloadStatus.readsBack.takeUp_optional (fun o x => { o with status := x }) rfl fun _ => rfl,
    takeUp_field _ (hlast _)]
  rfl

theorem Endpoint.decode_withMetadata (o : Endpoint) :
    Endpoint.decode (o.encode.withField "metadata" v) = .ok { o with metadata := m } := by
  have hlast : ∀ e, Endpoint.withField e "metadata" v = .ok { e with metadata := m } := by
    intro e
    simp only [Endpoint.withField, optional_of_ne_null hnull hm]
    rfl
  simp only [Endpoint.encode, Json.withField, List.filter_append, filter_optional,
    String.reduceEq, if_false, Endpoint.decode, Decode.record, List.filter_cons, ne_eq,
    not_false_eq_true, not_true_eq_false, decide_true, decide_false, if_true,
    Bool.false_eq_true, List.cons_append, List.nil_append, List.append_assoc]
  change takeUp Endpoint.withField {} _ = _
  rw [takeUp_field _ rfl, takeUp_field _ rfl,
    EndpointSpec.readsBack.takeUp_optional (fun o x => { o with spec := x }) rfl fun _ => rfl,
    EndpointStatus.readsBack.takeUp_optional (fun o x => { o with status := x }) rfl fun _ => rfl,
    takeUp_field _ (hlast _)]
  rfl

end

theorem Kind.field?_metadata {k : Kind} (o : k.Object) :
    (Kind.encode o).field? "metadata" = some (Kind.metadata o).encode := by
  cases k <;> rfl

/-- The form of an object names the version of the object. -/
theorem Kind.at?_version {k : Kind} (o : k.Object) :
    (Kind.encode o).at? ["metadata", "resourceVersion"] = (Store.versionOf o).map Json.str := by
  rw [Json.at?, List.foldlM_cons, Kind.field?_metadata]
  simp [Metadata.field?_version]

/-! ## The forms a server keeps -/

namespace Cluster

variable {k : Kind}

theorem versionOf_encode (o : k.Object) : versionOf (Kind.encode o) = Store.versionOf o := by
  simp only [versionOf, Kind.field?_metadata, Option.bind_some, Metadata.field?_version]
  rw [Store.versionOf]
  cases (Kind.metadata o).resourceVersion <;> rfl

theorem identityIn_encode {o : k.Object} {i : Identity} (h : Kind.identity? o = .ok i) :
    identityIn (Kind.encode o) = i := by
  obtain ⟨hname, hns⟩ := Kind.identity?_eq_ok.1 h
  simp [identityIn, Kind.field?_metadata, Metadata.field?_name, Metadata.field?_namespace, hname,
    hns, Json.str?]

/-- An object that is given another version in its form is read with it. -/
theorem decode_withVersion (o : k.Object) (version : String) :
    k.decode (withVersion (Kind.encode o) version) = .ok (Store.withVersion o version) := by
  rw [withVersion, Kind.field?_metadata, Option.getD_some]
  have hm := Metadata.decode_withVersion (Kind.metadata o) version
  have hnull : (Kind.metadata o).encode.withField "resourceVersion" (.str version) ≠ .null := by
    simp [Metadata.encode, Json.withField]
  cases k with
  | intent => exact Intent.decode_withMetadata hm o
  | workload => exact Workload.decode_withMetadata hm hnull o
  | endpoint => exact Endpoint.decode_withMetadata hm hnull o

theorem exists_fields (o : k.Object) :
    ∃ fields, Kind.encode o = .obj fields ∧ SolidFields fields := by
  have hsolid := Kind.solid o
  cases k with
  | intent | workload | endpoint =>
    cases hsolid with
    | obj h => exact ⟨_, rfl, h⟩

theorem versionOf_withVersion (o : k.Object) (version : String) :
    versionOf (withVersion (Kind.encode o) version) = some version := by
  obtain ⟨fields, hfields, _⟩ := exists_fields o
  rw [versionOf, withVersion, Kind.field?_metadata, Option.getD_some, hfields,
    Json.field?_withField, Option.bind_some, Metadata.encode, Json.field?_withField]
  rfl

theorem solid_withVersion (o : k.Object) (version : String) :
    (withVersion (Kind.encode o) version).Solid := by
  obtain ⟨fields, hfields, hsolid⟩ := exists_fields o
  have hmetadata := (Kind.metadata o).solid
  rw [withVersion, Kind.field?_metadata, Option.getD_some, hfields]
  cases hmetadata with
  | obj h => exact .withField hsolid _ (.withField h _ (.str version))

end Cluster

end ServingOperator
