-- The laws of written forms. The form of every object is solid, and so is
-- that of every error answer: there is no null in them, and nothing that a
-- text of theirs would be read back differently from.
import ServingOperator.Proofs.JsonText
import ServingOperator.Rest.Message

namespace ServingOperator

/-- A value that writers make: nothing in it is null, a floating-point number
or unreadable, and 64 bits hold its integers. -/
inductive Json.Solid : Json → Prop
  | bool (b : Bool) : Solid (.bool b)
  | int {n : Int} (hlow : -0x8000000000000000 ≤ n) (hhigh : n < 0x10000000000000000) :
    Solid (.int n)
  | str (s : String) : Solid (.str s)
  | arr {items : List Json} (h : ∀ v ∈ items, Solid v) : Solid (.arr items)
  | obj {fields : List (String × Json)} (h : ∀ f ∈ fields, Solid f.2) : Solid (.obj fields)

theorem Json.Solid.plain {v : Json} (h : v.Solid) : v.Plain := by
  induction h with
  | bool b => exact .bool b
  | int hlow hhigh => exact .int hlow hhigh
  | str s => exact .str s
  | arr _ ih => exact .arr ih
  | obj _ ih => exact .obj ih

open Json (Solid)

/-! ## Fields -/

/-- The values of all fields are solid. -/
def SolidFields (fields : List (String × Json)) : Prop := ∀ f ∈ fields, Solid f.2

theorem solidFields_nil : SolidFields [] := nofun

theorem solidFields_cons {key : String} {v : Json} {fields : List (String × Json)} :
    SolidFields ((key, v) :: fields) ↔ Solid v ∧ SolidFields fields :=
  List.forall_mem_cons

theorem solidFields_append {fields fields' : List (String × Json)} :
    SolidFields (fields ++ fields') ↔ SolidFields fields ∧ SolidFields fields' :=
  List.forall_mem_append

theorem solid_of_fields {fields : List (String × Json)} (h : SolidFields fields) :
    Solid (.obj fields) := .obj h

theorem solidFields_optional {α : Type} {write : α → Json} (h : ∀ a, Solid (write a))
    (key : String) (o : Option α) : SolidFields (Encode.optional key write o) := by
  cases o with
  | none => exact solidFields_nil
  | some a => exact solidFields_cons.2 ⟨h a, solidFields_nil⟩

namespace Encode

theorem solid_text (s : String) : Solid (text s) := .str s

theorem solid_flag (b : Bool) : Solid (flag b) := .bool b

theorem solid_int32 (n : Int32) : Solid (int32 n) := by
  have hlow := n.minValue_le_toInt
  have hhigh := n.toInt_le
  have hmin : Int32.minValue.toInt = -2 ^ 31 := by decide
  have hmax : Int32.maxValue.toInt = 2 ^ 31 - 1 := by decide
  exact .int (by omega) (by omega)

theorem solid_int64 (n : Int64) : Solid (int64 n) := by
  have hlow := n.minValue_le_toInt
  have hhigh := n.toInt_le
  have hmin : Int64.minValue.toInt = -2 ^ 63 := by decide
  have hmax : Int64.maxValue.toInt = 2 ^ 63 - 1 := by decide
  exact .int (by omega) (by omega)

theorem solid_list {α : Type} {write : α → Json} (h : ∀ a, Solid (write a)) (l : List α) :
    Solid (list write l) := by
  refine .arr fun v hv => ?_
  obtain ⟨a, _, rfl⟩ := List.mem_map.1 hv
  exact h a

theorem solid_textMap (m : TextMap) : Solid (textMap m) := by
  refine .obj fun f hf => ?_
  obtain ⟨p, _, rfl⟩ := List.mem_map.1 hf
  exact .str p.2

end Encode

open Encode

/-! ## Records -/

theorem OwnerReference.solid (o : OwnerReference) : Solid o.encode := by
  refine solid_of_fields ?_
  simp only [solidFields_append, solidFields_cons, solidFields_nil,
    solidFields_optional solid_flag, Solid.str, and_self]

theorem Metadata.solid (m : Metadata) : Solid m.encode := by
  refine solid_of_fields ?_
  simp only [solidFields_append, solidFields_optional solid_text,
    solidFields_optional solid_int64, solidFields_optional solid_textMap,
    solidFields_optional (solid_list solid_text),
    solidFields_optional (solid_list OwnerReference.solid), and_self]

theorem Toleration.solid (t : Toleration) : Solid t.encode := by
  refine solid_of_fields ?_
  simp only [solidFields_append, solidFields_optional solid_text, and_self]

theorem Resources.solid (r : Resources) : Solid r.encode :=
  solid_of_fields (solidFields_optional solid_textMap _ _)

theorem Container.solid (c : Container) : Solid c.encode := by
  refine solid_of_fields ?_
  simp only [solidFields_append, solidFields_cons, solidFields_nil,
    solidFields_optional solid_text, solidFields_optional (solid_list solid_text),
    solidFields_optional Resources.solid, Solid.str, and_self]

theorem PodSpec.solid (p : PodSpec) : Solid p.encode := by
  refine solid_of_fields ?_
  simp only [solidFields_append, solidFields_cons, solidFields_nil, solid_list Container.solid,
    solidFields_optional solid_textMap, solidFields_optional (solid_list Toleration.solid),
    and_self]

theorem PodTemplate.solid (t : PodTemplate) : Solid t.encode := by
  refine solid_of_fields ?_
  simp only [solidFields_append, solidFields_optional Metadata.solid,
    solidFields_optional PodSpec.solid, and_self]

theorem LabelSelector.solid (s : LabelSelector) : Solid s.encode :=
  solid_of_fields (solidFields_optional solid_textMap _ _)

theorem WorkloadSpec.solid (s : WorkloadSpec) : Solid s.encode := by
  refine solid_of_fields ?_
  simp only [solidFields_append, solidFields_cons, solidFields_nil,
    solidFields_optional solid_int32, solidFields_optional solid_flag, LabelSelector.solid,
    PodTemplate.solid, and_self]

theorem WorkloadStatus.solid (s : WorkloadStatus) : Solid s.encode := by
  refine solid_of_fields ?_
  simp only [solidFields_append, solidFields_optional solid_int32, and_self]

theorem TargetPort.solid (p : TargetPort) : Solid p.encode := by
  cases p with
  | number n => exact solid_int32 n
  | name s => exact .str s

theorem ServicePort.solid (p : ServicePort) : Solid p.encode := by
  refine solid_of_fields ?_
  simp only [solidFields_append, solidFields_cons, solidFields_nil,
    solidFields_optional solid_text, solidFields_optional solid_int32, solid_int32,
    solidFields_optional TargetPort.solid, and_self]

theorem EndpointSpec.solid (s : EndpointSpec) : Solid s.encode := by
  refine solid_of_fields ?_
  simp only [solidFields_append, solidFields_optional solid_text,
    solidFields_optional (solid_list solid_text),
    solidFields_optional (solid_list ServicePort.solid), solidFields_optional solid_textMap,
    and_self]

theorem LoadBalancer.solid (b : LoadBalancer) : Solid b.encode := solid_of_fields solidFields_nil

theorem EndpointStatus.solid (s : EndpointStatus) : Solid s.encode :=
  solid_of_fields (solidFields_optional LoadBalancer.solid _ _)

theorem IntentSpec.solid (s : IntentSpec) : Solid s.encode := by
  refine solid_of_fields ?_
  simp only [solidFields_append, solidFields_cons, solidFields_nil,
    solidFields_optional solid_text, solidFields_optional solid_int32,
    solidFields_optional solid_textMap, Solid.str, and_self]

/-! ## All kinds -/

/-- The form of every object is solid. -/
theorem Kind.solid {k : Kind} (o : k.Object) : Solid (Kind.encode o) := by
  cases k with
  | intent =>
    refine solid_of_fields ?_
    simp only [solidFields_cons, solidFields_nil, Metadata.solid, IntentSpec.solid, Solid.str,
      and_self]
  | workload =>
    refine solid_of_fields ?_
    simp only [solidFields_append, solidFields_cons, solidFields_nil, Metadata.solid,
      solidFields_optional WorkloadSpec.solid, solidFields_optional WorkloadStatus.solid,
      Solid.str, and_self]
  | endpoint =>
    refine solid_of_fields ?_
    simp only [solidFields_append, solidFields_cons, solidFields_nil, Metadata.solid,
      solidFields_optional EndpointSpec.solid, solidFields_optional EndpointStatus.solid,
      Solid.str, and_self]

namespace Rest

theorem ApiStatus.solid (s : ApiStatus) : Solid s.encode := by
  have hcode := s.code.toNat_lt
  refine solid_of_fields ?_
  simp only [solidFields_cons, solidFields_nil, Solid.str, true_and, and_true]
  exact .int (by omega) (by omega)

end Rest

end ServingOperator
