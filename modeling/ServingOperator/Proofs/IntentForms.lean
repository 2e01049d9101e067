-- The laws of the written forms of an intent. What is written reads back, and
-- there is no null in it. A form can have more in it than its reader looks for:
-- a field of a key that the level does not know, or null for a field that may
-- be unset. Such a form has grown, and it reads as it did before.
import Mathlib.Logic.Relation
import ServingOperator.Proofs.ManifestForms
import ServingOperator.Proofs.PlainForms
import ServingOperator.Proofs.RecordFields

namespace ServingOperator

open ReadsBack

/-! ## Values within a value -/

namespace Json

/-- A value is somewhere within another one, or is it. -/
inductive Contains : Json → Json → Prop
  | self (v : Json) : Contains v v
  | item {items : List Json} {u v : Json} (h : u ∈ items) (hu : Contains u v) :
    Contains (.arr items) v
  | field {fields : List (String × Json)} {f : String × Json} {v : Json} (h : f ∈ fields)
    (hf : Contains f.2 v) : Contains (.obj fields) v

/-- There is no null anywhere in a solid value. -/
theorem Solid.not_contains_null {v : Json} (h : v.Solid) : ¬ v.Contains .null := by
  induction h with
  | bool b => nofun
  | int hlow hhigh => nofun
  | str s => nofun
  | arr h ih =>
    intro hnull
    cases hnull with
    | item hu hnull => exact ih _ hu hnull
  | obj h ih =>
    intro hnull
    cases hnull with
    | field hf hnull => exact ih _ hf hnull

/-- One more field in an object: one of a key that the level does not know, or
null for a field that may be unset and is not there. -/
inductive Grown (known mayBeUnset : List String) : Json → Json → Prop
  | unknown {l r : List (String × Json)} {key : String} (v : Json) (h : key ∉ known) :
    Grown known mayBeUnset (.obj (l ++ r)) (.obj (l ++ (key, v) :: r))
  | unset {l r : List (String × Json)} {key : String} (h : key ∈ mayBeUnset)
    (hnew : ∀ f ∈ l ++ r, f.1 ≠ key) :
    Grown known mayBeUnset (.obj (l ++ r)) (.obj (l ++ (key, .null) :: r))

end Json

/-! ## Metadata -/

namespace Metadata

/-- The fields by their keys. Each of them may be unset. -/
def fieldNames : List String :=
  ["name", "generateName", "namespace", "uid", "resourceVersion", "generation", "labels",
    "annotations", "finalizers", "ownerReferences"]

/-- The metadata with the field of a key unset. -/
def unset (m : Metadata) : String → Metadata
  | "name" => { m with name := none }
  | "generateName" => { m with generateName := none }
  | "namespace" => { m with ns := none }
  | "uid" => { m with uid := none }
  | "resourceVersion" => { m with resourceVersion := none }
  | "generation" => { m with generation := none }
  | "labels" => { m with labels := none }
  | "annotations" => { m with annotations := none }
  | "finalizers" => { m with finalizers := none }
  | "ownerReferences" => { m with ownerReferences := none }
  | _ => m

theorem unset_start (key : String) : unset {} key = {} := by
  unfold unset
  split <;> rfl

theorem withField_null (m : Metadata) (key : String) :
    m.withField key .null = .ok (m.unset key) := by
  unfold withField
  split
  case h_11 =>
    simp only [unset]
    rfl
  all_goals rfl

theorem withField_unset (m : Metadata) {k key : String} (v : Json) (h : k ≠ key) :
    (m.unset key).withField k v = (·.unset key) <$> m.withField k v := by
  unfold unset
  split
  all_goals
    unfold withField
    split
    all_goals first | exact absurd rfl h | simp only [map_bind, map_pure]

theorem withField_unknown (m : Metadata) {key : String} (v : Json) (h : key ∉ fieldNames) :
    m.withField key v = .ok m := by
  unfold withField
  split
  case h_11 => rfl
  all_goals exact absurd (by decide) h

/-- Grown metadata read as they did before. -/
theorem decode_grown {v w : Json} (h : Json.Grown fieldNames fieldNames v w) :
    decode w = decode v := by
  cases h with
  | unknown v h => exact takeUp_insert _ fun a _ => a.withField_unknown v h
  | unset h hnew =>
    have hbefore := fun f hf => hnew f (List.mem_append_left _ hf)
    exact takeUp_insert _ fun a ha => takeUp_null (fun a => a.withField_null _)
      (fun a _ v hk => a.withField_unset v hk) (unset_start _) hbefore ha

end Metadata

/-! ## What is to be served -/

namespace IntentSpec

/-- The fields that may be unset. -/
def mayBeUnset : List String := ["replicas", "maxModelLength", "runtime", "nodeSelectorLabels"]

/-- The spec with the field of a key unset. -/
def unset (s : IntentSpec) : String → IntentSpec
  | "replicas" => { s with replicas := none }
  | "maxModelLength" => { s with maxModelLength := none }
  | "runtime" => { s with runtime := none }
  | "nodeSelectorLabels" => { s with nodeSelectorLabels := none }
  | _ => s

theorem unset_start (key : String) : unset {} key = {} := by
  unfold unset
  split <;> rfl

theorem withField_unknown (s : IntentSpec) {key : String} (v : Json) (h : key ∉ fieldNames) :
    s.withField key v = .ok s := by
  unfold withField
  split
  case h_6 => rfl
  all_goals exact absurd (by decide) h

theorem withField_null (s : IntentSpec) {key : String} (h : key ∈ mayBeUnset) :
    s.withField key .null = .ok (s.unset key) := by
  simp only [mayBeUnset, List.mem_cons, List.not_mem_nil, or_false] at h
  rcases h with rfl | rfl | rfl | rfl <;> rfl

theorem withField_unset (s : IntentSpec) {k key : String} (v : Json) (h : k ≠ key) :
    (s.unset key).withField k v = (·.unset key) <$> s.withField k v := by
  unfold unset
  split
  all_goals
    unfold withField
    split
    all_goals first | exact absurd rfl h | simp only [map_bind, map_pure]

/-- A grown spec reads as it did before. -/
theorem decode_grown {v w : Json} (h : Json.Grown fieldNames mayBeUnset v w) :
    decode w = decode v := by
  cases h with
  | @unknown l r key v h =>
    have hrequired : key ∉ ["modelName"] := by
      rw [List.mem_singleton]
      rintro rfl
      exact h (by decide)
    exact strictRecord_insert hrequired (fun hk => absurd hk h) fun a _ => a.withField_unknown v h
  | @unset l r key h hnew =>
    have hrequired : key ∉ ["modelName"] := by
      simp only [mayBeUnset, List.mem_cons, List.not_mem_nil, or_false] at h
      rcases h with rfl | rfl | rfl | rfl <;> decide
    have hbefore := fun f hf => hnew f (List.mem_append_left _ hf)
    exact strictRecord_insert hrequired (fun _ => hnew) fun a ha =>
      takeUp_null (fun a => a.withField_null h) (fun a _ v hk => a.withField_unset v hk)
        (unset_start _) hbefore ha

end IntentSpec

/-! ## Intents -/

namespace Intent

/-- One more field in the form of an intent: at the top, in the metadata or in
the spec, in any of the ways that the intent may be written. -/
inductive Grown : Json → Json → Prop
  | top {v w : Json} (h : Json.Grown ["metadata", "spec"] [] v w) : Grown v w
  | metadata {l r : List (String × Json)} {m m' : Json}
    (h : Json.Grown Metadata.fieldNames Metadata.fieldNames m m') :
    Grown (.obj (l ++ ("metadata", m) :: r)) (.obj (l ++ ("metadata", m') :: r))
  | spec {l r : List (String × Json)} {s s' : Json}
    (h : Json.Grown IntentSpec.fieldNames IntentSpec.mayBeUnset s s') :
    Grown (.obj (l ++ ("spec", s) :: r)) (.obj (l ++ ("spec", s') :: r))
  | listedMetadata {items : List Json} {m m' : Json}
    (h : Json.Grown Metadata.fieldNames Metadata.fieldNames m m') :
    Grown (.arr (m :: items)) (.arr (m' :: items))
  | listedSpec {items : List Json} {m s s' : Json}
    (h : Json.Grown IntentSpec.fieldNames IntentSpec.mayBeUnset s s') :
    Grown (.arr (m :: s :: items)) (.arr (m :: s' :: items))

theorem withField_unknown (o : Intent) {key : String} (v : Json)
    (h : key ∉ ["metadata", "spec"]) : o.withField key v = .ok o := by
  unfold withField
  split
  case h_3 => rfl
  all_goals exact absurd (by decide) h

/-- A grown form reads as it did before, be it an intent or not. -/
theorem decode_grown {v w : Json} (h : Grown v w) : decode w = decode v := by
  cases h with
  | top h =>
    cases h with
    | unknown v h =>
      exact strictRecord_insert h (fun hk => absurd hk h) fun a _ => a.withField_unknown v h
    | unset h hnew => exact absurd h List.not_mem_nil
  | metadata h =>
    exact strictRecord_replace _ _ fun o => by simp only [withField, Metadata.decode_grown h]
  | spec h =>
    exact strictRecord_replace _ _ fun o => by simp only [withField, IntentSpec.decode_grown h]
  | @listedMetadata items m m' h =>
    show ofItems (m' :: items) = ofItems (m :: items)
    cases items with
    | nil => simp only [ofItems, Metadata.decode_grown h]
    | cons s rest => simp only [ofItems, Metadata.decode_grown h, List.length_cons]
  | @listedSpec items m s s' h =>
    show ofItems (m :: s' :: items) = ofItems (m :: s :: items)
    simp only [ofItems, IntentSpec.decode_grown h, List.length_cons]

theorem decode_all_grown {v w : Json} (h : Relation.ReflTransGen Grown v w) :
    decode w = decode v := by
  induction h with
  | refl => rfl
  | tail _ hstep ih => rw [decode_grown hstep, ih]

/-! ## The theorem -/

/-- Every intent is read back as it was written. Whatever form it was first read
from, what is written of it holds no null and reads as the same intent, and so
does that first form however much it grows. -/
theorem an_intent_outlives_its_written_form :
    (∀ x : Intent, decode x.encode = .ok x) ∧
      ∀ {v : Json} {x : Intent}, decode v = .ok x →
        ¬ x.encode.Contains .null ∧ decode x.encode = .ok x ∧
          ∀ {w : Json}, Relation.ReflTransGen Grown v w → decode w = .ok x := by
  refine ⟨readsBack.read_write, fun {v x} hread => ⟨?_, readsBack.read_write x, fun hgrown => ?_⟩⟩
  · exact (Kind.solid (k := .intent) x).not_contains_null
  · rw [decode_all_grown hgrown, hread]

/-- A form that gives metadata and spec by their places, with labels and a runtime that
are empty, and a field that nobody knows. -/
def listedForm : Json :=
  .arr [.obj [("name", .str "llama"), ("labels", .obj []), ("uid", .null)],
    .obj [("modelName", .str "llama"), ("runtime", .str ""), ("note", .null)]]

/-- The same form with a field that was left out, and one more that nobody knows. -/
def listedFormLater : Json :=
  .arr [.obj [("name", .str "llama"), ("labels", .obj []), ("uid", .null)],
    .obj [("modelName", .str "llama"), ("replicas", .null), ("runtime", .str ""),
      ("note", .null), ("color", .int 7)]]

theorem listedForm_grows : Relation.ReflTransGen Grown listedForm listedFormLater := by
  let name : String × Json := ("modelName", .str "llama")
  let rest : List (String × Json) := [("runtime", .str ""), ("note", .null)]
  have hnull : Json.Grown IntentSpec.fieldNames IntentSpec.mayBeUnset (.obj ([name] ++ rest))
      (.obj ([name] ++ ("replicas", .null) :: rest)) := .unset (by decide) (by simp [name, rest])
  have hcolor : Json.Grown IntentSpec.fieldNames IntentSpec.mayBeUnset
      (.obj ((name :: ("replicas", .null) :: rest) ++ []))
      (.obj ((name :: ("replicas", .null) :: rest) ++ [("color", .int 7)])) :=
    .unknown (.int 7) (by decide)
  exact .tail (.single (.listedSpec hnull)) (.listedSpec hcolor)

theorem a_listed_intent_outlives_its_written_form :
    let x : Intent :=
      { metadata := { name := some "llama", labels := some .empty },
        spec := { modelName := "llama", runtime := some "" } }
    decode listedForm = .ok x ∧ ¬ x.encode.Contains .null ∧ decode x.encode = .ok x ∧
      decode listedFormLater = .ok x := by
  intro x
  have hread : decode listedForm = .ok x := rfl
  obtain ⟨hnull, hwritten, hgrown⟩ := an_intent_outlives_its_written_form.2 hread
  exact ⟨hread, hnull, hwritten, hgrown listedForm_grows⟩

end Intent

end ServingOperator
