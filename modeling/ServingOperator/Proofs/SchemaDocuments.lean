-- The laws of schemas as documents. An API server knows a schema only as the
-- document that was written of it, and goes by its keywords. What a document
-- lets in is said here keyword by keyword, apart from the schema it was written
-- of, and it is what the schema admits.
import Mathlib.Algebra.Order.Field.Rat
import ServingOperator.CustomResource.Schema
import ServingOperator.Proofs.RecordFields

namespace ServingOperator

/-- The number that a floating-point number stands for. -/
def Binary64.value (x : Binary64) : ℚ :=
  (if x.negative then -1 else 1) * x.mantissa * 2 ^ x.exponent

namespace Json

/-- The number that a value is. -/
def number? : Json → Option ℚ
  | int n => some n
  | float x => some x.value
  | _ => none

/-- The types of a value, as documents name them. A number is an integer if it
is written without fraction and exponent. -/
@[simp] def types : Json → List String
  | null => ["null"]
  | bool _ => ["boolean"]
  | int _ => ["integer", "number"]
  | float _ => ["number"]
  | str _ => ["string"]
  | arr _ => ["array"]
  | obj _ => ["object"]
  | unreadable => []

/-- The document of a schema lets the value in. Null is let in where the document
says so, and any other value has to meet every keyword. -/
inductive LetsIn : Json → Json → Prop
  | null {doc : Json} (h : doc.field? "nullable" = some (.bool true)) : LetsIn doc .null
  | value {doc v : Json} (hnull : v ≠ .null)
    (type : ∀ t, doc.field? "type" = some (.str t) → t ∈ v.types)
    (format : doc.field? "format" = some (.str "int32") →
      ∀ n, v = .int n → -0x80000000 ≤ n ∧ n ≤ 0x7fffffff)
    (minimum : ∀ least n, (doc.field? "minimum").bind number? = some least →
      v.number? = some n → least ≤ n)
    (enum : ∀ choices, doc.field? "enum" = some (.arr choices) → v ∈ choices)
    (required : ∀ keys key fields, doc.field? "required" = some (.arr keys) →
      .str key ∈ keys → v = .obj fields → ∃ f ∈ fields, f.1 = key)
    (properties : ∀ key part x, doc.at? ["properties", key] = some part →
      v.field? key = some x → LetsIn part x)
    (additionalProperties : ∀ part fields, doc.field? "additionalProperties" = some part →
      v = .obj fields → ∀ f ∈ fields, doc.at? ["properties", f.1] = none → LetsIn part f.2) :
    LetsIn doc v

end Json

namespace Schema

open Json (LetsIn)

/-! ## What a schema says at a keyword -/

/-- The name of the type of the values. -/
@[simp] def typeName : Schema → String
  | text _ _ => "string"
  | int32 _ _ => "integer"
  | map _ _ | record _ _ _ => "object"

@[simp] def format? : Schema → Option String
  | int32 _ _ => some "int32"
  | _ => none

@[simp] def minimum? : Schema → Option Nat
  | int32 _ minimum => minimum
  | _ => none

@[simp] def choices? : Schema → Option (List String)
  | text _ choices => choices
  | _ => none

@[simp] def required? : Schema → Option (List String)
  | record _ _ required => some required
  | _ => none

@[simp] def properties : Schema → List (String × Schema)
  | record _ properties _ => properties
  | _ => []

/-- The schema of the values of a map. -/
@[simp] def values? : Schema → Option Schema
  | map _ values => some values
  | _ => none

/-! ## What its document says there -/

/-- A keyword that is written only if there is something to say. -/
@[simp] theorem lookup_keyword {α : Type} (key key' : String) (write : α → Json) (o : Option α) :
    ((o.map fun a => [(key', write a)]).getD []).lookup key =
      if key = key' then o.map write else none := by
  cases o <;> simp [lookup_field]

@[simp] theorem lookup_nullability (n : SchemaNotes) (key : String) :
    (nullability n).lookup key =
      if key = "nullable" ∧ n.nullable then some (.bool true) else none := by
  unfold nullability
  cases n.nullable
  · simp
  · simp [lookup_field]

@[simp] theorem lookup_encodeProperties (properties : List (String × Schema)) (key : String) :
    (encodeProperties properties).lookup key = (properties.lookup key).map encode := by
  induction properties with
  | nil => rfl
  | cons p rest ih =>
    rw [encodeProperties, lookup_field, lookup_field, ih]
    split <;> rfl

section

variable (s : Schema)

theorem field?_nullable :
    s.encode.field? "nullable" = some (.bool true) ↔ s.notes.nullable = true := by
  cases s <;>
    simp [encode, Json.field?, described, titled, List.lookup_append, lookup_field, notes]

theorem field?_type : s.encode.field? "type" = some (.str s.typeName) := by
  cases s <;> simp [encode, Json.field?, described, titled, List.lookup_append, lookup_field]

theorem field?_format : s.encode.field? "format" = s.format?.map .str := by
  cases s <;> simp [encode, Json.field?, described, titled, List.lookup_append, lookup_field]

theorem field?_minimum : s.encode.field? "minimum" = s.minimum?.map pointNumber := by
  cases s <;> simp [encode, Json.field?, described, titled, List.lookup_append, lookup_field]

theorem field?_enum : s.encode.field? "enum" = s.choices?.map textItems := by
  cases s <;> simp [encode, Json.field?, described, titled, List.lookup_append, lookup_field]

theorem field?_required : s.encode.field? "required" = s.required?.map textItems := by
  cases s <;> simp [encode, Json.field?, described, titled, List.lookup_append, lookup_field]

theorem field?_additionalProperties :
    s.encode.field? "additionalProperties" = s.values?.map encode := by
  cases s <;> simp [encode, Json.field?, described, titled, List.lookup_append, lookup_field]

theorem at?_properties (key : String) :
    s.encode.at? ["properties", key] = (s.properties.lookup key).map encode := by
  cases s <;>
    simp [encode, Json.at?, Json.field?, described, titled, List.lookup_append, lookup_field]

/-! ## What is let in and what is admitted -/

/-- Null is let in and admitted where the notes of the schema say so. -/
theorem letsIn_null : LetsIn s.encode .null ↔ s.admits .null = true := by
  have hadmits : s.admits .null = s.notes.nullable := by cases s <;> rfl
  rw [hadmits, ← field?_nullable]
  constructor
  · intro h
    cases h with
    | null h => exact h
    | value hnull => exact absurd rfl hnull
  · exact .null

/-- Any other value is let in if it meets what the schema says at each keyword. -/
theorem letsIn_iff {v : Json} (hnull : v ≠ .null) :
    LetsIn s.encode v ↔
      s.typeName ∈ v.types ∧
      (s.format? = some "int32" → ∀ n, v = .int n → -0x80000000 ≤ n ∧ n ≤ 0x7fffffff) ∧
      (∀ m least n, s.minimum? = some m → (pointNumber m).number? = some least →
        v.number? = some n → least ≤ n) ∧
      (∀ choices, s.choices? = some choices → v ∈ choices.map Json.str) ∧
      (∀ keys fields, s.required? = some keys → v = .obj fields →
        ∀ key ∈ keys, ∃ f ∈ fields, f.1 = key) ∧
      (∀ key part x, s.properties.lookup key = some part → v.field? key = some x →
        LetsIn part.encode x) ∧
      ∀ part fields, s.values? = some part → v = .obj fields →
        ∀ f ∈ fields, s.properties.lookup f.1 = none → LetsIn part.encode f.2 := by
  constructor
  · intro h
    cases h with
    | null => exact absurd rfl hnull
    | value _ type format minimum enum required properties additionalProperties =>
      refine ⟨type _ s.field?_type, ?_, ?_, ?_, ?_, ?_, ?_⟩
      · intro h
        exact format (by rw [field?_format, h]; rfl)
      · intro m least n hm hleast
        exact minimum least n (by rw [field?_minimum, hm]; exact hleast)
      · intro choices h
        exact enum _ (by rw [field?_enum, h]; rfl)
      · intro keys fields h hv key hkey
        exact required _ key fields (by rw [field?_required, h]; rfl) (List.mem_map_of_mem hkey) hv
      · intro key part x h
        exact properties key _ x (by rw [at?_properties, h]; rfl)
      · intro part fields h hv f hf hother
        exact additionalProperties _ fields (by rw [field?_additionalProperties, h]; rfl) hv f hf
          (by rw [at?_properties, hother]; rfl)
  · rintro ⟨type, format, minimum, enum, required, properties, additionalProperties⟩
    refine .value hnull ?_ ?_ ?_ ?_ ?_ ?_ ?_
    · intro t h
      rw [field?_type] at h
      cases h
      exact type
    · intro h
      rw [field?_format] at h
      obtain ⟨t, ht, hname⟩ := Option.map_eq_some_iff.1 h
      cases hname
      exact format ht
    · intro least n h
      rw [field?_minimum, Option.bind_map] at h
      obtain ⟨m, hm, hleast⟩ := Option.bind_eq_some_iff.1 h
      exact minimum m least n hm hleast
    · intro choices h
      rw [field?_enum] at h
      obtain ⟨l, hl, hitems⟩ := Option.map_eq_some_iff.1 h
      cases hitems
      exact enum l hl
    · intro keys key fields h hkey hv
      rw [field?_required] at h
      obtain ⟨l, hl, hitems⟩ := Option.map_eq_some_iff.1 h
      cases hitems
      obtain ⟨k, hk, hkey⟩ := List.mem_map.1 hkey
      cases hkey
      exact required l fields hl hv key hk
    · intro key part x h
      rw [at?_properties] at h
      obtain ⟨p, hp, rfl⟩ := Option.map_eq_some_iff.1 h
      exact properties key p x hp
    · intro part fields h hv f hf hother
      rw [field?_additionalProperties] at h
      rw [at?_properties] at hother
      obtain ⟨p, hp, rfl⟩ := Option.map_eq_some_iff.1 h
      exact additionalProperties p fields hp hv f hf (Option.map_eq_none_iff.1 hother)

end

/-- The document of a schema says just what the schema says: least numbers are
written exactly, and no property is written twice. -/
inductive Exact : Schema → Prop
  | text (n : SchemaNotes) (choices : Option (List String)) : Exact (.text n choices)
  | int32 (n : SchemaNotes) {minimum : Option Nat}
    (h : ∀ m ∈ minimum, (pointNumber m).number? = some (m : ℚ)) : Exact (.int32 n minimum)
  | map (n : SchemaNotes) {values : Schema} (h : Exact values) : Exact (.map n values)
  | record (n : SchemaNotes) {properties : List (String × Schema)} (required : List String)
    (hkeys : (properties.map Prod.fst).Nodup) (h : ∀ p ∈ properties, Exact p.2) :
    Exact (.record n properties required)

theorem admitsProperties_iff (properties : List (String × Schema))
    (fields : List (String × Json)) :
    admitsProperties properties fields = true ↔
      ∀ p ∈ properties, ∀ v, fields.lookup p.1 = some v → p.2.admits v = true := by
  induction properties with
  | nil => simp [admitsProperties]
  | cons p rest ih =>
    rw [admitsProperties, Bool.and_eq_true, ih, List.forall_mem_cons]
    cases fields.lookup p.1 with
    | none => simp
    | some v => simp

/-- An object is admitted if its required properties are there and all that are
there are admitted. -/
theorem admits_record (n : SchemaNotes) (properties : List (String × Schema))
    (required : List String) (fields : List (String × Json)) :
    (record n properties required).admits (.obj fields) = true ↔
      (∀ key ∈ required, ∃ f ∈ fields, f.1 = key) ∧
        ∀ p ∈ properties, ∀ v, fields.lookup p.1 = some v → p.2.admits v = true := by
  rw [admits, Bool.and_eq_true, admitsProperties_iff]
  simp

/-- The document of a schema lets in what the schema admits. -/
theorem letsIn_encode {s : Schema} (h : s.Exact) (v : Json) :
    LetsIn s.encode v ↔ s.admits v = true := by
  induction h generalizing v with
  | text n choices =>
    cases v with
    | null => exact letsIn_null _
    | str s =>
      rw [letsIn_iff _ (by simp)]
      cases choices <;> simp [admits]
    | _ => simp [letsIn_iff, admits]
  | @int32 n minimum hexact =>
    cases v with
    | null => exact letsIn_null _
    | int i =>
      rw [letsIn_iff _ (by simp)]
      have hlow : Int32.minValue.toInt = -0x80000000 := by decide
      have hhigh : Int32.maxValue.toInt = 0x7fffffff := by decide
      cases minimum with
      | none => simp [admits, hlow, hhigh]
      | some m =>
        have hleast : (∀ m' least n, some m = some m' → (pointNumber m').number? = some least →
            (Json.int i).number? = some n → least ≤ n) ↔ (m : ℤ) ≤ i := by
          constructor
          · intro h
            exact_mod_cast h m m i rfl (hexact m rfl) rfl
          · intro h m' least n hm hwritten hn
            cases hm
            cases hn
            rw [hexact m rfl] at hwritten
            cases hwritten
            exact_mod_cast h
        rw [minimum?, hleast]
        simp [admits, hlow, hhigh]
    | _ => simp [letsIn_iff, admits]
  | map n h ih =>
    cases v with
    | null => exact letsIn_null _
    | obj fields =>
      rw [letsIn_iff _ (by simp)]
      simp [admits, ih]
    | _ => simp [letsIn_iff, admits]
  | @record n properties required hkeys h ih =>
    cases v with
    | null => exact letsIn_null _
    | obj fields =>
      rw [letsIn_iff _ (by simp)]
      have hproperties : (∀ key part x, properties.lookup key = some part →
          (Json.obj fields).field? key = some x → LetsIn part.encode x) ↔
            ∀ p ∈ properties, ∀ x, fields.lookup p.1 = some x → p.2.admits x = true := by
        constructor
        · intro h p hp x hx
          exact (ih p hp x).1 (h p.1 p.2 x ((lookup_eq_some_iff_mem hkeys).2 hp) hx)
        · intro h key part x hpart hx
          have hmem := (lookup_eq_some_iff_mem hkeys).1 hpart
          exact (ih _ hmem x).2 (h _ hmem x hx)
      rw [Schema.properties, hproperties, admits_record]
      simp
    | _ => simp [letsIn_iff, admits]

end Schema

end ServingOperator
