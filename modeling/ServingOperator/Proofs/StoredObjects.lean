-- The laws of the objects in a store. A store keeps JSON under keys, and
-- every state that operations lead to keeps the invariant `Good`: what is
-- under a key is the form of an object that names that key and carries a
-- version given before. So a store can be read as a map to typed objects.
-- Versions only rise: an object with an old version has not been touched.
import ServingOperator.Proofs.ManifestForms
import ServingOperator.Store

namespace ServingOperator

/-! ## Metadata of an object with a version -/

namespace Kind

variable {k : Kind}

@[simp] theorem metadata_withMetadata (o : k.Object) (m : Metadata) :
    metadata (withMetadata o m) = m := by
  cases k <;> rfl

@[simp] theorem withMetadata_metadata (o : k.Object) : withMetadata o (metadata o) = o := by
  cases k <;> rfl

@[simp] theorem withMetadata_withMetadata (o : k.Object) (m n : Metadata) :
    withMetadata (withMetadata o m) n = withMetadata o n := by
  cases k <;> rfl

/-- An object says who it is by its name and its namespace. -/
theorem identity?_eq_ok {o : k.Object} {i : Identity} :
    identity? o = .ok i ↔ (metadata o).name = some i.name ∧ (metadata o).ns = some i.ns := by
  unfold identity?
  cases i
  rcases (metadata o).name with _ | name <;> rcases (metadata o).ns with _ | ns <;>
    simp [and_comm]

/-- The field that an object lacks, if it does not say who it is. -/
def missingField (o : k.Object) : String :=
  if (metadata o).name = none then "metadata.name" else "metadata.namespace"

theorem identity?_eq_error {o : k.Object} {r : Report PlaneError} :
    identity? o = .error r ↔ ((metadata o).name = none ∨ (metadata o).ns = none) ∧
      r = .of (.incompleteObject k.name (missingField o)) := by
  unfold identity? missingField
  rcases (metadata o).name with _ | name <;> rcases (metadata o).ns with _ | ns <;>
    simp [eq_comm]

end Kind

namespace Store

/-- The version of an object. -/
abbrev versionOf {k : Kind} (o : k.Object) : Option String := (Kind.metadata o).resourceVersion

@[simp] theorem versionOf_withVersion {k : Kind} (o : k.Object) (v : String) :
    versionOf (withVersion o v) = some v := by
  simp [versionOf, withVersion]

@[simp] theorem identity?_withVersion {k : Kind} (o : k.Object) (v : String) :
    Kind.identity? (withVersion o v) = Kind.identity? o := by
  simp [Kind.identity?, withVersion]

theorem toString_inj {m n : Nat} : toString m = toString n ↔ m = n := by
  refine ⟨fun h => ?_, fun h => h ▸ rfl⟩
  have hdigits : Nat.toDigits 10 m = Nat.toDigits 10 n := by
    rw [← Nat.toList_repr, ← Nat.toList_repr]
    exact congrArg String.toList h
  rw [← Nat.ofDigitChars_ten_toDigits (n := m), hdigits, Nat.ofDigitChars_ten_toDigits]

/-! ## Looking up keys -/

theorem lookup_filter_ne {κ α : Type} [BEq κ] [LawfulBEq κ] [DecidableEq κ] {key key' : κ}
    (l : List (κ × α)) (h : key' ≠ key) :
    (l.filter (·.1 ≠ key)).lookup key' = l.lookup key' := by
  induction l with
  | nil => rfl
  | cons p rest ih =>
    by_cases hp : p.1 = key
    · have hne : (key' == p.1) = false := by simpa [hp] using h
      rw [List.filter_cons_of_neg (by simpa using hp), ih, List.lookup_cons, hne]
    · rw [List.filter_cons_of_pos (by simpa using hp), List.lookup_cons, List.lookup_cons, ih]

theorem lookup_filter_self {κ α : Type} [DecidableEq κ] (l : List (κ × α)) (key : κ) :
    (l.filter (·.1 ≠ key)).lookup key = none := by
  rw [List.lookup_eq_none_iff]
  intro p hp
  have hne : p.1 ≠ key := by simpa using (List.mem_filter.1 hp).2
  simpa using hne.symm

theorem find?_put_self (s : Store) (key : Key) (v : Json) : (s.put key v).find? key = some v := by
  simp [find?, put]

theorem find?_put_ne (s : Store) {key key' : Key} (v : Json) (h : key' ≠ key) :
    (s.put key v).find? key' = s.find? key' := by
  have hne : (key' == key) = false := by simpa using h
  simp only [find?, put, List.lookup_cons, hne]
  exact lookup_filter_ne s.objects h

theorem find?_drop_self (s : Store) (key : Key) : (s.drop key).find? key = none :=
  lookup_filter_self s.objects key

theorem find?_drop_ne (s : Store) {key key' : Key} (h : key' ≠ key) :
    (s.drop key).find? key' = s.find? key' := lookup_filter_ne s.objects h

/-! ## Typed objects -/

variable {s t : Store} {k k' : Kind} {i i' : Identity}

theorem stored?_of_find? {o : k.Object} (h : s.find? ⟨k, i⟩ = some (Kind.encode o)) :
    s.stored? k i = some o := by
  simp [stored?, load, h]

theorem stored?_of_find?_none (h : s.find? ⟨k, i⟩ = none) : s.stored? k i = none := by
  simp [stored?, load, h]

/-- What is stored under a key is decided by what is kept under it. -/
theorem stored?_congr (h : s.find? ⟨k, i⟩ = t.find? ⟨k, i⟩) : s.stored? k i = t.stored? k i := by
  simp only [stored?, load, h]

theorem find?_keep_self (s : Store) (i : Identity) (o : k.Object) :
    (s.keep i o).2.find? ⟨k, i⟩ = some (Kind.encode (withVersion o s.nextVersion)) :=
  s.find?_put_self _ _

theorem find?_keep_ne (s : Store) (o : k.Object) (h : (⟨k', i'⟩ : Key) ≠ ⟨k, i⟩) :
    (s.keep i o).2.find? ⟨k', i'⟩ = s.find? ⟨k', i'⟩ := s.find?_put_ne _ h

theorem stored?_keep_self (s : Store) (i : Identity) (o : k.Object) :
    (s.keep i o).2.stored? k i = some (withVersion o s.nextVersion) :=
  stored?_of_find? (s.find?_keep_self i o)

theorem stored?_keep_ne (s : Store) (o : k.Object) (h : (⟨k', i'⟩ : Key) ≠ ⟨k, i⟩) :
    (s.keep i o).2.stored? k' i' = s.stored? k' i' := stored?_congr (s.find?_keep_ne o h)

/-! ## The invariant of a store -/

/-- The object names the identity that it is stored under, and its version
is one that the store has given. -/
structure Stamped (s : Store) (i : Identity) (o : k.Object) : Prop where
  identity : Kind.identity? o = .ok i
  version : ∃ n, versionOf o = some (toString n) ∧ 0 < n ∧ n ≤ s.counter

/-- Under each key is the form of an object stamped for that key. -/
def Good (s : Store) : Prop :=
  ∀ (k : Kind) i v, s.find? ⟨k, i⟩ = some v → ∃ o : k.Object, v = Kind.encode o ∧ s.Stamped i o

theorem Stamped.mono {o : k.Object} (h : s.Stamped i o) (hc : s.counter ≤ t.counter) :
    t.Stamped i o := by
  obtain ⟨n, hn, hpos, hle⟩ := h.version
  exact ⟨h.identity, n, hn, hpos, Nat.le_trans hle hc⟩

theorem good_empty : Good empty := by
  intro k i v h
  simp [find?, empty] at h

/-- In a good store, what is kept can be read off the typed objects. -/
theorem Good.find?_eq (h : s.Good) (k : Kind) (i : Identity) :
    s.find? ⟨k, i⟩ = (s.stored? k i).map Kind.encode := by
  cases hv : s.find? ⟨k, i⟩ with
  | none => rw [stored?_of_find?_none hv]; rfl
  | some v =>
    obtain ⟨o, rfl, _⟩ := h k i v hv
    rw [stored?_of_find? hv]
    rfl

theorem Good.find?_eq_none (h : s.Good) : s.find? ⟨k, i⟩ = none ↔ s.stored? k i = none := by
  rw [h.find?_eq, Option.map_eq_none_iff]

/-- Everything in a good store decodes. -/
theorem Good.load_eq (h : s.Good) (k : Kind) (i : Identity) :
    s.load k i = .ok (s.stored? k i) := by
  cases hv : s.find? ⟨k, i⟩ with
  | none => simp [stored?, load, hv]
  | some v =>
    obtain ⟨o, rfl, _⟩ := h k i v hv
    simp [stored?, load, hv]

theorem Good.stamped (h : s.Good) {o : k.Object} (ho : s.stored? k i = some o) : s.Stamped i o := by
  have hv : s.find? ⟨k, i⟩ = some (Kind.encode o) := by rw [h.find?_eq, ho]; rfl
  obtain ⟨o', he, hs⟩ := h k i _ hv
  have hdecode := congrArg k.decode he
  simp only [Kind.decode_encode, Except.ok.injEq] at hdecode
  exact hdecode ▸ hs

/-! ## What a step does to the objects -/

/-- One step changes at most one key: it stores an object there, with the
next version, or it takes away what is there. -/
inductive Change (s : Store) : Store → Prop
  | same {t : Store} (ho : t.objects = s.objects) (hc : t.counter = s.counter) : Change s t
  | kept {t : Store} {k : Kind} (i : Identity) (o : k.Object) (hi : Kind.identity? o = .ok i)
      (ho : t.objects = (s.keep i o).2.objects) (hc : t.counter = s.counter + 1) : Change s t
  | dropped {t : Store} (k : Kind) (i : Identity) (ho : t.objects = (s.remove k i).objects)
      (hc : t.counter = s.counter) : Change s t

theorem find?_of_objects (h : s.objects = t.objects) (key : Key) : s.find? key = t.find? key := by
  rw [find?, find?, h]

theorem stored?_of_objects (h : s.objects = t.objects) (k : Kind) (i : Identity) :
    s.stored? k i = t.stored? k i := stored?_congr (find?_of_objects h _)

theorem stamped_withVersion {o : k.Object} (hi : Kind.identity? o = .ok i)
    (hc : t.counter = s.counter + 1) : t.Stamped i (withVersion o s.nextVersion) :=
  ⟨by rw [identity?_withVersion, hi], s.counter + 1, versionOf_withVersion _ _, Nat.succ_pos _,
    Nat.le_of_eq hc.symm⟩

theorem Change.good (h : s.Change t) (hs : s.Good) : t.Good := by
  intro k i v hv
  cases h with
  | same ho hc =>
    rw [find?_of_objects ho] at hv
    obtain ⟨o, hv, hst⟩ := hs k i v hv
    exact ⟨o, hv, hst.mono (Nat.le_of_eq hc.symm)⟩
  | @kept k' i' o hi ho hc =>
    rw [find?_of_objects ho] at hv
    by_cases hkey : (⟨k, i⟩ : Key) = ⟨k', i'⟩
    · cases hkey
      rw [find?_keep_self] at hv
      exact ⟨_, (Option.some.inj hv).symm, stamped_withVersion hi hc⟩
    · rw [s.find?_keep_ne o hkey] at hv
      obtain ⟨o', hv, hst⟩ := hs k i v hv
      exact ⟨o', hv, hst.mono (by omega)⟩
  | dropped k' i' ho hc =>
    rw [find?_of_objects ho] at hv
    by_cases hkey : (⟨k, i⟩ : Key) = ⟨k', i'⟩
    · rw [hkey, remove, find?_drop_self] at hv
      cases hv
    · rw [remove, s.find?_drop_ne hkey] at hv
      obtain ⟨o, hv, hst⟩ := hs k i v hv
      exact ⟨o, hv, hst.mono (Nat.le_of_eq hc.symm)⟩

end Store

end ServingOperator
