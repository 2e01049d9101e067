-- The laws of reading the fields of a record one by one. A field that changes
-- nothing where it stands can be left out. A key that is written once decides
-- its part of the record alone, wherever it stands among the others. So what a
-- record reads as can be told field by field.
import Mathlib.Data.List.Find
import ServingOperator.Proofs.ReadBack

namespace ServingOperator

open ReadsBack

variable {α β : Type} {field : α → String → Json → Decoded α}

/-- A record with a part that was read is there only if the part could be read. -/
theorem set_eq_ok {read : Decoded β} {set : β → α} {a : α} :
    (do let b ← read; return set b) = Except.ok a ↔ ∃ b, read = .ok b ∧ set b = a := by
  cases read <;> simp [bind, Except.bind, pure, Except.pure]

/-! ## Fields in a row -/

theorem takeUp_cons (a : α) (f : String × Json) (rest : List (String × Json)) :
    takeUp field a (f :: rest) = field a f.1 f.2 >>= fun b => takeUp field b rest :=
  List.foldlM_cons

theorem takeUp_append (a : α) (l r : List (String × Json)) :
    takeUp field a (l ++ r) = takeUp field a l >>= fun b => takeUp field b r :=
  List.foldlM_append

/-- Fields can be taken up if each of them can, whatever came before. -/
theorem exists_takeUp {fields : List (String × Json)}
    (h : ∀ f ∈ fields, ∀ a, ∃ b, field a f.1 f.2 = .ok b) (a : α) :
    ∃ b, takeUp field a fields = .ok b := by
  induction fields generalizing a with
  | nil => exact ⟨a, rfl⟩
  | cons f rest ih =>
    obtain ⟨hf, hrest⟩ := List.forall_mem_cons.1 h
    obtain ⟨b, hb⟩ := hf a
    rw [takeUp_cons, hb]
    exact ih hrest b

/-- If fields were taken up, each of them was. -/
theorem exists_field_of_takeUp {fields : List (String × Json)} {a b : α}
    (h : takeUp field a fields = .ok b) {f : String × Json} (hf : f ∈ fields) :
    ∃ c d, field c f.1 f.2 = .ok d := by
  induction fields generalizing a with
  | nil => cases hf
  | cons g rest ih =>
    rw [takeUp_cons] at h
    cases hg : field a g.1 g.2 with
    | error e =>
      rw [hg] at h
      cases h
    | ok c =>
      rw [hg] at h
      rcases List.mem_cons.1 hf with rfl | hf
      · exact ⟨a, c, hg⟩
      · exact ih h hf

/-- A field that changes nothing where it stands can be left out. -/
theorem takeUp_insert {start : α} {l : List (String × Json)} (r : List (String × Json))
    {key : String} {v : Json} (h : ∀ a, takeUp field start l = .ok a → field a key v = .ok a) :
    takeUp field start (l ++ (key, v) :: r) = takeUp field start (l ++ r) := by
  rw [takeUp_append, takeUp_append]
  cases hl : takeUp field start l with
  | error e => rfl
  | ok a => exact takeUp_field r (h a hl)

/-- Two values that a record reads alike can stand for each other. -/
theorem takeUp_replace (start : α) (l r : List (String × Json)) {key : String} {v w : Json}
    (h : ∀ a, field a key v = field a key w) :
    takeUp field start (l ++ (key, v) :: r) = takeUp field start (l ++ (key, w) :: r) := by
  rw [takeUp_append, takeUp_append]
  simp only [takeUp_cons, h]

/-- A change of the record that no field of a list sees can be made before or
after the list. -/
theorem takeUp_unset {unset : α → α} {fields : List (String × Json)}
    (h : ∀ f ∈ fields, ∀ a, field (unset a) f.1 f.2 = unset <$> field a f.1 f.2) (a : α) :
    takeUp field (unset a) fields = unset <$> takeUp field a fields := by
  induction fields generalizing a with
  | nil => rfl
  | cons f rest ih =>
    obtain ⟨hf, hrest⟩ := List.forall_mem_cons.1 h
    rw [takeUp_cons, takeUp_cons, hf a, map_bind, bind_map_left]
    exact bind_congr fun b => ih hrest b

/-- Null for a field that did not come before it changes nothing, as the field
is still unset. -/
theorem takeUp_null {unset : α → α} {start : α} {key : String}
    (hnull : ∀ a, field a key .null = .ok (unset a))
    (hother : ∀ a {k : String} v, k ≠ key → field (unset a) k v = unset <$> field a k v)
    (hstart : unset start = start) {l : List (String × Json)} (hnew : ∀ f ∈ l, f.1 ≠ key) {a : α}
    (h : takeUp field start l = .ok a) : field a key .null = .ok a := by
  have hsame := takeUp_unset (fun f hf a => hother a f.2 (hnew f hf)) start
  rw [hstart, h] at hsame
  have hunset : a = unset a := Except.ok.inj hsame
  rw [hnull, ← hunset]

/-! ## One key among the others -/

theorem lookup_field {γ : Type} (key k : String) (v : γ) (rest : List (String × γ)) :
    List.lookup key ((k, v) :: rest) = if key = k then some v else rest.lookup key := by
  by_cases h : key = k
  · simp [h]
  · simp [List.lookup_cons, beq_false_of_ne h, h]

theorem lookup_optional {α : Type} (key key' : String) (write : α → Json) (o : Option α) :
    (Encode.optional key' write o).lookup key = if key = key' then o.map write else none := by
  cases o with
  | none => simp [Encode.optional]
  | some a => exact lookup_field key key' (write a) []

/-- In an object without double keys, a field is found by its key. -/
theorem lookup_eq_some_iff_mem {γ : Type} {l : List (String × γ)} (h : (l.map Prod.fst).Nodup)
    {key : String} {v : γ} : l.lookup key = some v ↔ (key, v) ∈ l := by
  induction l with
  | nil => simp
  | cons f rest ih =>
    obtain ⟨hnew, hrest⟩ := List.nodup_cons.1 h
    obtain ⟨k, u⟩ := f
    by_cases hkey : key = k
    · subst hkey
      have hother : (key, v) ∉ rest := fun hmem => hnew (List.mem_map.2 ⟨_, hmem, rfl⟩)
      simp [hother, eq_comm]
    · rw [lookup_field, if_neg hkey]
      simp only [ih hrest, List.mem_cons, Prod.mk.injEq, hkey, false_and, false_or]

theorem countP_eq_zero_of_lookup {fields : List (String × Json)} {key : String}
    (h : fields.countP (·.1 = key) = 0) : fields.lookup key = none := by
  rw [List.countP_eq_zero] at h
  rw [List.lookup_eq_none_iff]
  intro f hf
  have hne : f.1 ≠ key := by simpa using h f hf
  simpa using hne.symm

/-- A part of a record that is read from the field of a key. Where there is no
such field, it is as it was before. -/
def ReadFrom (fields : List (String × Json)) (key : String) (read : Json → Decoded β)
    (before b : β) : Prop :=
  match fields.lookup key with
  | none => b = before
  | some v => read v = .ok b

theorem readFrom_iff {fields : List (String × Json)} {key : String} {read : Json → Decoded β}
    {before b : β} : ReadFrom fields key read before b ↔
      (fields.lookup key = none → b = before) ∧ ∀ v, fields.lookup key = some v → read v = .ok b := by
  unfold ReadFrom
  cases fields.lookup key <;> simp

theorem ReadFrom.unique {fields : List (String × Json)} {key : String}
    {read : Json → Decoded β} {before b c : β} (hb : ReadFrom fields key read before b)
    (hc : ReadFrom fields key read before c) : b = c := by
  unfold ReadFrom at hb hc
  cases hv : fields.lookup key with
  | none =>
    rw [hv] at hb hc
    exact hb.trans hc.symm
  | some v =>
    rw [hv] at hb hc
    exact Except.ok.inj (hb.symm.trans hc)

/-- A part of a record that only one key sets is read from the field of that key,
if the key is there no more than once. -/
theorem readFrom_of_takeUp {fields : List (String × Json)} {a b : α}
    (h : takeUp field a fields = .ok b) {key : String} (hone : fields.countP (·.1 = key) ≤ 1)
    {get : α → β} {read : Json → Decoded β}
    (hstep : ∀ {a b : α} {k : String} {v : Json}, field a k v = .ok b →
      if k = key then read v = .ok (get b) else get b = get a) :
    ReadFrom fields key read (get a) (get b) := by
  unfold ReadFrom
  induction fields generalizing a with
  | nil =>
    cases h
    rfl
  | cons f rest ih =>
    rw [takeUp_cons] at h
    cases hf : field a f.1 f.2 with
    | error e =>
      rw [hf] at h
      cases h
    | ok c =>
      rw [hf] at h
      have hset := hstep hf
      by_cases hkey : f.1 = key
      · -- the key does not come again
        have hzero : rest.countP (·.1 = key) = 0 := by
          rw [List.countP_cons_of_pos (by simpa using hkey)] at hone
          omega
        have hrest := ih h (by omega)
        rw [countP_eq_zero_of_lookup hzero] at hrest
        rw [if_pos hkey] at hset
        have hfound : (f :: rest).lookup key = some f.2 :=
          (lookup_field key f.1 f.2 rest).trans (if_pos hkey.symm)
        rw [hfound]
        exact hset.trans (congrArg Except.ok hrest.symm)
      · have hrest := ih h (by rwa [List.countP_cons_of_neg (by simpa using hkey)] at hone)
        rw [if_neg hkey] at hset
        have hskip : (f :: rest).lookup key = rest.lookup key :=
          (lookup_field key f.1 f.2 rest).trans (if_neg (Ne.symm hkey))
        rw [hskip]
        rw [hset] at hrest
        exact hrest

/-! ## Strict records -/

section

variable {want : String} {known required : List String} {start : α}
  {positional : List Json → Decoded α} {fields : List (String × Json)}

/-- A field that is not required can be put into a strict record if it changes
nothing where it stands, and does not write a known key again. -/
theorem strictRecord_insert {l r : List (String × Json)} {key : String} {v : Json}
    (hrequired : key ∉ required) (hnew : key ∈ known → ∀ f ∈ l ++ r, f.1 ≠ key)
    (h : ∀ a, takeUp field start l = .ok a → field a key v = .ok a) :
    Decode.strictRecord want known required field start positional (.obj (l ++ (key, v) :: r)) =
      Decode.strictRecord want known required field start positional (.obj (l ++ r)) := by
  have hcount : ∀ k ∈ known, (1 < (l ++ (key, v) :: r).countP (·.1 = k)) =
      (1 < (l ++ r).countP (·.1 = k)) := by
    intro k hk
    by_cases hkey : key = k
    · subst hkey
      have hzero : (l ++ r).countP (·.1 = key) = 0 := by
        rw [List.countP_eq_zero]
        intro f hf
        simpa using hnew hk f hf
      rw [hzero, List.countP_append, List.countP_cons_of_pos (by simp)]
      rw [List.countP_append] at hzero
      simp only [eq_iff_iff]
      omega
    · rw [List.countP_append, List.countP_append, List.countP_cons_of_neg (by simpa using hkey)]
  have hany : ∀ k ∈ required, (l ++ (key, v) :: r).any (·.1 = k) = (l ++ r).any (·.1 = k) := by
    intro k hk
    have hkey : key ≠ k := fun he => hrequired (he ▸ hk)
    simp [hkey]
  have htwice : (known.find? fun k => 1 < (l ++ (key, v) :: r).countP (·.1 = k)) =
      known.find? fun k => 1 < (l ++ r).countP (·.1 = k) :=
    List.find?_congr fun k hk => by simp only [hcount k hk]
  have hmissing : (required.find? fun k => !(l ++ (key, v) :: r).any (·.1 = k)) =
      required.find? fun k => !(l ++ r).any (·.1 = k) :=
    List.find?_congr fun k hk => by simp only [hany k hk]
  have hfields := takeUp_insert r h
  rw [takeUp, takeUp] at hfields
  unfold Decode.strictRecord
  simp only [htwice, hmissing, hfields]

/-- Two values that a strict record reads alike can stand for each other. -/
theorem strictRecord_replace (l r : List (String × Json)) {key : String} {v w : Json}
    (h : ∀ a, field a key v = field a key w) :
    Decode.strictRecord want known required field start positional (.obj (l ++ (key, v) :: r)) =
      Decode.strictRecord want known required field start positional
        (.obj (l ++ (key, w) :: r)) := by
  have hfields := takeUp_replace start l r h
  rw [takeUp, takeUp] at hfields
  unfold Decode.strictRecord
  simp only [List.countP_append, List.countP_cons, List.any_append, List.any_cons, hfields]

end

end ServingOperator
