-- The laws of reading and writing JSON forms. A reader reads back what its
-- writer writes, and this passes from the fields of a record to the record,
-- however many of its fields are unset.
import ServingOperator.Json.Decode

namespace ServingOperator

/-- `read` gets back every value that `write` writes. As `null` stands for
an unset value, `write` never writes it. -/
structure ReadsBack {α : Type} (read : Json → Decoded α) (write : α → Json) : Prop where
  read_write : ∀ a, read (write a) = .ok a
  write_ne_null : ∀ a, write a ≠ .null

namespace ReadsBack

variable {α β : Type}

theorem optional_write {read : Json → Decoded α} {write : α → Json} (h : ReadsBack read write)
    (a : α) : Decode.optional read (write a) = .ok (some a) := by
  have hnull := h.write_ne_null a
  have hread := h.read_write a
  cases hv : write a with
  | null => exact absurd hv hnull
  | _ => rw [hv] at hread; simp only [Decode.optional, hread]; rfl

/-! ## Single values -/

theorem text : ReadsBack Decode.text Encode.text := ⟨fun _ => rfl, fun _ => by simp [Encode.text]⟩

theorem flag : ReadsBack Decode.flag Encode.flag := ⟨fun _ => rfl, fun _ => by simp [Encode.flag]⟩

theorem int32 : ReadsBack Decode.int32 Encode.int32 := by
  refine ⟨fun n => ?_, fun _ => by simp [Encode.int32]⟩
  simp only [Encode.int32, Decode.int32]
  rw [if_pos ⟨n.minValue_le_toInt, n.toInt_le⟩, Int32.ofInt_toInt]

theorem int64 : ReadsBack Decode.int64 Encode.int64 := by
  refine ⟨fun n => ?_, fun _ => by simp [Encode.int64]⟩
  simp only [Encode.int64, Decode.int64]
  rw [if_pos ⟨n.minValue_le_toInt, n.toInt_le⟩, Int64.ofInt_toInt]

/-! ## Lists and maps -/

theorem list {read : Json → Decoded α} {write : α → Json} (h : ReadsBack read write) :
    ReadsBack (Decode.list read) (Encode.list write) := by
  refine ⟨fun l => ?_, fun _ => by simp [Encode.list]⟩
  simp only [Encode.list, Decode.list]
  induction l with
  | nil => rfl
  | cons a rest ih =>
    rw [List.map_cons, List.mapM_cons, h.read_write, ih]
    rfl

/-- The pairs of a rising list come back one after the other, each at the
end of those that came before. -/
theorem foldlM_entries (rest : List (String × String)) (m : TextMap)
    (h : Rising (m.entries ++ rest)) :
    (rest.map fun p => (p.1, Json.str p.2)).foldlM
      (fun (m : TextMap) f => (Decode.text f.2).map (m.insert f.1)) m =
        .ok ⟨m.entries ++ rest, h⟩ := by
  induction rest generalizing m with
  | nil => simp only [List.append_nil]; rfl
  | cons p rest ih =>
    have hlast : (m.insert p.1 p.2).entries = m.entries ++ [p] :=
      Pairs.insert_of_all_lt fun q hq => (List.pairwise_append.1 h).2.2 q hq p List.mem_cons_self
    have hrest : Rising ((m.insert p.1 p.2).entries ++ rest) := by
      rwa [hlast, List.append_assoc]
    rw [List.map_cons, List.foldlM_cons]
    refine (ih _ hrest).trans ?_
    simp only [hlast, List.append_assoc, List.singleton_append]

theorem textMap : ReadsBack Decode.textMap Encode.textMap :=
  ⟨fun m => foldlM_entries m.entries .empty m.rising, fun _ => by simp [Encode.textMap]⟩

/-! ## Records -/

/-- The fields of a record, taken up one after the other. -/
abbrev takeUp (field : α → String → Json → Decoded α) (a : α) (fields : List (String × Json)) :
    Decoded α := fields.foldlM (fun a f => field a f.1 f.2) a

theorem takeUp_field {field : α → String → Json → Decoded α} {a b : α} {key : String} {v : Json}
    (rest : List (String × Json)) (h : field a key v = .ok b) :
    takeUp field a ((key, v) :: rest) = takeUp field b rest := by
  rw [takeUp, List.foldlM_cons, h]
  rfl

/-- A field that always is written. Where it is missing, a default stands
for it. -/
theorem takeUp_always {field : α → String → Json → Decoded α} {read : Json → Decoded β}
    {write : β → Json} (h : ReadsBack read write) (set : α → β → α) {a : α} {key : String}
    {b missing : β} {rest : List (String × Json)}
    (hset : ∀ v, field a key v = (fun x => set a (x.getD missing)) <$> Decode.optional read v) :
    takeUp field a ((key, write b) :: rest) = takeUp field (set a b) rest := by
  apply takeUp_field rest
  rw [hset, h.optional_write]
  rfl

/-- A field that may be unset is set as it was written. If it was unset it
still is, as it was unset before. -/
theorem takeUp_optional {field : α → String → Json → Decoded α} {read : Json → Decoded β}
    {write : β → Json} (h : ReadsBack read write) (set : α → Option β → α) {a : α} {key : String}
    {o : Option β} {rest : List (String × Json)} (hunset : set a none = a)
    (hset : ∀ v, field a key v = set a <$> Decode.optional read v) :
    takeUp field a (Encode.optional key write o ++ rest) = takeUp field (set a o) rest := by
  cases o with
  | none => rw [hunset]; rfl
  | some b =>
    apply takeUp_field rest
    rw [hset, h.optional_write]
    rfl

theorem takeUp_optional_last {field : α → String → Json → Decoded α} {read : Json → Decoded β}
    {write : β → Json} (h : ReadsBack read write) (set : α → Option β → α) {a : α} {key : String}
    {o : Option β} (hunset : set a none = a)
    (hset : ∀ v, field a key v = set a <$> Decode.optional read v) :
    takeUp field a (Encode.optional key write o) = .ok (set a o) := by
  rw [← List.append_nil (Encode.optional key write o), h.takeUp_optional set hunset hset]
  rfl

/-- A record reads back if its fields, taken up from the start, give the
record that was written. -/
theorem ofFields {field : α → String → Json → Decoded α} {start : α} {want : String}
    {fields : α → List (String × Json)} (h : ∀ a, takeUp field start (fields a) = .ok a) :
    ReadsBack (Decode.record want field start) fun a => .obj (fields a) :=
  ⟨h, fun _ => by simp⟩

/-- In an object without double keys, a key is there no more than once. -/
theorem countP_le_one {γ : Type} {l : List (String × γ)} (h : (l.map Prod.fst).Nodup)
    (key : String) : l.countP (·.1 = key) ≤ 1 := by
  have hcount := List.nodup_iff_count.1 h key
  rw [List.count, List.countP_map] at hcount
  exact hcount

section

variable {field : α → String → Json → Decoded α} {start : α} {want : String}
  {known required : List String} {positional : List Json → Decoded α}
  {fields : List (String × Json)}

theorem written_once :
    (known.find? fun k => 1 < fields.countP (·.1 = k)) = none ↔
      ∀ k ∈ known, fields.countP (·.1 = k) ≤ 1 := by
  simp

theorem all_there :
    (required.find? fun k => !fields.any (·.1 = k)) = none ↔
      ∀ k ∈ required, ∃ f ∈ fields, f.1 = k := by
  simp

/-- A strict record that was read: no known key is there twice, each required
one is there, and the fields were taken up. -/
theorem strictRecord_eq_ok {a : α} :
    Decode.strictRecord want known required field start positional (.obj fields) = .ok a ↔
      (∀ k ∈ known, fields.countP (·.1 = k) ≤ 1) ∧ (∀ k ∈ required, ∃ f ∈ fields, f.1 = k) ∧
        takeUp field start fields = .ok a := by
  unfold Decode.strictRecord
  simp only
  split
  · next k htwice =>
    refine iff_of_false nofun ?_
    rintro ⟨hone, -⟩
    exact nomatch (written_once.2 hone).symm.trans htwice
  · next hnone =>
    have hone := written_once.1 hnone
    unfold takeUp
    cases fields.foldlM (fun a f => field a f.1 f.2) start with
    | error e => exact iff_of_false nofun fun h => nomatch h.2.2
    | ok b =>
      simp only [bind, Except.bind]
      split
      · next k hmissing =>
        refine iff_of_false nofun ?_
        rintro ⟨-, hall, -⟩
        exact nomatch (all_there.2 hall).symm.trans hmissing
      · next hnone' =>
        have hall := all_there.1 hnone'
        exact ⟨fun h => ⟨hone, hall, h⟩, fun h => h.2.2⟩

end

/-- A strict record reads back if moreover no key is written twice and every
required one is written. -/
theorem ofStrictFields {field : α → String → Json → Decoded α} {start : α} {want : String}
    {known required : List String} {positional : List Json → Decoded α}
    {fields : α → List (String × Json)} (hkeys : ∀ a, ((fields a).map Prod.fst).Nodup)
    (hrequired : ∀ a, ∀ k ∈ required, k ∈ (fields a).map Prod.fst)
    (h : ∀ a, takeUp field start (fields a) = .ok a) :
    ReadsBack (Decode.strictRecord want known required field start positional)
      fun a => .obj (fields a) := by
  refine ⟨fun a => strictRecord_eq_ok.2 ⟨fun k _ => countP_le_one (hkeys a) k, ?_, h a⟩,
    fun _ => by simp⟩
  intro k hk
  exact List.mem_map.1 (hrequired a k hk)

/-- An optional field writes its key or nothing. -/
theorem keys_optional (key : String) (write : β → Json) (o : Option β) :
    ((Encode.optional key write o).map Prod.fst).Sublist [key] := by
  cases o <;> simp [Encode.optional]

end ReadsBack

end ServingOperator
