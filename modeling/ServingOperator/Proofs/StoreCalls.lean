-- The laws of calls to a store. A store first decides, without looking at
-- any object, whether a call hangs, fails or is served. A call that is
-- served does what the API server would do. From this comes what any
-- sequence of operations keeps, whoever makes them.
import ServingOperator.Proofs.StoredObjects

namespace ServingOperator.Store

variable {s t u : Store} {k k' : Kind} {i i' : Identity}

/-! ## How a call is treated -/

inductive Treatment where
  | hangs
  | fails (e : PlaneError)
  | serves
  deriving DecidableEq, Repr

/-- How a store treats a call. To hang comes before to fail. -/
def treatment (s : Store) (c : CallRecord) : Treatment :=
  if s.hanging.contains (c.verb, c.kind) then .hangs
  else
    match s.failures.lookup (c.verb, c.kind) with
    | some e => .fails e
    | none => .serves

/-- The store with one more call recorded. -/
def record (s : Store) (c : CallRecord) : Store := { s with calls := s.calls ++ [c] }

theorem step_eq {α : Type} (s : Store) (c : CallRecord)
    (act : Store → Except (Report PlaneError) α × Store) :
    s.step c act =
      match s.treatment c with
      | .hangs => (.hangs, s.record c)
      | .fails e => (.answers (.error (.of e)), s.record c)
      | .serves => (.answers (act (s.record c)).1, (act (s.record c)).2) := by
  unfold step treatment
  by_cases hh : (c.verb, c.kind) ∈ s.hanging
  · simp only [hh, List.contains_iff_mem, if_true]
    rfl
  · simp only [hh, List.contains_iff_mem, if_false]
    rcases hf : s.failures.lookup (c.verb, c.kind) with _ | e
    · rfl
    · rfl

theorem stored?_record (s : Store) (c : CallRecord) (k : Kind) (i : Identity) :
    (s.record c).stored? k i = s.stored? k i := rfl

theorem change_record (s : Store) (c : CallRecord) : s.Change (s.record c) := .same rfl rfl

theorem Good.record (h : s.Good) (c : CallRecord) : (s.record c).Good := (s.change_record c).good h

/-! ## The calls of a good store -/

theorem plane_get (h : s.Good) (k : Kind) (i : Identity) :
    plane (.get k i) s =
      match s.treatment ⟨.get, k, i⟩ with
      | .hangs => (.hangs, s.record ⟨.get, k, i⟩)
      | .fails e => (.answers (.error (.of e)), s.record ⟨.get, k, i⟩)
      | .serves => (.answers (.ok (s.stored? k i)), s.record ⟨.get, k, i⟩) := by
  simp only [plane, step_eq]
  rw [(h.record ⟨.get, k, i⟩).load_eq]
  rfl

/-- A create that is served needs a free key. -/
theorem plane_create (h : s.Good) {o : k.Object} (hi : Kind.identity? o = .ok i) :
    plane (.create k o) s =
      match s.treatment ⟨.create, k, i⟩ with
      | .hangs => (.hangs, s.record ⟨.create, k, i⟩)
      | .fails e => (.answers (.error (.of e)), s.record ⟨.create, k, i⟩)
      | .serves =>
        match s.stored? k i with
        | some _ => (.answers (.error (.of (.conflict k i))), s.record ⟨.create, k, i⟩)
        | none => (.answers (.ok (withVersion o s.nextVersion)),
            (s.keep i o).2.record ⟨.create, k, i⟩) := by
  simp only [plane, hi, step_eq, create]
  rw [(h.record ⟨.create, k, i⟩).find?_eq, stored?_record]
  cases s.treatment ⟨.create, k, i⟩ with
  | serves => cases s.stored? k i <;> rfl
  | _ => rfl

/-- A replace that is served needs the object whose version it names. -/
theorem plane_replace (h : s.Good) {o : k.Object} (hi : Kind.identity? o = .ok i) :
    plane (.replace k o) s =
      match s.treatment ⟨.replace, k, i⟩ with
      | .hangs => (.hangs, s.record ⟨.replace, k, i⟩)
      | .fails e => (.answers (.error (.of e)), s.record ⟨.replace, k, i⟩)
      | .serves =>
        match s.stored? k i with
        | none => (.answers (.error (.of (.rejected k i 404 "NotFound"))),
            s.record ⟨.replace, k, i⟩)
        | some current =>
          if versionOf current = versionOf o then
            (.answers (.ok (withVersion o s.nextVersion)), (s.keep i o).2.record ⟨.replace, k, i⟩)
          else (.answers (.error (.of (.conflict k i))), s.record ⟨.replace, k, i⟩) := by
  simp only [plane, hi, step_eq, replace]
  rw [(h.record ⟨.replace, k, i⟩).load_eq, stored?_record]
  cases s.treatment ⟨.replace, k, i⟩ with
  | serves =>
    cases s.stored? k i with
    | none => rfl
    | some current =>
      by_cases hv : versionOf current = versionOf o
      · simp only [hv, ne_eq, not_true_eq_false, if_false, if_true]
        rfl
      · simp only [hv, ne_eq, not_false_eq_true, if_false, if_true]
  | _ => rfl

/-! ## Answers of a good store -/

section

variable {o : k.Object}

theorem Good.found (h : s.Good) {a : Option k.Object}
    (hget : (plane (.get k i) s).1 = .answers (.ok a)) : s.stored? k i = a := by
  rw [plane_get h] at hget
  cases htreat : s.treatment ⟨.get, k, i⟩ <;> rw [htreat] at hget <;> cases hget
  rfl

/-- A write that is answered with `a` has stored its object, with the next
version. -/
structure Wrote (s t : Store) (i : Identity) (o a : k.Object) : Prop where
  answer : a = withVersion o s.nextVersion
  counter : t.counter = s.counter + 1
  stored : t.stored? k i = some (withVersion o s.nextVersion)

theorem wrote_keep (s : Store) (i : Identity) (o : k.Object) (c : CallRecord) :
    Wrote s ((s.keep i o).2.record c) i o (withVersion o s.nextVersion) :=
  ⟨rfl, rfl, s.stored?_keep_self i o⟩

theorem Good.created (h : s.Good) (hi : Kind.identity? o = .ok i) {a : k.Object}
    (hcreate : (plane (.create k o) s).1 = .answers (.ok a)) :
    s.stored? k i = none ∧ Wrote s (plane (.create k o) s).2 i o a := by
  rw [plane_create h hi] at hcreate ⊢
  cases htreat : s.treatment ⟨.create, k, i⟩ <;> rw [htreat] at hcreate
  case serves =>
    cases hstored : s.stored? k i <;> rw [hstored] at hcreate
    case none =>
      cases hcreate
      exact ⟨rfl, s.wrote_keep i o _⟩
    case some => cases hcreate
  all_goals cases hcreate

theorem Good.replaced (h : s.Good) (hi : Kind.identity? o = .ok i) {a : k.Object}
    (hreplace : (plane (.replace k o) s).1 = .answers (.ok a)) :
    (∃ current, s.stored? k i = some current ∧ versionOf current = versionOf o) ∧
      Wrote s (plane (.replace k o) s).2 i o a := by
  rw [plane_replace h hi] at hreplace ⊢
  cases htreat : s.treatment ⟨.replace, k, i⟩ <;> rw [htreat] at hreplace
  case serves =>
    cases hstored : s.stored? k i <;> rw [hstored] at hreplace
    case none => cases hreplace
    case some current =>
      by_cases hv : versionOf current = versionOf o
      · simp only [hv, if_true] at hreplace ⊢
        cases hreplace
        exact ⟨⟨current, rfl, hv⟩, s.wrote_keep i o _⟩
      · simp only [hv, if_false] at hreplace
        cases hreplace
  all_goals cases hreplace

end

/-! ## Operations in sequence -/

theorem change_create (s : Store) (c : CallRecord) {o : k.Object} (hi : Kind.identity? o = .ok i) :
    s.Change ((s.record c).create i o).2 := by
  unfold create
  rcases (s.record c).find? ⟨k, i⟩ with _ | v
  · exact .kept i o hi rfl rfl
  · exact s.change_record c

theorem change_replace (s : Store) (c : CallRecord) {o : k.Object}
    (hi : Kind.identity? o = .ok i) : s.Change ((s.record c).replace i o).2 := by
  unfold replace
  rcases (s.record c).load k i with r | current
  · exact s.change_record c
  · rcases current with _ | current
    · exact s.change_record c
    · simp only
      split
      · exact s.change_record c
      · exact .kept i o hi rfl rfl

/-- A call that is served acts on the store with the call recorded, and any
other call leaves the objects alone. -/
theorem change_step {α : Type} {c : CallRecord}
    {act : Store → Except (Report PlaneError) α × Store} (h : s.Change (act (s.record c)).2) :
    s.Change (s.step c act).2 := by
  rw [step_eq]
  cases s.treatment c with
  | serves => exact h
  | _ => exact s.change_record c

theorem change_plane (s : Store) (call : Call) : s.Change (plane call s).2 := by
  cases call with
  | get k i => exact change_step (s.change_record _)
  | create k o =>
    rcases hi : Kind.identity? o with r | i
    · simp only [plane, hi]
      exact .same rfl rfl
    · simp only [plane, hi]
      exact change_step (s.change_create _ hi)
  | replace k o =>
    rcases hi : Kind.identity? o with r | i
    · simp only [plane, hi]
      exact .same rfl rfl
    · simp only [plane, hi]
      exact change_step (s.change_replace _ hi)

theorem change_perform (s : Store) (op : Operation) : s.Change (s.perform op) := by
  cases op with
  | insert k o =>
    rcases hi : Kind.identity? o with r | i
    · simp only [perform, insert, hi, Except.map]
      exact .same rfl rfl
    · simp only [perform, insert, hi, Except.map]
      exact .kept i o hi rfl rfl
  | remove k i => exact .dropped k i rfl rfl
  | call c => exact s.change_plane c
  | _ => exact .same rfl rfl

/-- The call writes the object. -/
inductive Writes {k : Kind} (o : k.Object) : Call → Prop
  | create : Writes o (.create k o)
  | replace : Writes o (.replace k o)

theorem Writes.kind_eq {o : k.Object} {call : Call} (h : Writes o call) : call.kind = k := by
  cases h <;> rfl

theorem Writes.verb_ne_get {o : k.Object} {call : Call} (h : Writes o call) :
    call.verb ≠ .get := by
  cases h <;> simp [Call.verb]

theorem Writes.identity?_eq {o : k.Object} {call : Call} (h : Writes o call) :
    call.identity? = Kind.identity? o := by
  cases h <;> rfl

/-- What a call leaves under a key is what was there, or the call has written
it there. -/
theorem stored?_plane (h : s.Good) (call : Call) (k : Kind) (i : Identity) :
    (plane call s).2.stored? k i = s.stored? k i ∨
      ∃ (o : k.Object) (a : call.Answer), Writes o call ∧ Kind.identity? o = .ok i ∧
        (plane call s).1 = .answers (.ok a) ∧
        (plane call s).2.stored? k i = some (withVersion o s.nextVersion) := by
  cases call with
  | get k' i' =>
    left
    rw [plane_get h]
    cases s.treatment ⟨.get, k', i'⟩ <;> rfl
  | create k' o =>
    rcases hi : Kind.identity? o with r | i'
    · left
      simp only [plane, hi]
    · rw [plane_create h hi]
      cases s.treatment ⟨.create, k', i'⟩ with
      | serves =>
        cases s.stored? k' i' with
        | none =>
          by_cases hkey : (⟨k, i⟩ : Key) = ⟨k', i'⟩
          · cases hkey
            exact .inr ⟨o, _, .create, hi, rfl, s.stored?_keep_self i o⟩
          · exact .inl (s.stored?_keep_ne o hkey)
        | some current => exact .inl rfl
      | _ => exact .inl rfl
  | replace k' o =>
    rcases hi : Kind.identity? o with r | i'
    · left
      simp only [plane, hi]
    · rw [plane_replace h hi]
      cases s.treatment ⟨.replace, k', i'⟩ with
      | serves =>
        cases s.stored? k' i' with
        | none => exact .inl rfl
        | some current =>
          by_cases hv : versionOf current = versionOf o
          · simp only [hv, if_true]
            by_cases hkey : (⟨k, i⟩ : Key) = ⟨k', i'⟩
            · cases hkey
              exact .inr ⟨o, _, .replace, hi, rfl, s.stored?_keep_self i o⟩
            · exact .inl (s.stored?_keep_ne o hkey)
          · simp only [hv, if_false]
            exact .inl rfl
      | _ => exact .inl rfl

/-- A call leaves all objects of other kinds as they are. -/
theorem stored?_plane_ne (h : s.Good) (call : Call) (hk : k ≠ call.kind) (i : Identity) :
    (plane call s).2.stored? k i = s.stored? k i := by
  rcases stored?_plane h call k i with hsame | ⟨o, _, hwrites, _⟩
  · exact hsame
  · exact absurd hwrites.kind_eq.symm hk

/-- A call about an object that says who it is is recorded. -/
theorem calls_plane (h : s.Good) {call : Call} (hi : call.identity? = .ok i) :
    (plane call s).2.calls = s.calls ++ [⟨call.verb, call.kind, i⟩] := by
  cases call with
  | get k' i' =>
    cases hi
    rw [plane_get h]
    cases s.treatment ⟨.get, k', i⟩ <;> rfl
  | create k' o =>
    rw [plane_create h hi]
    cases s.treatment ⟨.create, k', i⟩ with
    | serves => cases s.stored? k' i <;> rfl
    | _ => rfl
  | replace k' o =>
    rw [plane_replace h hi]
    cases s.treatment ⟨.replace, k', i⟩ with
    | serves =>
      cases s.stored? k' i with
      | none => rfl
      | some current =>
        by_cases hv : versionOf current = versionOf o
        · simp only [hv, if_true]
          rfl
        · simp only [hv, if_false]
          rfl
    | _ => rfl

/-! ## Faults -/

/-- The same calls are made to fail or to hang. -/
def SameFaults (s t : Store) : Prop := t.failures = s.failures ∧ t.hanging = s.hanging

theorem sameFaults_step {α : Type} (s : Store) (c : CallRecord)
    {act : Store → Except (Report PlaneError) α × Store}
    (h : SameFaults (s.record c) (act (s.record c)).2) : SameFaults s (s.step c act).2 := by
  rw [step_eq]
  cases s.treatment c with
  | serves => exact h
  | hangs | fails => exact ⟨rfl, rfl⟩

theorem sameFaults_create {k : Kind} (s : Store) (i : Identity) (o : k.Object) :
    SameFaults s (s.create i o).2 := by
  unfold create
  cases s.find? ⟨k, i⟩ <;> exact ⟨rfl, rfl⟩

theorem sameFaults_replace {k : Kind} (s : Store) (i : Identity) (o : k.Object) :
    SameFaults s (s.replace i o).2 := by
  unfold replace
  rcases s.load k i with r | _ | current
  · exact ⟨rfl, rfl⟩
  · exact ⟨rfl, rfl⟩
  · simp only
    split <;> exact ⟨rfl, rfl⟩

/-- No call changes which calls are made to fail or to hang. -/
theorem sameFaults_plane (s : Store) (call : Call) : SameFaults s (plane call s).2 := by
  cases call with
  | get k i => exact sameFaults_step s _ ⟨rfl, rfl⟩
  | create k o =>
    rcases hi : Kind.identity? o with r | i
    · simp only [plane, hi]
      exact ⟨rfl, rfl⟩
    · simp only [plane, hi]
      exact sameFaults_step s _ (sameFaults_create _ i o)
  | replace k o =>
    rcases hi : Kind.identity? o with r | i
    · simp only [plane, hi]
      exact ⟨rfl, rfl⟩
    · simp only [plane, hi]
      exact sameFaults_step s _ (sameFaults_replace _ i o)

/-! ## States that operations lead to -/

/-- `t` comes from `s` by operations. -/
inductive Later (s : Store) : Store → Prop
  | refl : Later s s
  | perform {t : Store} (op : Operation) : Later s t → Later s (t.perform op)

/-- Every state that operations lead to from the empty store. The calls of
a pass are operations too. -/
def Reachable (s : Store) : Prop := empty.Later s

theorem Later.trans (h : s.Later t) (h' : t.Later u) : s.Later u := by
  induction h' with
  | refl => exact h
  | perform op _ ih => exact ih.perform op

theorem Later.good (h : s.Later t) (hs : s.Good) : t.Good := by
  induction h with
  | refl => exact hs
  | perform op _ ih => exact (change_perform _ op).good ih

theorem Reachable.good (h : s.Reachable) : s.Good := Later.good h good_empty

theorem Change.counter_le (h : s.Change t) : s.counter ≤ t.counter := by
  cases h <;> omega

theorem Later.counter_le (h : s.Later t) : s.counter ≤ t.counter := by
  induction h with
  | refl => exact Nat.le_refl _
  | perform op _ ih => exact Nat.le_trans ih (change_perform _ op).counter_le

/-- What is stored under a key after a step is what was there before, or
nothing, or an object with the next version. -/
theorem Change.stored? (h : s.Change t) (k : Kind) (i : Identity) :
    t.stored? k i = s.stored? k i ∨ t.stored? k i = none ∨
      ∃ o : k.Object, t.stored? k i = some (withVersion o s.nextVersion) := by
  cases h with
  | same ho hc => exact .inl (stored?_of_objects ho k i)
  | @kept k' i' o hi ho hc =>
    rw [stored?_of_objects ho]
    by_cases hkey : (⟨k, i⟩ : Key) = ⟨k', i'⟩
    · cases hkey
      exact .inr (.inr ⟨o, s.stored?_keep_self i o⟩)
    · exact .inl (s.stored?_keep_ne o hkey)
  | dropped k' i' ho hc =>
    rw [stored?_of_objects ho]
    by_cases hkey : (⟨k, i⟩ : Key) = ⟨k', i'⟩
    · exact .inr (.inl (stored?_of_find?_none (by rw [hkey, remove, find?_drop_self])))
    · exact .inl (stored?_congr (s.find?_drop_ne hkey))

/-- The object has a version that was given after the store was `s`. -/
def NewerThan (s : Store) (o : k.Object) : Prop :=
  ∃ n, versionOf o = some (toString n) ∧ s.counter < n

/-- What is stored under a key later on is what is there now, or newer. -/
theorem Later.stored? (h : s.Later t) (k : Kind) (i : Identity) :
    t.stored? k i = s.stored? k i ∨ ∀ o, t.stored? k i = some o → s.NewerThan o := by
  induction h with
  | refl => exact .inl rfl
  | @perform t op hst ih =>
    rcases (change_perform t op).stored? k i with hsame | hnone | ⟨o, hnew⟩
    · rw [hsame]
      exact ih
    · right
      intro o ho
      rw [hnone] at ho
      cases ho
    · right
      intro o' ho'
      rw [hnew] at ho'
      cases ho'
      exact ⟨t.counter + 1, versionOf_withVersion _ _, Nat.lt_succ_of_le hst.counter_le⟩

/-- A newer object does not have the version of one that was stored before. -/
theorem NewerThan.versionOf_ne {o o' : k.Object} (h : s.NewerThan o') (ho : s.Stamped i o) :
    versionOf o' ≠ versionOf o := by
  obtain ⟨m, hm, hlt⟩ := h
  obtain ⟨n, hn, _, hle⟩ := ho.version
  rw [hm, hn]
  intro he
  have hmn : m = n := toString_inj.1 (Option.some.inj he)
  omega

/-- The law behind all writes: if the object under a key still has the
version that was read, it is the object that was read. -/
theorem Later.eq_of_versionOf_eq (h : s.Later t) (hs : s.Good) {o o' : k.Object}
    (ho : s.stored? k i = some o) (ho' : t.stored? k i = some o')
    (hv : versionOf o' = versionOf o) : o' = o := by
  rcases h.stored? k i with hsame | hnewer
  · rw [hsame, ho] at ho'
    exact (Option.some.inj ho').symm
  · exact absurd hv ((hnewer o' ho').versionOf_ne (hs.stamped ho))

end ServingOperator.Store
