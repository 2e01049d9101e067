-- The laws of a store as a map. A store keeps JSON under keys, but whoever makes
-- requests of it sees a plain map from keys to typed objects, with one counter
-- for all versions. The map is told here apart from the store, and the two answer
-- every sequence of requests alike.
import Mathlib.Logic.Function.Basic
import ServingOperator.Proofs.StoreCalls

namespace ServingOperator

/-! ## Requests -/

/-- What can be asked of a store: what others do to it, a look at what is under a
key, and a call. -/
inductive Request where
  | insert (k : Kind) (o : k.Object)
  | remove (k : Kind) (i : Identity)
  | look (k : Kind) (i : Identity)
  | failOn (verb : Verb) (k : Kind) (e : PlaneError)
  | clearFailures
  | hangOn (verb : Verb) (k : Kind)
  | call (c : Call)

/-- What a request is answered with. Only an object without a name or a namespace
cannot be inserted, and a look fails at what is no object. -/
abbrev Request.Answer : Request → Type
  | insert k _ => Except (Report PlaneError) k.Object
  | look k _ => Except (Report PlaneError) (Option k.Object)
  | call c => Served c.Answer
  | _ => Unit

/-- A request with its answer. -/
abbrev Exchange := (r : Request) × r.Answer

/-- What answers requests, one after the other. -/
structure Machine (σ : Type) where
  start : σ
  respond : σ → (r : Request) → r.Answer × σ

/-- The exchanges of a machine, and the state it is in then. The latest request
stands first, and so does the latest exchange. -/
def Machine.run {σ : Type} (m : Machine σ) : List Request → List Exchange × σ
  | [] => ([], m.start)
  | r :: before =>
    let (past, s) := m.run before
    let (answer, s) := m.respond s r
    (⟨r, answer⟩ :: past, s)

/-! ## The map -/

/-- A map from keys to objects of their kinds. -/
@[ext]
structure TypedMap where
  objects : (key : Key) → Option key.kind.Object
  /-- The version given last. -/
  counter : Nat
  calls : List CallRecord
  failing : Verb → Kind → Option PlaneError
  hanging : Verb → Kind → Bool

namespace TypedMap

def empty : TypedMap := ⟨fun _ => none, 0, [], fun _ _ => none, fun _ _ => false⟩

/-- An object with the next version. -/
def stamped (m : TypedMap) {k : Kind} (o : k.Object) : k.Object :=
  Kind.withMetadata o
    { Kind.metadata o with resourceVersion := some (toString (m.counter + 1)) }

/-- The map with an object under a key. -/
def put (m : TypedMap) {k : Kind} (i : Identity) (o : k.Object) : TypedMap :=
  { m with
    objects := Function.update m.objects ⟨k, i⟩ (some (m.stamped o))
    counter := m.counter + 1 }

/-- The map with nothing under a key. -/
def drop (m : TypedMap) (key : Key) : TypedMap :=
  { m with objects := Function.update m.objects key none }

/-- The map with one more call recorded. -/
def record (m : TypedMap) (c : CallRecord) : TypedMap := { m with calls := m.calls ++ [c] }

/-- A call is recorded, and done unless it hangs or fails. -/
def serve {α : Type} (m : TypedMap) (c : CallRecord)
    (act : Except (Report PlaneError) α × TypedMap) : Served α × TypedMap :=
  if m.hanging c.verb c.kind then (.hangs, m.record c)
  else
    match m.failing c.verb c.kind with
    | some e => (.answers (.error (.of e)), m.record c)
    | none => (.answers act.1, act.2.record c)

/-- An object is created under a free key. -/
def create (m : TypedMap) {k : Kind} (i : Identity) (o : k.Object) :
    Except (Report PlaneError) k.Object × TypedMap :=
  match m.objects ⟨k, i⟩ with
  | none => (.ok (m.stamped o), m.put i o)
  | some _ => (.error (.of (.conflict k i)), m)

/-- An object is replaced by one that names its version. -/
def replace (m : TypedMap) {k : Kind} (i : Identity) (o : k.Object) :
    Except (Report PlaneError) k.Object × TypedMap :=
  match m.objects ⟨k, i⟩ with
  | none => (.error (.of (.rejected k i 404 "NotFound")), m)
  | some current =>
    if (Kind.metadata current).resourceVersion = (Kind.metadata o).resourceVersion then
      (.ok (m.stamped o), m.put i o)
    else (.error (.of (.conflict k i)), m)

/-- An object that does not say who it is is refused, and nothing is recorded. -/
def respond (m : TypedMap) : (r : Request) → r.Answer × TypedMap
  | .insert _ o =>
    match Kind.identity? o with
    | .error r => (.error r, m)
    | .ok i => (.ok (m.stamped o), m.put i o)
  | .remove k i => ((), m.drop ⟨k, i⟩)
  | .look k i => (.ok (m.objects ⟨k, i⟩), m)
  | .failOn verb k e =>
    ((), { m with failing := fun v k' => if v = verb ∧ k' = k then some e else m.failing v k' })
  | .clearFailures => ((), { m with failing := fun _ _ => none })
  | .hangOn verb k =>
    ((), { m with hanging := fun v k' => if v = verb ∧ k' = k then true else m.hanging v k' })
  | .call (.get k i) => m.serve ⟨.get, k, i⟩ (.ok (m.objects ⟨k, i⟩), m)
  | .call (.create k o) =>
    match Kind.identity? o with
    | .error r => (.answers (.error r), m)
    | .ok i => m.serve ⟨.create, k, i⟩ (m.create i o)
  | .call (.replace k o) =>
    match Kind.identity? o with
    | .error r => (.answers (.error r), m)
    | .ok i => m.serve ⟨.replace, k, i⟩ (m.replace i o)

/-- The map as a machine. -/
def machine : Machine TypedMap := ⟨empty, respond⟩

section

variable (m : TypedMap) {k : Kind} (i : Identity) (o : k.Object)

theorem put_self : (m.put i o).objects ⟨k, i⟩ = some (m.stamped o) :=
  Function.update_self (⟨k, i⟩ : Key) _ m.objects

theorem put_ne {key : Key} (h : key ≠ ⟨k, i⟩) : (m.put i o).objects key = m.objects key :=
  Function.update_of_ne h _ m.objects

theorem drop_self (key : Key) : (m.drop key).objects key = none :=
  Function.update_self key _ m.objects

theorem drop_ne {key key' : Key} (h : key' ≠ key) :
    (m.drop key).objects key' = m.objects key' :=
  Function.update_of_ne h _ m.objects

end

end TypedMap

/-! ## The store as a map -/

namespace Store

def respond (s : Store) : (r : Request) → r.Answer × Store
  | .insert _ o =>
    match s.insert o with
    | .error r => (.error r, s)
    | .ok (o, s) => (.ok o, s)
  | .remove k i => ((), s.remove k i)
  | .look k i => (s.load k i, s)
  | .failOn verb k e => ((), s.failOn verb k e)
  | .clearFailures => ((), s.clearFailures)
  | .hangOn verb k => ((), s.hangOn verb k)
  | .call c => plane c s

/-- The store as a machine. -/
def machine : Machine Store := ⟨empty, respond⟩

/-- The map that a store is seen as. -/
def typed (s : Store) : TypedMap where
  objects := fun key => s.stored? key.kind key.identity
  counter := s.counter
  calls := s.calls
  failing := fun verb k => s.failures.lookup (verb, k)
  hanging := fun verb k => s.hanging.contains (verb, k)

variable {s : Store} {k : Kind}

theorem typed_record (s : Store) (c : CallRecord) :
    (s.record c).typed = s.typed.record c := rfl

theorem typed_keep (s : Store) (i : Identity) (o : k.Object) :
    (s.keep i o).2.typed = s.typed.put i o := by
  refine TypedMap.ext ?_ rfl rfl rfl rfl
  funext key
  by_cases hkey : key = ⟨k, i⟩
  · subst hkey
    exact (s.stored?_keep_self i o).trans (s.typed.put_self i o).symm
  · exact (s.stored?_keep_ne o hkey).trans (s.typed.put_ne i o hkey).symm

theorem typed_remove (s : Store) (k : Kind) (i : Identity) :
    (s.remove k i).typed = s.typed.drop ⟨k, i⟩ := by
  refine TypedMap.ext ?_ rfl rfl rfl rfl
  funext key
  by_cases hkey : key = ⟨k, i⟩
  · subst hkey
    exact (stored?_of_find?_none (s.find?_drop_self _)).trans (s.typed.drop_self ⟨k, i⟩).symm
  · exact (stored?_congr (s.find?_drop_ne hkey)).trans (s.typed.drop_ne hkey).symm

theorem typed_failOn (s : Store) (verb : Verb) (k : Kind) (e : PlaneError) :
    (s.failOn verb k e).typed = (s.typed.respond (.failOn verb k e)).2 := by
  refine TypedMap.ext rfl rfl rfl ?_ rfl
  funext v k'
  by_cases hcall : (v, k') = (verb, k)
  · cases hcall
    simp [typed, failOn, TypedMap.respond]
  · have hne : ((v, k') == (verb, k)) = false := by simpa using hcall
    have hrest := lookup_filter_ne s.failures hcall
    rw [Prod.mk.injEq] at hcall
    simp only [typed, failOn, TypedMap.respond, List.lookup_cons, hne, if_neg hcall]
    exact hrest

theorem typed_hangOn (s : Store) (verb : Verb) (k : Kind) :
    (s.hangOn verb k).typed = (s.typed.respond (.hangOn verb k)).2 := by
  refine TypedMap.ext rfl rfl rfl rfl ?_
  funext v k'
  simp [typed, hangOn, TypedMap.respond]

theorem typed_serve {α : Type} (s : Store) (c : CallRecord)
    (act : Except (Report PlaneError) α × TypedMap) :
    s.typed.serve c act =
      match s.treatment c with
      | .hangs => (.hangs, s.typed.record c)
      | .fails e => (.answers (.error (.of e)), s.typed.record c)
      | .serves => (.answers act.1, act.2.record c) := by
  have hhanging : s.typed.hanging c.verb c.kind = s.hanging.contains (c.verb, c.kind) := rfl
  have hfailing : s.typed.failing c.verb c.kind = s.failures.lookup (c.verb, c.kind) := rfl
  unfold TypedMap.serve treatment
  rw [hhanging, hfailing]
  cases s.hanging.contains (c.verb, c.kind) with
  | true => rfl
  | false => cases s.failures.lookup (c.verb, c.kind) <;> rfl

/-- The request has the same answer from the store and from the map that it is
seen as, and does the same to both. -/
def Alike (s : Store) (r : Request) : Prop :=
  (s.respond r).1 = (s.typed.respond r).1 ∧ (s.respond r).2.typed = (s.typed.respond r).2

theorem alike_insert (s : Store) (o : k.Object) : s.Alike (.insert k o) := by
  unfold Alike
  cases hi : Kind.identity? o with
  | error r => simp [respond, TypedMap.respond, insert, hi, Except.map]
  | ok i =>
    simp only [respond, TypedMap.respond, insert, hi, Except.map]
    exact ⟨rfl, s.typed_keep i o⟩

theorem alike_get (h : s.Good) (k : Kind) (i : Identity) : s.Alike (.call (.get k i)) := by
  unfold Alike
  simp only [respond, TypedMap.respond]
  rw [plane_get h, typed_serve]
  cases s.treatment ⟨.get, k, i⟩ <;> exact ⟨rfl, rfl⟩

theorem alike_create (h : s.Good) (o : k.Object) : s.Alike (.call (.create k o)) := by
  unfold Alike
  cases hi : Kind.identity? o with
  | error r => simp only [respond, TypedMap.respond, plane, hi, and_self]
  | ok i =>
    simp only [respond, TypedMap.respond, hi]
    rw [plane_create h hi, typed_serve]
    cases s.treatment ⟨.create, k, i⟩ with
    | serves =>
      have hobject : s.typed.objects ⟨k, i⟩ = s.stored? k i := rfl
      simp only [TypedMap.create, hobject]
      cases s.stored? k i with
      | some current => exact ⟨rfl, rfl⟩
      | none =>
        refine ⟨rfl, ?_⟩
        show ((s.keep i o).2.record _).typed = (s.typed.put i o).record _
        rw [typed_record, typed_keep]
    | _ => exact ⟨rfl, rfl⟩

theorem alike_replace (h : s.Good) (o : k.Object) : s.Alike (.call (.replace k o)) := by
  unfold Alike
  cases hi : Kind.identity? o with
  | error r => simp only [respond, TypedMap.respond, plane, hi, and_self]
  | ok i =>
    simp only [respond, TypedMap.respond, hi]
    rw [plane_replace h hi, typed_serve]
    cases s.treatment ⟨.replace, k, i⟩ with
    | serves =>
      have hobject : s.typed.objects ⟨k, i⟩ = s.stored? k i := rfl
      simp only [TypedMap.replace, hobject]
      cases s.stored? k i with
      | none => exact ⟨rfl, rfl⟩
      | some current =>
        by_cases hv : versionOf current = versionOf o
        · simp only [hv, if_true]
          refine ⟨rfl, ?_⟩
          show ((s.keep i o).2.record _).typed = (s.typed.put i o).record _
          rw [typed_record, typed_keep]
        · simp only [hv, if_false]
          exact ⟨trivial, rfl⟩
    | _ => exact ⟨rfl, rfl⟩

/-- A good store answers every request as the map does that it is seen as. -/
theorem Good.alike (h : s.Good) (r : Request) : s.Alike r := by
  cases r with
  | insert k o => exact s.alike_insert o
  | remove k i => exact ⟨rfl, s.typed_remove k i⟩
  | look k i => exact ⟨h.load_eq k i, rfl⟩
  | failOn verb k e => exact ⟨rfl, s.typed_failOn verb k e⟩
  | clearFailures => exact ⟨rfl, rfl⟩
  | hangOn verb k => exact ⟨rfl, s.typed_hangOn verb k⟩
  | call c =>
    cases c with
    | get k i => exact alike_get h k i
    | create k o => exact alike_create h o
    | replace k o => exact alike_replace h o

/-! ## Runs -/

theorem respond_insert (s : Store) (o : k.Object) :
    (s.respond (.insert k o)).2 = s.perform (.insert k o) := by
  cases hinsert : s.insert o <;> simp only [respond, perform, hinsert]

theorem change_respond (s : Store) (r : Request) : s.Change (s.respond r).2 := by
  cases r with
  | insert k o =>
    rw [respond_insert]
    exact s.change_perform _
  | remove k i => exact s.change_perform (.remove k i)
  | call c => exact s.change_plane c
  | _ => exact .same rfl rfl

theorem good_run (requests : List Request) : (machine.run requests).2.Good := by
  induction requests with
  | nil => exact good_empty
  | cons r before ih => exact (change_respond _ r).good ih

/-- The store and the map give the same answers, and the store is then seen as what
the map is. -/
theorem run_typed (requests : List Request) :
    (machine.run requests).1 = (TypedMap.machine.run requests).1 ∧
      (machine.run requests).2.typed = (TypedMap.machine.run requests).2 := by
  induction requests with
  | nil => exact ⟨rfl, rfl⟩
  | cons r before ih =>
    obtain ⟨hpast, htyped⟩ := ih
    obtain ⟨hanswer, hnext⟩ := (good_run before).alike r
    rw [htyped] at hanswer hnext
    have hstore : (machine.run (r :: before)).1 =
        ⟨r, ((machine.run before).2.respond r).1⟩ :: (machine.run before).1 := rfl
    rw [hstore, hpast, hanswer]
    exact ⟨rfl, hnext⟩

end Store

end ServingOperator
