-- The laws of what a store answers. After any requests, what a store has under a
-- key is what was last stored there, as the exchanges tell it. The next call is
-- answered by that, is recorded once, and changes nothing unless it succeeds.
import ServingOperator.Proofs.TypedMap

namespace ServingOperator

/-! ## What exchanges tell -/

/-- The exchange stores the object that it answers with, under its key. -/
inductive Exchange.Stores {k : Kind} (i : Identity) (a : k.Object) : Exchange → Prop
  | insert {o : k.Object} {answer : Except (Report PlaneError) k.Object}
    (hi : Kind.identity? o = .ok i) (hok : answer = .ok a) : Stores i a ⟨.insert k o, answer⟩
  | create {o : k.Object} {answer : Served k.Object} (hi : Kind.identity? o = .ok i)
    (hok : answer = .answers (.ok a)) : Stores i a ⟨.call (.create k o), answer⟩
  | replace {o : k.Object} {answer : Served k.Object} (hi : Kind.identity? o = .ok i)
    (hok : answer = .answers (.ok a)) : Stores i a ⟨.call (.replace k o), answer⟩

/-- What was last stored under a key: nothing if nothing ever was, or if it was
removed since. The latest exchange stands first. -/
inductive Latest (k : Kind) (i : Identity) : List Exchange → Option k.Object → Prop
  | never : Latest k i [] none
  | stored {past : List Exchange} {e : Exchange} {a : k.Object} (h : e.Stores i a) :
    Latest k i (e :: past) (some a)
  | removed {past : List Exchange} : Latest k i (⟨.remove k i, ()⟩ :: past) none
  | kept {past : List Exchange} {e : Exchange} {o : Option k.Object} (h : Latest k i past o)
    (hstores : ∀ a : k.Object, ¬ e.Stores i a) (hremoves : e.1 ≠ .remove k i) :
    Latest k i (e :: past) o

variable {k : Kind} {i : Identity}

theorem Exchange.Stores.unique {e : Exchange} {a b : k.Object} (ha : e.Stores i a)
    (hb : e.Stores i b) : a = b := by
  cases ha with
  | insert hi hok =>
    cases hb with
    | insert hi' hok' => exact Except.ok.inj (hok.symm.trans hok')
  | create hi hok =>
    cases hb with
    | create hi' hok' =>
      cases hok.symm.trans hok'
      rfl
  | replace hi hok =>
    cases hb with
    | replace hi' hok' =>
      cases hok.symm.trans hok'
      rfl

theorem Latest.unique {past : List Exchange} {o o' : Option k.Object} (h : Latest k i past o)
    (h' : Latest k i past o') : o = o' := by
  induction h with
  | never =>
    cases h'
    rfl
  | stored hs =>
    cases h' with
    | stored hs' => rw [hs.unique hs']
    | removed => cases hs
    | kept _ hstores => exact absurd hs (hstores _)
  | removed =>
    cases h' with
    | stored hs' => cases hs'
    | removed => rfl
    | kept _ _ hremoves => exact absurd rfl hremoves
  | kept _ hstores hremoves ih =>
    cases h' with
    | stored hs' => exact absurd hs' (hstores _)
    | removed => exact absurd rfl hremoves
    | kept h' => exact ih h'

namespace Store

variable {s : Store}

/-! ## How the next call is treated -/

/-- Calls of this verb on this kind neither hang nor fail. -/
def Serves (s : Store) (verb : Verb) (k : Kind) : Prop :=
  (verb, k) ∉ s.hanging ∧ s.failures.lookup (verb, k) = none

theorem Serves.treatment {verb : Verb} (h : s.Serves verb k) (i : Identity) :
    s.treatment ⟨verb, k, i⟩ = .serves := by
  obtain ⟨hhangs, hfails⟩ := h
  rw [Store.treatment, hfails]
  simp [hhangs]

theorem answer_of_hangs (h : s.Good) {c : Call} (hi : c.identity? = .ok i)
    (htreat : s.treatment ⟨c.verb, c.kind, i⟩ = .hangs) : (plane c s).1 = .hangs := by
  cases c with
  | get k i' =>
    cases hi
    rw [plane_get h, show s.treatment ⟨.get, k, i⟩ = .hangs from htreat]
  | create k o => rw [plane_create h hi, show s.treatment ⟨.create, k, i⟩ = .hangs from htreat]
  | replace k o => rw [plane_replace h hi, show s.treatment ⟨.replace, k, i⟩ = .hangs from htreat]

theorem answer_of_fails (h : s.Good) {c : Call} (hi : c.identity? = .ok i) {e : PlaneError}
    (htreat : s.treatment ⟨c.verb, c.kind, i⟩ = .fails e) :
    (plane c s).1 = .answers (.error (.of e)) := by
  cases c with
  | get k i' =>
    cases hi
    rw [plane_get h, show s.treatment ⟨.get, k, i⟩ = .fails e from htreat]
  | create k o => rw [plane_create h hi, show s.treatment ⟨.create, k, i⟩ = .fails e from htreat]
  | replace k o =>
    rw [plane_replace h hi, show s.treatment ⟨.replace, k, i⟩ = .fails e from htreat]

theorem Good.answer_get (h : s.Good) (hserves : s.Serves .get k) (i : Identity) :
    (plane (.get k i) s).1 = .answers (.ok (s.stored? k i)) := by
  rw [plane_get h, hserves.treatment i]

/-! ## What a call that succeeds has done -/

/-- A call has stored an object: the answer is the object with the next version, and
that is what a look and the next get find. -/
structure Stored (s t : Store) (i : Identity) (o a : k.Object) : Prop where
  answer : a = withVersion o s.nextVersion
  counter : t.counter = s.counter + 1
  looked : t.load k i = .ok (some a)
  got : t.Serves .get k → (plane (.get k i) t).1 = .answers (.ok (some a))

theorem Wrote.stored?_eq {t : Store} {o a : k.Object} (h : Wrote s t i o a) :
    t.stored? k i = some a := by
  rw [h.answer]
  exact h.stored

theorem Good.stored {t : Store} (ht : t.Good) {o a : k.Object} (h : Wrote s t i o a) :
    Stored s t i o a := by
  refine ⟨h.answer, h.counter, ?_, ?_⟩
  · rw [ht.load_eq, h.stored?_eq]
  · intro hserves
    rw [ht.answer_get hserves, h.stored?_eq]

/-- A call that does not succeed changes no object and gives no version. Nor does a
get. -/
theorem Good.unchanged (h : s.Good) (c : Call)
    (hfails : c.verb = .get ∨ ∀ a, (plane c s).1 ≠ .answers (.ok a)) :
    (plane c s).2.objects = s.objects ∧ (plane c s).2.counter = s.counter := by
  cases c with
  | get k i =>
    rw [plane_get h]
    cases s.treatment ⟨.get, k, i⟩ <;> exact ⟨rfl, rfl⟩
  | create k o =>
    have hno := hfails.resolve_left fun hget => by cases hget
    cases hi : Kind.identity? o with
    | error r =>
      simp only [plane, hi, and_self]
    | ok i =>
      rw [plane_create h hi] at hno ⊢
      cases htreat : s.treatment ⟨.create, k, i⟩ with
      | serves =>
        cases hstored : s.stored? k i with
        | some current => exact ⟨rfl, rfl⟩
        | none =>
          rw [htreat, hstored] at hno
          exact absurd rfl (hno _)
      | _ => exact ⟨rfl, rfl⟩
  | replace k o =>
    have hno := hfails.resolve_left fun hget => by cases hget
    cases hi : Kind.identity? o with
    | error r =>
      simp only [plane, hi, and_self]
    | ok i =>
      rw [plane_replace h hi] at hno ⊢
      cases htreat : s.treatment ⟨.replace, k, i⟩ with
      | serves =>
        cases hstored : s.stored? k i with
        | none => exact ⟨rfl, rfl⟩
        | some current =>
          by_cases hv : versionOf current = versionOf o
          · rw [htreat, hstored] at hno
            simp only [hv, if_true] at hno
            exact absurd rfl (hno _)
          · simp only [hv, if_false]
            exact ⟨rfl, rfl⟩
      | _ => exact ⟨rfl, rfl⟩

/-! ## What is under a key -/

/-- What an exchange does to a key: it stores its answer there, or removes what is
there, or leaves it as it is. -/
theorem respond_cases (h : s.Good) (r : Request) (k : Kind) (i : Identity) :
    (∃ a : k.Object, Exchange.Stores i a ⟨r, (s.respond r).1⟩ ∧
      (s.respond r).2.stored? k i = some a) ∨
    (r = .remove k i ∧ (s.respond r).2.stored? k i = none) ∨
    ((∀ a : k.Object, ¬ Exchange.Stores i a ⟨r, (s.respond r).1⟩) ∧ r ≠ .remove k i ∧
      (s.respond r).2.stored? k i = s.stored? k i) := by
  cases r with
  | insert k' o =>
    cases hi : Kind.identity? o with
    | error e =>
      have hrespond : s.respond (.insert k' o) = (.error e, s) := by
        simp only [respond, Store.insert, hi, Except.map]
      rw [hrespond]
      refine .inr (.inr ⟨fun a ha => ?_, fun he => (by cases he), rfl⟩)
      cases ha with
      | insert _ hok => cases hok
    | ok i' =>
      have hrespond : s.respond (.insert k' o) = (.ok (s.keep i' o).1, (s.keep i' o).2) := by
        simp only [respond, Store.insert, hi, Except.map]
      rw [hrespond]
      by_cases hkey : (⟨k, i⟩ : Key) = ⟨k', i'⟩
      · cases hkey
        exact .inl ⟨_, .insert hi rfl, s.stored?_keep_self i o⟩
      · refine .inr (.inr ⟨fun a ha => ?_, fun he => (by cases he), s.stored?_keep_ne o hkey⟩)
        cases ha with
        | insert hi' _ => exact hkey (by rw [Except.ok.inj (hi.symm.trans hi')])
  | remove k' i' =>
    by_cases hkey : (⟨k, i⟩ : Key) = ⟨k', i'⟩
    · cases hkey
      exact .inr (.inl ⟨rfl, stored?_of_find?_none (s.find?_drop_self _)⟩)
    · refine .inr (.inr ⟨fun a ha => (by cases ha), fun he => ?_, ?_⟩)
      · cases he
        exact hkey rfl
      · exact stored?_congr (s.find?_drop_ne hkey)
  | call c =>
    by_cases hstores : ∃ a : k.Object, Exchange.Stores i a ⟨.call c, (plane c s).1⟩
    · obtain ⟨a, ha⟩ := hstores
      refine .inl ⟨a, ha, ?_⟩
      cases ha with
      | create hi hok => exact (h.created hi hok).2.stored?_eq
      | replace hi hok => exact (h.replaced hi hok).2.stored?_eq
    · refine .inr (.inr ⟨not_exists.1 hstores, fun he => (by cases he), ?_⟩)
      rcases stored?_plane h c k i with hsame | ⟨o, a, hwrites, hi, hok, -⟩
      · exact hsame
      · cases hwrites with
        | create => exact absurd ⟨a, .create hi hok⟩ hstores
        | replace => exact absurd ⟨a, .replace hi hok⟩ hstores
  | _ => exact .inr (.inr ⟨fun a ha => (by cases ha), fun he => (by cases he), rfl⟩)

/-- After any requests, what a store has under a key is what was last stored there. -/
theorem latest_run (requests : List Request) (k : Kind) (i : Identity) :
    Latest k i (machine.run requests).1 ((machine.run requests).2.stored? k i) := by
  induction requests with
  | nil => exact .never
  | cons r before ih =>
    rcases respond_cases (good_run before) r k i with
      ⟨a, hstores, hthere⟩ | ⟨rfl, hnone⟩ | ⟨hstores, hremoves, hsame⟩
    · have hnow : (machine.run (r :: before)).2.stored? k i = some a := hthere
      rw [hnow]
      exact .stored hstores
    · have hnow : (machine.run (.remove k i :: before)).2.stored? k i = none := hnone
      rw [hnow]
      exact .removed
    · have hnow : (machine.run (r :: before)).2.stored? k i =
          (machine.run before).2.stored? k i := hsame
      rw [hnow]
      exact .kept ih hstores hremoves

/-! ## The next call -/

/-- After the exchanges `past`, a store answers a look and the next call by what was
last stored under the key. The call is recorded once, if its object says who it is,
and changes nothing unless it stores an object. -/
structure Obeys (past : List Exchange) (s : Store) : Prop where
  looked (k : Kind) (i : Identity) (o : Option k.Object) : s.load k i = .ok o ↔ Latest k i past o
  recorded (c : Call) (i : Identity) (hi : c.identity? = .ok i) :
    (plane c s).2.calls = s.calls ++ [⟨c.verb, c.kind, i⟩]
  unnamed (c : Call) (r : Report PlaneError) (hr : c.identity? = .error r) :
    plane c s = (.answers (.error r), s) ∧
      ∃ field, r = .of (.incompleteObject c.kind.name field)
  hung (c : Call) (i : Identity) (hi : c.identity? = .ok i)
    (hhangs : (c.verb, c.kind) ∈ s.hanging) : (plane c s).1 = .hangs
  failed (c : Call) (i : Identity) (hi : c.identity? = .ok i)
    (hhangs : (c.verb, c.kind) ∉ s.hanging) (e : PlaneError)
    (hfails : s.failures.lookup (c.verb, c.kind) = some e) :
    (plane c s).1 = .answers (.error (.of e))
  got (k : Kind) (i : Identity) (hserves : s.Serves .get k) (o : Option k.Object) :
    (plane (.get k i) s).1 = .answers (.ok o) ↔ Latest k i past o
  created (k : Kind) (i : Identity) (o : k.Object) (hi : Kind.identity? o = .ok i)
    (hserves : s.Serves .create k) :
    ((∃ a, (plane (.create k o) s).1 = .answers (.ok a)) ↔ Latest k i past none) ∧
      ∀ old, Latest k i past (some old) →
        (plane (.create k o) s).1 = .answers (.error (.of (.conflict k i)))
  replaced (k : Kind) (i : Identity) (o : k.Object) (hi : Kind.identity? o = .ok i)
    (hserves : s.Serves .replace k) :
    ((∃ a, (plane (.replace k o) s).1 = .answers (.ok a)) ↔
        ∃ old, Latest k i past (some old) ∧ versionOf old = versionOf o) ∧
      (Latest k i past none → (plane (.replace k o) s).1 =
        .answers (.error (.of (.rejected k i 404 "NotFound")))) ∧
      ∀ old, Latest k i past (some old) → versionOf old ≠ versionOf o →
        (plane (.replace k o) s).1 = .answers (.error (.of (.conflict k i)))
  stored_by_create (k : Kind) (i : Identity) (o a : k.Object) (hi : Kind.identity? o = .ok i)
    (hok : (plane (.create k o) s).1 = .answers (.ok a)) :
    Stored s (plane (.create k o) s).2 i o a
  stored_by_replace (k : Kind) (i : Identity) (o a : k.Object) (hi : Kind.identity? o = .ok i)
    (hok : (plane (.replace k o) s).1 = .answers (.ok a)) :
    Stored s (plane (.replace k o) s).2 i o a
  unchanged (c : Call) (hfails : c.verb = .get ∨ ∀ a, (plane c s).1 ≠ .answers (.ok a)) :
    (plane c s).2.objects = s.objects ∧ (plane c s).2.counter = s.counter

/-- An object that does not say who it is is refused. -/
theorem plane_unnamed (s : Store) {c : Call} {r : Report PlaneError}
    (hr : c.identity? = .error r) :
    plane c s = (.answers (.error r), s) ∧
      ∃ field, r = .of (.incompleteObject c.kind.name field) := by
  have hreport : ∀ {k : Kind} {o : k.Object}, Kind.identity? o = .error r →
      ∃ field, r = .of (.incompleteObject k.name field) :=
    fun ho => ⟨_, (Kind.identity?_eq_error.1 ho).2⟩
  cases c with
  | get k i => cases hr
  | create k o =>
    have ho : Kind.identity? o = .error r := hr
    refine ⟨?_, hreport ho⟩
    simp only [plane, ho]
  | replace k o =>
    have ho : Kind.identity? o = .error r := hr
    refine ⟨?_, hreport ho⟩
    simp only [plane, ho]

theorem obeys_run (requests : List Request) :
    (machine.run requests).2.Obeys (machine.run requests).1 := by
  have hgood := good_run requests
  have hlatest := latest_run requests
  generalize machine.run requests = run at hgood hlatest ⊢
  obtain ⟨past, s⟩ := run
  have hstored : ∀ {k i} {o : Option k.Object}, s.stored? k i = o ↔ Latest k i past o :=
    fun {k i o} => ⟨fun h => h ▸ hlatest k i, fun h => (hlatest k i).unique h⟩
  constructor
  case looked =>
    intro k i o
    rw [hgood.load_eq, Except.ok.injEq]
    exact hstored
  case recorded => exact fun c i hi => calls_plane hgood hi
  case unnamed => exact fun c r hr => s.plane_unnamed hr
  case hung =>
    intro c i hi hhangs
    refine answer_of_hangs hgood hi ?_
    simp [treatment, hhangs]
  case failed =>
    intro c i hi hhangs e hfails
    refine answer_of_fails hgood hi ?_
    simp [treatment, hhangs, hfails]
  case got =>
    intro k i hserves o
    rw [hgood.answer_get hserves i]
    simp only [Served.answers.injEq, Except.ok.injEq]
    exact hstored
  case created =>
    intro k i o hi hserves
    rw [plane_create hgood hi, hserves.treatment i]
    simp only [← hstored]
    cases s.stored? k i with
    | none => simp
    | some current => simp
  case replaced =>
    intro k i o hi hserves
    rw [plane_replace hgood hi, hserves.treatment i]
    simp only [← hstored]
    cases s.stored? k i with
    | none => simp
    | some current =>
      by_cases hv : versionOf current = versionOf o
      · simp [hv]
      · simp [hv]
  case stored_by_create =>
    intro k i o a hi hok
    exact Good.stored ((change_plane _ _).good hgood) (hgood.created hi hok).2
  case stored_by_replace =>
    intro k i o a hi hok
    exact Good.stored ((change_plane _ _).good hgood) (hgood.replaced hi hok).2
  case unchanged => exact fun c hfails => hgood.unchanged c hfails

/-! ## The theorem -/

/-- A store answers all requests as a map of typed objects does, and is then seen as
what the map is. By the exchanges it has what was last stored under each key, and
goes by that at the next call, whatever call that is. -/
theorem a_store_is_a_map_of_typed_objects (requests : List Request) :
    (machine.run requests).1 = (TypedMap.machine.run requests).1 ∧
      (machine.run requests).2.typed = (TypedMap.machine.run requests).2 ∧
      (machine.run requests).2.Obeys (machine.run requests).1 :=
  ⟨(run_typed requests).1, (run_typed requests).2, obeys_run requests⟩

/-- An endpoint is created twice, stored anew, replaced by its old version, looked at
by a get that hangs, removed and created again. The last of it stands first. -/
def endpointLife : List Request :=
  let o : Endpoint := { metadata := { name := some "a", ns := some "default" } }
  [.call (.create .endpoint o), .remove .endpoint ⟨"default", "a"⟩,
    .call (.get .endpoint ⟨"default", "a"⟩), .hangOn .get .endpoint,
    .call (.replace .endpoint (withVersion (k := .endpoint) o "1")), .insert .endpoint o,
    .call (.create .endpoint o), .call (.create .endpoint o)]

theorem a_store_keeps_the_last_version_of_an_endpoint :
    let o : Endpoint := { metadata := { name := some "a", ns := some "default" } }
    let s := (machine.run endpointLife).2
    (machine.run endpointLife).1 = (TypedMap.machine.run endpointLife).1 ∧
      Latest .endpoint ⟨"default", "a"⟩ (machine.run endpointLife).1
        (some (withVersion (k := .endpoint) o "3")) ∧
      (plane (.create .endpoint o) s).1 =
        .answers (.error (.of (.conflict .endpoint ⟨"default", "a"⟩))) ∧
      s.calls.length = 5 := by
  intro o s
  obtain ⟨hanswers, -, hobeys⟩ := a_store_is_a_map_of_typed_objects endpointLife
  have hlatest := (hobeys.looked .endpoint ⟨"default", "a"⟩ _).1 rfl
  have hserves : s.Serves .create .endpoint := ⟨by decide, rfl⟩
  have hcreate := hobeys.created .endpoint ⟨"default", "a"⟩ o rfl hserves
  exact ⟨hanswers, hlatest, hcreate.2 _ hlatest, rfl⟩

end Store

end ServingOperator
