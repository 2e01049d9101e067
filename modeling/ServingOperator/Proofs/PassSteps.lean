-- The steps of a pass: what each of its calls does to the store, and to
-- whom it makes a difference. Two passes over one intent whose stores are
-- the same for it, but for versions, make the same steps. A pass only ever
-- asks whether a child still has the version that it has read.
import ServingOperator.Proofs.PassPlan

namespace ServingOperator

/-! ## Stores that are the same for an intent -/

/-- What has to do with one identity is the same in two stores, but for the
versions of the children. -/
structure Store.SameFor (id : Identity) (s t : Store) : Prop where
  calls : s.calls.filter (·.identity = id) = t.calls.filter (·.identity = id)
  intent : s.stored? .intent id = t.stored? .intent id
  child (c : Child) :
    (s.stored? c.kind id).map Child.unversioned = (t.stored? c.kind id).map Child.unversioned

namespace Store.SameFor

variable {id : Identity} {s t u : Store}

theorem refl (id : Identity) (s : Store) : s.SameFor id s := ⟨rfl, rfl, fun _ => rfl⟩

theorem symm (h : s.SameFor id t) : t.SameFor id s :=
  ⟨h.calls.symm, h.intent.symm, fun c => (h.child c).symm⟩

theorem trans (h : s.SameFor id t) (h' : t.SameFor id u) : s.SameFor id u :=
  ⟨h.calls.trans h'.calls, h.intent.trans h'.intent, fun c => (h.child c).trans (h'.child c)⟩

theorem record (h : s.SameFor id t) (r : CallRecord) : (s.record r).SameFor id (t.record r) := by
  refine ⟨?_, h.intent, h.child⟩
  simp only [Store.record, List.filter_append, h.calls]

/-- To store objects that differ in their versions alone. -/
theorem keep (h : s.SameFor id t) {c : Child} {o o' : c.Object}
    (ho : Child.unversioned o = Child.unversioned o') :
    (s.keep id o).2.SameFor id (t.keep id o').2 := by
  constructor
  case calls => exact h.calls
  case intent =>
    have hne : (⟨.intent, id⟩ : Key) ≠ ⟨c.kind, id⟩ := fun he =>
      c.kind_ne_intent (congrArg Key.kind he).symm
    rw [stored?_keep_ne _ _ hne, stored?_keep_ne _ _ hne]
    exact h.intent
  case child =>
    intro d
    by_cases hd : d = c
    · subst hd
      rw [stored?_keep_self, stored?_keep_self]
      simp only [Option.map_some, Child.unversioned_withVersion, ho]
    · have hne : (⟨d.kind, id⟩ : Key) ≠ ⟨c.kind, id⟩ := fun he =>
        Child.kind_ne hd (congrArg Key.kind he)
      rw [stored?_keep_ne _ _ hne, stored?_keep_ne _ _ hne]
      exact h.child d

end Store.SameFor

/-- Where nothing hangs, a call fails as it was made to, or is served. -/
theorem Store.fails_or_serves {s : Store} (h : s.hanging = []) (r : CallRecord) :
    (∃ e, s.treatment r = .fails e) ∨ s.treatment r = .serves := by
  unfold treatment
  rw [h]
  cases s.failures.lookup (r.verb, r.kind) with
  | none => exact .inr rfl
  | some e => exact .inl ⟨e, rfl⟩

theorem Store.SameFaults.treatment_eq {s t : Store} (h : SameFaults s t) :
    t.treatment = s.treatment := by
  funext r
  rw [treatment, treatment, h.1, h.2]

/-- What is done about a stored child does not depend on its version. -/
theorem Child.treated_alike {c : Child} {current current' : Option c.Object}
    (h : current.map Child.unversioned = current'.map Child.unversioned) :
    Child.callVerb current = Child.callVerb current' ∧
      Child.writeVerb current = Child.writeVerb current' ∧
      Child.action current = Child.action current' := by
  rcases current with _ | stored <;> rcases current' with _ | stored'
  case none.none | some.some => exact ⟨rfl, rfl, rfl⟩
  all_goals cases h

/-- A write of a child that is as it was read is served, unless it is made to
fail or to hang. -/
theorem plane_write_unchanged {id : Identity} {u : Store} (hu : u.Good) {c : Child} {o : c.Object}
    (hi : Kind.identity? o = .ok id) {current : Option c.Object}
    (hcurrent : u.stored? c.kind id = current) :
    ∃ a : (Child.write o current).Answer, Store.plane (Child.write o current) u =
      match u.treatment ⟨Child.callVerb current, c.kind, id⟩ with
      | .hangs => (.hangs, u.record ⟨Child.callVerb current, c.kind, id⟩)
      | .fails e => (.answers (.error (.of e)), u.record ⟨Child.callVerb current, c.kind, id⟩)
      | .serves => (.answers (.ok a), (u.keep id (Child.written o current)).2.record
          ⟨Child.callVerb current, c.kind, id⟩) := by
  cases current with
  | none =>
    have hplane := Store.plane_create hu hi
    rw [hcurrent] at hplane
    exact ⟨_, hplane⟩
  | some old =>
    have hi : Kind.identity? (Child.carryOver o old) = .ok id :=
      (Child.identity?_written o (some old)).trans hi
    have hplane := Store.plane_replace hu hi
    rw [hcurrent] at hplane
    simp only [Child.versionOf_carryOver, if_true] at hplane
    exact ⟨_, hplane⟩

namespace Stage

variable {policies : PolicyTable} {id : Identity} {st st' q : Stage} {u u' t : Store}

/-! ## One call of a pass -/

/-- What one call of a pass comes to: the next stage, and the store then. -/
inductive Step (policies : PolicyTable) (id : Identity) (st : Stage) (u : Store) :
    Stage → Store → Prop
  | answered {context : ReconcileError} {call : Call} {after : call.Answer → Stage}
      (h : Asks policies id st context call after) {a : call.Answer}
      (ha : (Store.plane call u).1 = .answers (.ok a)) :
      Step policies id st u (after a) (Store.plane call u).2
  | failed {context : ReconcileError} {call : Call} {after : call.Answer → Stage}
      (h : Asks policies id st context call after) {r : Report PlaneError}
      (hr : (Store.plane call u).1 = .answers (.error r)) :
      Step policies id st u (ended (.error (r.wrap context))) (Store.plane call u).2

/-- How many calls a pass has left at most. -/
def left : Stage → Nat
  | start => 5
  | reading .workload _ _ => 4
  | writing .workload _ _ _ _ => 3
  | reading (.endpoint _) _ _ => 2
  | writing (.endpoint _) _ _ _ _ => 1
  | ended _ => 0

theorem left_eq_zero (h : st.left = 0) : ∃ v, st = ended v := by
  cases st with
  | ended v => exact ⟨v, rfl⟩
  | start => cases h
  | reading turn => cases turn <;> cases h
  | writing turn => cases turn <;> cases h

theorem Asks.left_lt {context : ReconcileError} {call : Call} {after : call.Answer → Stage}
    (h : Asks policies id st context call after) (a : call.Answer) :
    (after a).left < st.left := by
  cases h with
  | start =>
    cases a with
    | none => simp [afterIntent, left]
    | some intent =>
      simp only [afterIntent]
      split <;> simp [left]
  | reading turn intent policy =>
    unfold afterRead
    cases turn <;> cases intent.reference <;> simp [left]
  | writing turn intent policy owner current => cases turn <;> simp [afterWrite, left]

theorem Asks.left_pos {context : ReconcileError} {call : Call} {after : call.Answer → Stage}
    (h : Asks policies id st context call after) : 0 < st.left := by
  cases h with
  | start => simp [left]
  | reading turn => cases turn <;> simp [left]
  | writing turn => cases turn <;> simp [left]

namespace Step

theorem left_lt (h : Step policies id st u q u') : q.left < st.left := by
  cases h with
  | answered h => exact h.left_lt _
  | failed h => exact h.left_pos

/-- A pass that is run alone goes on after its call from where this has led. -/
theorem outcome_eq (h : Step policies id st u q u') (n : Nat) :
    (st.rest policies id).outcome (.alone []) n u =
      (q.rest policies id).outcome (.alone []) (n + 1) u' := by
  have hfired : Token.fired [] n = false := rfl
  cases h with
  | @answered _ call _ h a ha =>
    rw [h.outcome_eq]
    rcases hplane : Store.plane call u with ⟨answer, v⟩
    rw [hplane] at ha
    cases ha
    simp only [Surroundings.alone, hfired, hplane, Bool.false_eq_true, if_false]
  | @failed _ call _ h r hr =>
    rw [h.outcome_eq]
    rcases hplane : Store.plane call u with ⟨answer, v⟩
    rw [hplane] at hr
    cases hr
    simp only [Surroundings.alone, hfired, hplane, Bool.false_eq_true, if_false]
    rfl

/-- The call that a step makes. -/
theorem exists_asks (h : Step policies id st u q u') :
    ∃ context, ∃ call : Call, ∃ after, Asks policies id st context call after ∧
      u' = (Store.plane call u).2 := by
  cases h with
  | answered h => exact ⟨_, _, _, h, rfl⟩
  | failed h => exact ⟨_, _, _, h, rfl⟩

theorem good (h : Step policies id st u q u') (hu : u.Good) : u'.Good := by
  obtain ⟨_, call, _, _, rfl⟩ := h.exists_asks
  exact (u.change_plane call).good hu

theorem sameFaults (h : Step policies id st u q u') : Store.SameFaults u u' := by
  obtain ⟨_, call, _, _, rfl⟩ := h.exists_asks
  exact u.sameFaults_plane call

theorem about (h : Step policies id st u q u') (hu : u.Good) (hst : st.About id) :
    q.About id := by
  cases h with
  | answered h ha => exact h.about hst hu ha
  | failed => trivial

/-- A call writes nothing but a child of the intent that its pass is about. -/
theorem stored?_eq (h : Step policies id st u q u') (hu : u.Good) (hst : st.About id) {k : Kind}
    {j : Identity} (hj : k = .intent ∨ j ≠ id) : u'.stored? k j = u.stored? k j := by
  obtain ⟨_, call, _, hasks, rfl⟩ := h.exists_asks
  rcases Store.stored?_plane hu call k j with hsame | ⟨o, _, hwrites, hid, -⟩
  · exact hsame
  · rcases hj with rfl | hj
    · have hkind := hwrites.kind_eq
      have hverb := hwrites.verb_ne_get
      cases hasks with
      | start | reading => exact absurd rfl hverb
      | writing turn _ _ _ current =>
        cases current <;> exact absurd hkind turn.child.kind_ne_intent
    · have hcall := (hasks.identity?_call hst).symm.trans (hwrites.identity?_eq.trans hid)
      exact absurd (Except.ok.inj hcall).symm hj

/-- No call is recorded but one about this intent. -/
theorem calls_eq (h : Step policies id st u q u') (hu : u.Good) (hst : st.About id)
    {j : Identity} (hj : j ≠ id) :
    u'.calls.filter (·.identity = j) = u.calls.filter (·.identity = j) := by
  obtain ⟨_, call, _, hasks, rfl⟩ := h.exists_asks
  rw [Store.calls_plane hu (hasks.identity?_call hst)]
  simp [hj.symm]

/-- To all other intents the store looks as it did. -/
theorem sameFor (h : Step policies id st u q u') (hu : u.Good) (hst : st.About id) {j : Identity}
    (hj : j ≠ id) : u'.SameFor j u where
  calls := h.calls_eq hu hst hj
  intent := h.stored?_eq hu hst (.inl rfl)
  child c := by rw [h.stored?_eq hu hst (.inr hj)]

end Step

/-! ## Two passes side by side -/

/-- Two passes over `id` are at the same place, one at `u` and the other at
`t`. The child that they write next is still as each has read it. -/
inductive Abreast (id : Identity) (u t : Store) : Stage → Stage → Prop
  | start : Abreast id u t start start
  | reading (turn : Turn) (intent : Intent) (policy : RuntimePolicy) :
    Abreast id u t (reading turn intent policy) (reading turn intent policy)
  | writing (turn : Turn) (intent : Intent) (policy : RuntimePolicy) (owner : OwnerReference) :
    Abreast id u t (writing turn intent policy owner (u.stored? turn.child.kind id))
      (writing turn intent policy owner (t.stored? turn.child.kind id))
  | ended (v : Verdict) : Abreast id u t (ended v) (ended v)

/-- Both have made their next call, and what each has met is the same. -/
structure Advance (policies : PolicyTable) (id : Identity) (st : Stage) (u : Store) (st' : Stage)
    (t : Store) (q : Stage) (u' : Store) (q' : Stage) (t' : Store) : Prop where
  one : Step policies id st u q u'
  other : Step policies id st' t q' t'
  abreast : Abreast id u' t' q q'
  sameFor : u'.SameFor id t'

theorem Abreast.frame (h : Abreast id u t st st')
    (hsame : ∀ k, u'.stored? k id = u.stored? k id) : Abreast id u' t st st' := by
  cases h with
  | start => exact .start
  | reading turn intent policy => exact .reading turn intent policy
  | ended v => exact .ended v
  | writing turn intent policy owner =>
    rw [← hsame turn.child.kind]
    exact .writing turn intent policy owner

theorem abreast_afterIntent (policies : PolicyTable) (id : Identity) (u t : Store)
    (intent? : Option Intent) :
    Abreast id u t (afterIntent policies id intent?) (afterIntent policies id intent?) := by
  cases intent? with
  | none => exact .ended _
  | some intent =>
    simp only [afterIntent]
    split
    · exact .ended _
    · exact .reading _ _ _

theorem abreast_afterRead (id : Identity) (u t : Store) (turn : Turn) (intent : Intent)
    (policy : RuntimePolicy) :
    Abreast id u t (afterRead id turn intent policy (u.stored? turn.child.kind id))
      (afterRead id turn intent policy (t.stored? turn.child.kind id)) := by
  unfold afterRead
  cases intent.reference with
  | error r => exact .ended _
  | ok owner => exact .writing turn intent policy owner

theorem abreast_afterWrite (id : Identity) (u t : Store) (intent : Intent) (policy : RuntimePolicy)
    (turn : Turn) (action : ChildAction) :
    Abreast id u t (afterWrite intent policy turn action)
      (afterWrite intent policy turn action) := by
  cases turn with
  | workload => exact .reading _ _ _
  | endpoint first => exact .ended _

section

variable {context : ReconcileError} {call call' : Call} {after : call.Answer → Stage}
  {after' : call'.Answer → Stage}

/-- Two calls that are recorded alike are treated alike. So it is enough to look at
what they come to where they are served. -/
theorem Asks.advance (hst : Asks policies id st context call after)
    (hst' : Asks policies id st' context call' after') {r : CallRecord} {a : call.Answer}
    {a' : call'.Answer} {v v' : Store}
    (hplane : Store.plane call u =
      match u.treatment r with
      | .hangs => (.hangs, u.record r)
      | .fails e => (.answers (.error (.of e)), u.record r)
      | .serves => (.answers (.ok a), v))
    (hplane' : Store.plane call' t =
      match t.treatment r with
      | .hangs => (.hangs, t.record r)
      | .fails e => (.answers (.error (.of e)), t.record r)
      | .serves => (.answers (.ok a'), v'))
    (hhangs : u.hanging = []) (hfaults : Store.SameFaults u t) (hfor : u.SameFor id t)
    (hv : v.SameFor id v') (hafter : Abreast id v v' (after a) (after' a')) :
    ∃ q u' q' t', Advance policies id st u st' t q u' q' t' := by
  rw [hfaults.treatment_eq] at hplane'
  rcases Store.fails_or_serves hhangs r with ⟨e, htreat⟩ | htreat
  · rw [htreat] at hplane hplane'
    have hone := Step.failed hst (congrArg Prod.fst hplane)
    have hother := Step.failed hst' (congrArg Prod.fst hplane')
    rw [hplane] at hone
    rw [hplane'] at hother
    exact ⟨_, _, _, _, hone, hother, .ended _, hfor.record r⟩
  · rw [htreat] at hplane hplane'
    have hone := Step.answered hst (congrArg Prod.fst hplane)
    have hother := Step.answered hst' (congrArg Prod.fst hplane')
    rw [hplane] at hone
    rw [hplane'] at hother
    exact ⟨_, _, _, _, hone, hother, hafter, hv⟩

end

/-- Passes that are abreast stay abreast: they make the same call, and what
they meet differs in versions alone. -/
theorem Abreast.advance (h : Abreast id u t st st') (policies : PolicyTable) (hu : u.Good)
    (ht : t.Good) (hhangs : u.hanging = []) (hfaults : Store.SameFaults u t)
    (hfor : u.SameFor id t) (hst : st.About id) :
    (∃ v, st = .ended v ∧ st' = .ended v) ∨
      ∃ q u' q' t', Advance policies id st u st' t q u' q' t' := by
  cases h with
  | ended v => exact .inl ⟨v, rfl, rfl⟩
  | start =>
    right
    refine Asks.advance .start .start (Store.plane_get hu .intent id)
      (Store.plane_get ht .intent id) hhangs hfaults hfor (hfor.record _) ?_
    rw [← hfor.intent]
    exact abreast_afterIntent policies id _ _ _
  | reading turn intent policy =>
    right
    exact Asks.advance (.reading turn intent policy) (.reading turn intent policy)
      (Store.plane_get hu turn.child.kind id) (Store.plane_get ht turn.child.kind id)
      hhangs hfaults hfor (hfor.record _)
      (abreast_afterRead id (u.record _) (t.record _) turn intent policy)
  | writing turn intent policy owner =>
    right
    have howned := Child.identity?_owned hst policy owner turn.child
    obtain ⟨a, hplane⟩ := plane_write_unchanged hu howned rfl
    obtain ⟨a', hplane'⟩ := plane_write_unchanged ht howned rfl
    have hchild := hfor.child turn.child
    have hasks := @Asks.writing policies id turn intent policy owner
    obtain ⟨hverb, hcontext, haction⟩ := Child.treated_alike hchild
    have hother := hasks (t.stored? turn.child.kind id)
    rw [← hverb] at hplane'
    rw [← hcontext, ← haction] at hother
    have hwritten := Child.unversioned_written_congr (turn.child.owned intent policy owner) hchild
    exact Asks.advance (hasks _) hother hplane hplane' hhangs hfaults hfor
      ((hfor.keep hwritten).record _) (abreast_afterWrite id _ _ intent policy turn _)

end Stage

end ServingOperator
