-- The law of recovery. However a pass was cut short, by a call that fails
-- or hangs or by its token, it leaves a store from which the next pass ends
-- as it would have ended without the first one. A child is left as it was
-- or as it is to be, and to write it once more changes its version alone.
import ServingOperator.Proofs.CallOrder

namespace ServingOperator

variable {policies : PolicyTable} {policy : RuntimePolicy} {s u : Store} {id : Identity}
  {intent : Intent} {owner : OwnerReference} {t : Token}

/-! ## What an interrupted pass leaves -/

/-- Any pass that nobody meddles with leaves a store that operations lead to. -/
theorem later_runFrom {α : Type} (p : Pass α) (n : Nat) (s : Store) :
    s.Later (p.runFrom (.alone t) n s).state := by
  induction p generalizing n s with
  | done a => exact .refl
  | note e rest ih => exact ih n s
  | ask call next ih =>
    have hcall : s.Later (Store.plane call s).2 := .perform (.call call) .refl
    simp only [Pass.runFrom, Surroundings.alone] at ih ⊢
    split
    · exact ih _ n s
    · rcases hplane : Store.plane call s with ⟨_ | result, u⟩
      · rw [hplane] at hcall
        simp only
        split
        · exact hcall.trans (ih _ (n + 1) u)
        · exact hcall
      · rw [hplane] at hcall
        exact hcall.trans (ih _ (n + 1) u)

/-- Wherever a run along planned calls stops, the objects are those after
the calls that were served. -/
theorem exists_served (t : Token) (id : Identity) (verdict : Verdict) (calls : List PlannedCall)
    (n : Nat) (s : Store) :
    ∃ served, served <+: calls ∧
      (follow t id verdict calls n s).state.objects = (afterAll served s).objects := by
  induction calls generalizing n s with
  | nil => exact ⟨[], List.prefix_rfl, rfl⟩
  | cons c rest ih =>
    have hnone : ∀ r : Run Store Verdict, r.state.objects = s.objects →
        ∃ served, served <+: c :: rest ∧ r.state.objects = (afterAll served s).objects :=
      fun r hr => ⟨[], List.nil_prefix, hr⟩
    simp only [follow]
    split
    · exact hnone _ rfl
    · cases s.treatment c.record with
      | hangs => exact hnone _ rfl
      | fails e => exact hnone _ rfl
      | serves =>
        obtain ⟨served, hserved, hobjects⟩ := ih (n + 1) (c.after s)
        exact ⟨c :: served, (List.cons_prefix_cons).2 ⟨rfl, hserved⟩, hobjects⟩

/-- From `s` to `u` nothing happened to the intent, and each child is as it
was or was written for the intent over what it was. -/
structure Halted (s : Store) (id : Identity) (intent : Intent) (policy : RuntimePolicy)
    (owner : OwnerReference) (u : Store) : Prop where
  untouched : u.stored? .intent id = s.stored? .intent id
  child : ∀ c : Child, u.stored? c.kind id = s.stored? c.kind id ∨
    ∃ v, u.stored? c.kind id = some (Store.withVersion
      (Child.written (c.owned intent policy owner) (s.stored? c.kind id)) v)

theorem Halted.write (h : Halted s id intent policy owner u) (c : Child) :
    Halted s id intent policy owner
      ((writeCall id (c.owned intent policy owner) (s.stored? c.kind id)).after u) := by
  constructor
  case untouched =>
    rw [stored?_after_write c.kind_ne_intent.symm]
    exact h.untouched
  case child =>
    intro d
    by_cases hd : d = c
    · subst hd
      exact .inr ⟨_, Store.stored?_keep_self _ _ _⟩
    · rw [stored?_after_write (Child.kind_ne hd)]
      exact h.child d

theorem Halted.afterAll {calls : List PlannedCall}
    (hcalls : ∀ x ∈ calls, x.stores = none ∨ ∃ c : Child,
      x = writeCall id (c.owned intent policy owner) (s.stored? c.kind id))
    (h : Halted s id intent policy owner u) :
    Halted s id intent policy owner (afterAll calls u) := by
  induction calls generalizing u with
  | nil => exact h
  | cons x rest ih =>
    obtain ⟨hx, hrest⟩ := List.forall_mem_cons.1 hcalls
    rcases hx with hnone | ⟨c, rfl⟩
    · have hafter : x.after u = u.record x.record := by simp only [PlannedCall.after, hnone]
      have hx : Halted s id intent policy owner (x.after u) := by
        rw [hafter]
        exact ⟨h.untouched, h.child⟩
      exact ih hrest hx
    · exact ih hrest (h.write c)

/-- What a pass over an intent with a known runtime and an owner leaves,
wherever it stops. -/
theorem halted_follow (t : Token) (verdict : Verdict) (n : Nat) :
    Halted s id intent policy owner
      (follow t id verdict (convergingCalls s id intent policy owner) n s).state := by
  obtain ⟨served, hserved, hobjects⟩ :=
    exists_served t id verdict (convergingCalls s id intent policy owner) n s
  have hall : Halted s id intent policy owner (ServingOperator.afterAll served s) := by
    refine Halted.afterAll (fun x hx => ?_) ⟨rfl, fun _ => .inl rfl⟩
    have hx := hserved.subset hx
    simp only [convergingCalls, childCalls, List.cons_append, List.nil_append, List.mem_cons,
      List.not_mem_nil, or_false] at hx
    rcases hx with rfl | rfl | rfl | rfl | rfl
    · exact .inl rfl
    · exact .inl rfl
    · exact .inr ⟨.workload, rfl⟩
    · exact .inl rfl
    · exact .inr ⟨.endpoint, rfl⟩
  constructor
  case untouched => exact (Store.stored?_of_objects hobjects _ _).trans hall.untouched
  case child =>
    intro c
    rw [Store.stored?_of_objects hobjects]
    exact hall.child c

/-- To write a child that a pass was interrupted over gives what the pass
would have given, up to its version. -/
theorem Halted.written_alike (h : Halted s id intent policy owner u) (c : Child) :
    Child.unversioned (Child.written (c.owned intent policy owner) (u.stored? c.kind id)) =
      Child.unversioned (Child.written (c.owned intent policy owner) (s.stored? c.kind id)) := by
  rcases h.child c with hsame | ⟨v, hwritten⟩
  · rw [hsame]
  · rw [hwritten]
    exact Child.unversioned_written_over (Child.unversioned_withVersion _ v)

/-! ## Passes that nothing gets in the way of -/

/-- The same store where no call is made to fail or to hang. -/
def Store.calm (s : Store) : Store := { s with failures := [], hanging := [] }

theorem Store.Good.calm (h : s.Good) : s.calm.Good :=
  (Store.Change.same (s := s) (t := s.calm) rfl rfl).good h

/-- In a calm store a pass makes all calls of its plan. -/
theorem Planned.run_calm {p : Plan} (h : Planned policies id s.calm p) (hs : s.Good) :
    let r := (Pass.reconcile policies id).run (.alone []) s.calm
    r.ending = some p.verdict ∧ r.state = afterAll p.calls s.calm := by
  intro r
  have hr : r = follow [] id p.verdict p.calls 1 s.calm := h.run_eq hs.calm []
  rw [hr, follow_served [] id p.verdict (fun c _ => rfl) fun _ _ => rfl]
  exact ⟨rfl, rfl⟩

/-- A run that changed nothing but the record of calls, and made reads alone. -/
def WroteNothing (s : Store) (r : Run Store Verdict) : Prop :=
  ∃ made, r.state = { s with calls := s.calls ++ made } ∧ ∀ c ∈ made, c.verb = .get

theorem Planned.wroteNothing {p : Plan} (h : Planned policies id s.calm p) (hs : s.Good)
    (hreads : OnlyReads p.calls) :
    WroteNothing s.calm ((Pass.reconcile policies id).run (.alone []) s.calm) := by
  refine ⟨p.calls.map (·.record), (h.run_calm hs).2.trans (afterAll_reads hreads _), ?_⟩
  intro c hc
  obtain ⟨x, hx, rfl⟩ := List.mem_map.1 hc
  exact (h.plain x hx).reads.2 (hreads x hx)

/-- An intent that no children can be made for: no policy is known for its
runtime, or it cannot own anything. -/
def ReconcileError.isConstruction : ReconcileError → Prop
  | .unknownRuntime _ _ => True
  | .ownerReference _ _ => True
  | _ => False

/-- Two passes over `id`, one from `s` and one from `s'`, end the same way. -/
inductive EndAlike (id : Identity) (s s' : Store) (r r' : Run Store Verdict) : Prop
  /-- Both converge, and the children they leave differ in their versions alone. -/
  | converged (workload endpoint workload' endpoint' : ChildAction)
      (hending : r.ending = some (.ok (.converged workload endpoint)))
      (hending' : r'.ending = some (.ok (.converged workload' endpoint')))
      (hchildren : ∀ c : Child, ∃ o o' : c.Object, r.state.stored? c.kind id = some o ∧
        r'.state.stored? c.kind id = some o' ∧ Child.unversioned o = Child.unversioned o')
  /-- Both find no intent. -/
  | gone (hending : r.ending = some (.ok .intentGone))
      (hending' : r'.ending = some (.ok .intentGone))
      (hwrote : WroteNothing s r) (hwrote' : WroteNothing s' r')
  /-- Both fail over the same intent with the same report, and write nothing. -/
  | failed (e : Report ReconcileError) (hconstruction : e.top.isConstruction)
      (hending : r.ending = some (.error e)) (hending' : r'.ending = some (.error e))
      (hwrote : WroteNothing s r) (hwrote' : WroteNothing s' r')

theorem stored?_children_afterAll (s : Store) (id : Identity) (intent : Intent)
    (policy : RuntimePolicy) (owner : OwnerReference) (c : Child) :
    ∃ o, (afterAll (convergingCalls s id intent policy owner) s).stored? c.kind id = some o ∧
      Child.unversioned o =
        Child.unversioned (Child.written (c.owned intent policy owner) (s.stored? c.kind id)) := by
  cases c with
  | workload => exact ⟨_, stored?_workload_afterAll, Child.unversioned_withVersion _ _⟩
  | endpoint => exact ⟨_, stored?_endpoint_afterAll, Child.unversioned_withVersion _ _⟩

/-- Over an intent that has all that a pass needs, two passes both converge,
the second one from wherever an earlier one was interrupted. -/
theorem endAlike_of_halted (hs : s.Good) (hu : u.Good)
    (hintent : s.stored? .intent id = some intent)
    (hruntime : policies.resolve intent.spec.runtimeSelector = .ok policy)
    (howner : intent.reference = .ok owner) (h : Halted s id intent policy owner u) :
    EndAlike id s.calm u.calm ((Pass.reconcile policies id).run (.alone []) s.calm)
      ((Pass.reconcile policies id).run (.alone []) u.calm) := by
  have hplan : Planned policies id s.calm _ := .ready hintent hruntime howner
  have hplan' : Planned policies id u.calm _ :=
    .ready (h.untouched.trans hintent) hruntime howner
  obtain ⟨hending, hstate⟩ := hplan.run_calm hs
  obtain ⟨hending', hstate'⟩ := hplan'.run_calm hu
  refine .converged _ _ _ _ hending hending' fun c => ?_
  obtain ⟨o, ho, heq⟩ := stored?_children_afterAll s.calm id intent policy owner c
  obtain ⟨o', ho', heq'⟩ := stored?_children_afterAll u.calm id intent policy owner c
  refine ⟨o, o', by rw [hstate]; exact ho, by rw [hstate']; exact ho', ?_⟩
  exact heq.trans ((h.written_alike c).symm.trans heq'.symm)

/-- Two passes with one plan that makes reads alone end the same way. -/
theorem endAlike_of_reads {p : Plan} (hs : s.Good) (hu : u.Good)
    (hp : Planned policies id s.calm p) (hp' : Planned policies id u.calm p)
    (hreads : OnlyReads p.calls)
    (hverdict : p.verdict = .ok .intentGone ∨
      ∃ e : Report ReconcileError, e.top.isConstruction ∧ p.verdict = .error e) :
    EndAlike id s.calm u.calm ((Pass.reconcile policies id).run (.alone []) s.calm)
      ((Pass.reconcile policies id).run (.alone []) u.calm) := by
  obtain ⟨hending, _⟩ := hp.run_calm hs
  obtain ⟨hending', _⟩ := hp'.run_calm hu
  have hwrote := hp.wroteNothing hs hreads
  have hwrote' := hp'.wroteNothing hu hreads
  rcases hverdict with hgone | ⟨e, hconstruction, herror⟩
  · rw [hgone] at hending hending'
    exact .gone hending hending' hwrote hwrote'
  · rw [herror] at hending hending'
    exact .failed e hconstruction hending hending' hwrote hwrote'

/-- A pass may fail, hang or be cancelled at any of its calls. If from then on
no call fails or hangs, the next pass ends as it would have ended in place of
the first. -/
theorem an_interrupted_pass_is_made_up_for (policies : PolicyTable) (id : Identity) (t : Token)
    (hs : s.Reachable) :
    let left := ((Pass.reconcile policies id).run (.alone t) s).state
    EndAlike id s.calm left.calm ((Pass.reconcile policies id).run (.alone []) s.calm)
      ((Pass.reconcile policies id).run (.alone []) left.calm) := by
  intro left
  have hleft : left.Good := (later_runFrom _ 1 s).good hs.good
  obtain ⟨p, hp⟩ := exists_planned policies id s
  have hrun : left = (follow t id p.verdict p.calls 1 s).state :=
    congrArg Run.state (hp.run_eq hs.good t)
  -- a pass that is not going to converge makes reads alone
  have hintent : OnlyReads p.calls → left.stored? .intent id = s.stored? .intent id := by
    intro hreads
    obtain ⟨served, hserved, hobjects⟩ := exists_served t id p.verdict p.calls 1 s
    rw [hrun, Store.stored?_of_objects hobjects,
      afterAll_reads fun c hc => hreads c (hserved.subset hc)]
    rfl
  cases hp with
  | gone hnone =>
    have hreads : OnlyReads [intentCall id [.intentGone]] := by simp [OnlyReads, intentCall]
    exact endAlike_of_reads hs.good hleft (.gone hnone) (.gone ((hintent hreads).trans hnone))
      hreads (.inl rfl)
  | @unknown intent r hsome hruntime =>
    have hreads : OnlyReads [intentCall id []] := by simp [OnlyReads, intentCall]
    refine endAlike_of_reads hs.good hleft (.unknown hsome hruntime)
      (.unknown ((hintent hreads).trans hsome) hruntime) hreads (.inr ⟨_, ?_, rfl⟩)
    trivial
  | @unowned intent policy r hsome hruntime howner =>
    have hreads : OnlyReads [intentCall id [], readCall id .workload []] := by
      simp [OnlyReads, intentCall, readCall]
    refine endAlike_of_reads hs.good hleft (.unowned hsome hruntime howner)
      (.unowned ((hintent hreads).trans hsome) hruntime howner) hreads (.inr ⟨_, ?_, rfl⟩)
    trivial
  | @ready intent policy owner hsome hruntime howner =>
    refine endAlike_of_halted hs.good hleft hsome hruntime howner ?_
    rw [hrun]
    exact halted_follow t _ 1

/-- A store where a pass creates the workload and then hangs. -/
def stuckStore : Store := busyStore.perform (.hangOn .replace .endpoint)

/-- A pass that is cancelled while it hangs has written the workload alone. -/
theorem a_pass_cancelled_while_it_hangs_is_made_up_for :
    let left := ((Pass.reconcile .standard llamaId).run (.alone [.blocked]) stuckStore).state
    EndAlike llamaId stuckStore.calm left.calm
      ((Pass.reconcile .standard llamaId).run (.alone []) stuckStore.calm)
      ((Pass.reconcile .standard llamaId).run (.alone []) left.calm) :=
  an_interrupted_pass_is_made_up_for .standard llamaId [.blocked] (.perform _ busyStore_reachable)

end ServingOperator
