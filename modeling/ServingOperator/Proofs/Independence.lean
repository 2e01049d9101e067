-- The law of independence. Passes over different intents have one store and
-- one counter in common, and yet each does what it would do alone. Its calls
-- are about its own intent and children, so the others leave all that it
-- reads as it is, and the versions that it meets have no say.
import ServingOperator.Proofs.PassSteps

namespace ServingOperator

/-! ## Passes over different intents -/

variable {ι : Type} {s : Store} {policies : ι → PolicyTable} {id : ι → Identity}

/-- A run of a pass alone from `s` is at the stage `st'`, in the store `t`, with
call `n` to come next, and so is abreast of one that is at `st` in `u`. -/
structure Alongside (s : Store) (policies : PolicyTable) (id : Identity) (st : Stage) (u : Store)
    (st' : Stage) (t : Store) (n : Nat) : Prop where
  good : t.Good
  faults : Store.SameFaults u t
  sameFor : u.SameFor id t
  abreast : Stage.Abreast id u t st st'
  outcome : (st'.rest policies id).outcome (.alone []) n t =
    (Pass.reconcile policies id).outcome (.alone []) 1 s

/-- A pass over `id`, at the stage `st` in a store where others are at work,
is as far as it would be alone from `s`. -/
structure KeepsPace (s : Store) (policies : PolicyTable) (id : Identity) (st : Stage)
    (u : Store) : Prop where
  about : st.About id
  alone : ∃ st' t n, Alongside s policies id st u st' t n

section

variable {policies : PolicyTable} {id : Identity} {st q : Stage} {u u' : Store}

theorem keepsPace_start (policies : PolicyTable) (id : Identity) (hs : s.Good) :
    KeepsPace s policies id .start s where
  about := trivial
  alone := ⟨.start, s, 1, hs, ⟨rfl, rfl⟩, .refl id s, .start, rfl⟩

/-- What others do elsewhere does not hold a pass up. -/
theorem KeepsPace.frame (h : KeepsPace s policies id st u) (hfaults : Store.SameFaults u u')
    (hsame : ∀ k, u'.stored? k id = u.stored? k id) (hfor : u'.SameFor id u) :
    KeepsPace s policies id st u' := by
  obtain ⟨st', t, n, ha⟩ := h.alone
  have hfaults' : Store.SameFaults u' t :=
    ⟨ha.faults.1.trans hfaults.1.symm, ha.faults.2.trans hfaults.2.symm⟩
  exact ⟨h.about, st', t, n, ha.good, hfaults', hfor.trans ha.sameFor, ha.abreast.frame hsame,
    ha.outcome⟩

/-- The next call of a pass keeps its pace. -/
theorem KeepsPace.step (h : KeepsPace s policies id st u) (hu : u.Good)
    (hhangs : u.hanging = []) :
    (∃ v, st = .ended v) ∨
      ∃ q u', Stage.Step policies id st u q u' ∧ KeepsPace s policies id q u' := by
  obtain ⟨st', t, n, ha⟩ := h.alone
  rcases ha.abreast.advance policies hu ha.good hhangs ha.faults ha.sameFor h.about with
    ⟨v, hv, -⟩ | ⟨q, u', q', t', hstep⟩
  · exact .inl ⟨v, hv⟩
  · refine .inr ⟨q, u', hstep.one, hstep.one.about hu h.about, q', t', n + 1, ?_⟩
    have hone := hstep.one.sameFaults
    have hother := hstep.other.sameFaults
    constructor
    case good => exact hstep.other.good ha.good
    case faults =>
      exact ⟨(hother.1.trans ha.faults.1).trans hone.1.symm,
        (hother.2.trans ha.faults.2).trans hone.2.symm⟩
    case sameFor => exact hstep.sameFor
    case abreast => exact hstep.abreast
    case outcome => exact (hstep.other.outcome_eq n).symm.trans ha.outcome

/-- A pass that has ended has ended as it does alone. -/
theorem KeepsPace.ended {v : Verdict} (h : KeepsPace s policies id (.ended v) u) :
    let alone := (Pass.reconcile policies id).run (.alone []) s
    alone.ending = some v ∧ u.SameFor id alone.state := by
  obtain ⟨st', t, n, ha⟩ := h.alone
  have hout := ha.outcome
  cases ha.abreast
  have hend : some v = ((Pass.reconcile policies id).run (.alone []) s).ending :=
    congrArg Prod.fst hout
  have hstate : t = ((Pass.reconcile policies id).run (.alone []) s).state :=
    congrArg Prod.snd hout
  exact ⟨hend.symm, hstate ▸ ha.sameFor⟩

end

/-- Each pass of a crowd is at its stage, and is as far as it would be alone. -/
structure Undisturbed (s : Store) (policies : ι → PolicyTable) (id : ι → Identity)
    (c : Crowd ι Verdict) (stage : ι → Stage) : Prop where
  good : c.store.Good
  hanging : c.store.hanging = []
  members : ∀ i, c.members i = { rest := (stage i).rest (policies i) (id i) }
  pace : ∀ i, KeepsPace s (policies i) (id i) (stage i) c.store
  /-- What is none of their business is left alone. -/
  untouched : ∀ (k : Kind) (j : Identity), k = .intent ∨ (∀ i, j ≠ id i) →
    c.store.stored? k j = s.stored? k j
  calls : ∀ j : Identity, (∀ i, j ≠ id i) →
    c.store.calls.filter (·.identity = j) = s.calls.filter (·.identity = j)

theorem undisturbed_start (policies : ι → PolicyTable) (id : ι → Identity) (hs : s.Good)
    (hhangs : s.hanging = []) :
    Undisturbed s policies id (Crowd.start s fun i => Pass.reconcile (policies i) (id i))
      fun _ => .start where
  good := hs
  hanging := hhangs
  members := fun _ => rfl
  pace := fun i => keepsPace_start (policies i) (id i) hs
  untouched := fun _ _ _ => rfl
  calls := fun _ _ => rfl

section

variable {c : Crowd ι Verdict} {stage : ι → Stage} {i : ι} {q : Stage} {u : Store}

theorem Undisturbed.ending?_eq (h : Undisturbed s policies id c stage) {v : Verdict}
    (hi : stage i = .ended v) : c.ending? i = some v := by
  rw [Crowd.ending?_eq_some, h.members i, hi]
  rfl

/-- A pass of the crowd that has ended is at its last stage. -/
theorem Undisturbed.stage_eq (h : Undisturbed s policies id c stage) {v : Verdict}
    (hend : c.ending? i = some v) : stage i = .ended v := by
  rw [Crowd.ending?_eq_some, h.members i] at hend
  cases hi : stage i with
  | ended v' =>
    rw [hi] at hend
    cases hend
    rfl
  | start | reading | writing =>
    rw [hi] at hend
    cases hend

theorem Undisturbed.as_alone (h : Undisturbed s policies id c stage) {i : ι}
    (hend : (c.ending? i).isSome) :
    let alone := (Pass.reconcile (policies i) (id i)).run (.alone []) s
    c.ending? i = alone.ending ∧ c.store.SameFor (id i) alone.state := by
  intro alone
  obtain ⟨v, hv⟩ := Option.isSome_iff_exists.1 hend
  have hpace := h.pace i
  rw [h.stage_eq hv] at hpace
  exact ⟨hv.trans hpace.ended.1.symm, hpace.ended.2⟩

/-- Two crowds in which each pass has ended as it does alone are the same for
everybody. -/
theorem Undisturbed.sameFor {c' : Crowd ι Verdict} {stage' : ι → Stage}
    (h : Undisturbed s policies id c stage) (h' : Undisturbed s policies id c' stage')
    (hend : ∀ i, (c.ending? i).isSome) (hend' : ∀ i, (c'.ending? i).isSome) (j : Identity) :
    c.store.SameFor j c'.store := by
  by_cases hj : ∃ i, j = id i
  · obtain ⟨i, rfl⟩ := hj
    exact (h.as_alone (hend i)).2.trans (h'.as_alone (hend' i)).2.symm
  · have hj : ∀ i, j ≠ id i := fun i he => hj ⟨i, he⟩
    have hsame : ∀ k, c.store.stored? k j = c'.store.stored? k j := fun k =>
      (h.untouched k j (.inr hj)).trans (h'.untouched k j (.inr hj)).symm
    exact ⟨(h.calls j hj).trans (h'.calls j hj).symm, hsame _, fun child => by rw [hsame]⟩

variable [DecidableEq ι]

/-- A move makes the next call of a pass, and that is all it does. -/
theorem Crowd.move_step {policies : PolicyTable} {id : Identity} {st : Stage}
    (hi : c.members i = { rest := st.rest policies id })
    (h : Stage.Step policies id st c.store q u) :
    (c.move (.go i)).store = u ∧
      (c.move (.go i)).members = Function.update c.members i { rest := q.rest policies id } := by
  cases h with
  | answered h ha =>
    obtain ⟨next, hrest, hnext⟩ := h.rest_eq
    rw [hrest] at hi
    rw [move_answered hi ha, hnext]
    exact ⟨rfl, rfl⟩
  | failed h hr =>
    obtain ⟨next, hrest, -⟩ := h.rest_eq
    rw [hrest] at hi
    rw [move_failed hi hr]
    exact ⟨rfl, rfl⟩

/-- The call of one pass disturbs no other, as their intents are different. -/
theorem Undisturbed.step (h : Undisturbed s policies id c stage) (hid : Function.Injective id)
    (hstep : Stage.Step (policies i) (id i) (stage i) c.store q u)
    (hpace : KeepsPace s (policies i) (id i) q u) :
    Undisturbed s policies id (c.move (.go i)) (Function.update stage i q) := by
  obtain ⟨hstore, hmembers⟩ := Crowd.move_step (h.members i) hstep
  have habout := (h.pace i).about
  constructor
  case good => exact hstore ▸ hstep.good h.good
  case hanging => exact hstore ▸ hstep.sameFaults.2.trans h.hanging
  case members =>
    intro j
    rw [hmembers]
    by_cases hj : j = i
    · subst hj
      rw [Function.update_self, Function.update_self]
    · rw [Function.update_of_ne hj, Function.update_of_ne hj]
      exact h.members j
  case pace =>
    intro j
    rw [hstore]
    by_cases hj : j = i
    · subst hj
      rw [Function.update_self]
      exact hpace
    · rw [Function.update_of_ne hj]
      have hne : id j ≠ id i := fun he => hj (hid he)
      exact (h.pace j).frame hstep.sameFaults
        (fun k => hstep.stored?_eq h.good habout (.inr hne)) (hstep.sameFor h.good habout hne)
  case untouched =>
    intro k j hj
    rw [hstore, hstep.stored?_eq h.good habout (hj.imp_right fun hj => hj i)]
    exact h.untouched k j hj
  case calls =>
    intro j hj
    rw [hstore, hstep.calls_eq h.good habout (hj i)]
    exact h.calls j hj

/-- Any move leaves all passes undisturbed, and brings its own nearer to the end. -/
theorem Undisturbed.go (h : Undisturbed s policies id c stage) (hid : Function.Injective id)
    (i : ι) :
    ∃ q, Undisturbed s policies id (c.move (.go i)) (Function.update stage i q) ∧
      q.left ≤ (stage i).left - 1 := by
  rcases (h.pace i).step h.good h.hanging with ⟨v, hv⟩ | ⟨q, u, hstep, hpace⟩
  · refine ⟨stage i, ?_, by rw [hv]; simp [Stage.left]⟩
    rw [Function.update_eq_self, Crowd.move_ended (h.ending?_eq hv)]
    exact h
  · have hleft := hstep.left_lt
    exact ⟨q, h.step hid hstep hpace, by omega⟩

theorem undisturbed_run (hs : s.Reachable) (hhangs : s.hanging = []) (hid : Function.Injective id)
    (policies : ι → PolicyTable) (order : List ι) :
    ∃ stage, Undisturbed s policies id
      ((Crowd.start s fun i => Pass.reconcile (policies i) (id i)).run (order.map .go)) stage ∧
      ∀ i, (stage i).left ≤ 5 - order.count i :=
  Crowd.run_order (fun h i => h.go hid i) (undisturbed_start policies id hs.good hhangs) order

/-- Passes over different intents make their calls in any order, at a store
where no call hangs. Five turns are enough for each. One that has ended has
ended as it does alone from the same store: with the same outcome or report,
the same calls recorded, and the same objects left, up to their versions.
No intent and nothing of other identities is touched. So two orders in which
all passes end come to the same. -/
theorem passes_over_different_intents_are_independent (policies : ι → PolicyTable)
    (hs : s.Reachable) (hhangs : s.hanging = []) (hid : Function.Injective id) :
    let alone i := (Pass.reconcile (policies i) (id i)).run (.alone []) s
    let crowd (order : List ι) :=
      (Crowd.start s fun i => Pass.reconcile (policies i) (id i)).run (order.map .go)
    (∀ order i, 5 ≤ order.count i → ((crowd order).ending? i).isSome) ∧
      (∀ order i, ((crowd order).ending? i).isSome →
        (crowd order).ending? i = (alone i).ending ∧
          (crowd order).store.SameFor (id i) (alone i).state) ∧
      (∀ order (key : Key), key.kind = .intent ∨ (∀ i, key.identity ≠ id i) →
        (crowd order).store.find? key = s.find? key) ∧
      ∀ order order', (∀ i, ((crowd order).ending? i).isSome) →
        (∀ i, ((crowd order').ending? i).isSome) →
        (∀ i, (crowd order).ending? i = (crowd order').ending? i) ∧
          ∀ j, (crowd order).store.SameFor j (crowd order').store := by
  intro alone crowd
  have hrun := undisturbed_run hs hhangs hid policies
  refine ⟨fun order i hturns => ?_, fun order i hend => ?_, fun order key hkey => ?_,
    fun order order' hend hend' => ⟨fun i => ?_, fun j => ?_⟩⟩
  · obtain ⟨stage, h, hleft⟩ := hrun order
    have hzero : (stage i).left = 0 := by
      have hle := hleft i
      omega
    obtain ⟨v, hv⟩ := Stage.left_eq_zero hzero
    rw [h.ending?_eq hv]
    rfl
  · obtain ⟨stage, h, -⟩ := hrun order
    exact h.as_alone hend
  · obtain ⟨stage, h, -⟩ := hrun order
    obtain ⟨k, j⟩ := key
    rw [h.good.find?_eq, hs.good.find?_eq, h.untouched k j hkey]
  · obtain ⟨stage, h, -⟩ := hrun order
    obtain ⟨stage', h', -⟩ := hrun order'
    exact (h.as_alone (hend i)).1.trans (h'.as_alone (hend' i)).1.symm
  · obtain ⟨stage, h, -⟩ := hrun order
    obtain ⟨stage', h', -⟩ := hrun order'
    exact h.sameFor h' hend hend' j

end

/-- A busy store with one more intent, where no endpoint can be replaced. -/
def sharedStore : Store :=
  (busyStore.perform (.insert .intent mistral)).perform
    (.failOn .replace .endpoint (.unavailable .endpoint llamaId))

/-- Two passes take turns. The one over `llama` fails where there is an
endpoint to replace, and the other converges. -/
theorem two_passes_at_a_shared_store_are_independent :
    let id : Bool → Identity := fun i => if i then llamaId else ⟨"models", "mistral"⟩
    let alone i := (Pass.reconcile .standard (id i)).run (.alone []) sharedStore
    let order := [true, false, false, true, true, false, true, false, false, true]
    let crowd := (Crowd.start sharedStore fun i => Pass.reconcile .standard (id i)).run
      (order.map .go)
    crowd.ending? false = some (.ok (.converged .created .created)) ∧
      crowd.ending? true = some (.error ⟨.write .endpoint .replace llamaId,
        [.plane (.unavailable .endpoint llamaId)]⟩) ∧
      ∀ i, crowd.ending? i = (alone i).ending ∧ crowd.store.SameFor (id i) (alone i).state := by
  intro id alone order crowd
  have hs : sharedStore.Reachable := .perform _ (.perform _ busyStore_reachable)
  have hid : Function.Injective id := by
    intro i j h
    cases i <;> cases j <;> first | rfl | exact absurd h (by decide)
  obtain ⟨hends, has, -, -⟩ :=
    passes_over_different_intents_are_independent (fun _ => .standard) hs rfl hid
  have hturns : ∀ i, 5 ≤ order.count i := by decide
  have halone : ∀ i, crowd.ending? i = (alone i).ending ∧ _ :=
    fun i => has order i (hends order i (hturns i))
  refine ⟨?_, ?_, halone⟩
  · rw [(halone false).1]
    rfl
  · rw [(halone true).1]
    rfl

end ServingOperator
