-- The law of contention. When passes over one intent contend and nobody else
-- interferes, each of them converges or meets a conflict, and not all meet
-- one: a pass loses a child only because another pass has written it, and
-- that pass has gone on to the next child.
import ServingOperator.Proofs.PassPlan

namespace ServingOperator

/-- What passes that contend have in common: the store they start from, and
an intent there that has all that a pass needs. -/
structure Contest where
  first : Store
  policies : PolicyTable
  id : Identity
  intent : Intent
  policy : RuntimePolicy
  owner : OwnerReference
  good : first.Good
  stored : first.stored? .intent id = some intent
  runtime : policies.resolve intent.spec.runtimeSelector = .ok policy
  reference : intent.reference = .ok owner
  serves : ∀ c, first.treatment c = .serves

/-- Where a pass is in a contest. -/
inductive Position where
  | start
  | reading (turn : Turn)
  | writing (turn : Turn) (current : Option turn.child.Object)
  | won (workload endpoint : ChildAction)
  | lost (c : Child) (verb : WriteVerb)

namespace Position

def afterWrite : Turn → ChildAction → Position
  | .workload, first => reading (.endpoint first)
  | .endpoint first, second => won first second

/-- How many calls the pass has left at most. -/
def left : Position → Nat
  | start => 5
  | reading .workload => 4
  | writing .workload _ => 3
  | reading (.endpoint _) => 2
  | writing (.endpoint _) _ => 1
  | won _ _ => 0
  | lost _ _ => 0

theorem left_afterWrite (turn : Turn) (action : ChildAction) (current : Option turn.child.Object) :
    (afterWrite turn action).left < (writing turn current).left := by
  cases turn <;> simp [afterWrite, left]

theorem left_eq_zero {p : Position} (h : p.left = 0) :
    (∃ workload endpoint, p = won workload endpoint) ∨ ∃ c verb, p = lost c verb := by
  cases p with
  | won workload endpoint => exact .inl ⟨_, _, rfl⟩
  | lost c verb => exact .inr ⟨_, _, rfl⟩
  | start => cases h
  | reading turn => cases turn <;> cases h
  | writing turn => cases turn <;> cases h

/-- The pass has written the child. -/
def Past (c : Child) : Position → Prop
  | start => False
  | reading turn => c = .workload ∧ turn.child = .endpoint
  | writing turn _ => c = .workload ∧ turn.child = .endpoint
  | won _ _ => True
  | lost child _ => c = .workload ∧ child = .endpoint

theorem past_afterWrite (turn : Turn) (action : ChildAction) :
    (afterWrite turn action).Past turn.child := by
  cases turn with
  | workload => exact ⟨rfl, rfl⟩
  | endpoint => trivial

theorem past_of_afterWrite {turn : Turn} {action : ChildAction} {c : Child}
    (h : (afterWrite turn action).Past c) (current : Option turn.child.Object) :
    c = turn.child ∨ (writing turn current).Past c := by
  cases turn with
  | workload => exact .inl h.1
  | endpoint first =>
    cases c with
    | workload => exact .inr ⟨rfl, rfl⟩
    | endpoint => exact .inl rfl

end Position

namespace Contest

variable (x : Contest)

/-- The stage of a pass by its position. -/
def stage : Position → Stage
  | .start => .start
  | .reading turn => .reading turn x.intent x.policy
  | .writing turn current => .writing turn x.intent x.policy x.owner current
  | .won workload endpoint => .ended (.ok (.converged workload endpoint))
  | .lost c verb =>
    .ended (.error ⟨.write c.kind verb x.id, [.plane (.conflict c.kind x.id)]⟩)

/-- A child as all passes want to write it. -/
abbrev owned (c : Child) : c.Object := c.owned x.intent x.policy x.owner

theorem identity?_owned (c : Child) : Kind.identity? (x.owned c) = .ok x.id :=
  Child.identity?_owned (x.good.stamped x.stored).identity x.policy x.owner c

/-! ## One step -/

/-- What a call does in a contest. The write of a child is served, or there
is a conflict because the child is not what was read. -/
inductive Step (u : Store) : Position → Store → Position → Prop
  | intent : Step u .start (u.record ⟨.get, .intent, x.id⟩) (.reading .workload)
  | read (turn : Turn) :
      Step u (.reading turn) (u.record ⟨.get, turn.child.kind, x.id⟩)
        (.writing turn (u.stored? turn.child.kind x.id))
  | wrote (turn : Turn) (current : Option turn.child.Object) :
      Step u (.writing turn current)
        ((u.keep x.id (Child.written (x.owned turn.child) current)).2.record
          ⟨Child.callVerb current, turn.child.kind, x.id⟩)
        (Position.afterWrite turn (Child.action current))
  | lost (turn : Turn) (current : Option turn.child.Object)
      (h : u.stored? turn.child.kind x.id ≠ current) :
      Step u (.writing turn current) (u.record ⟨Child.callVerb current, turn.child.kind, x.id⟩)
        (.lost turn.child (Child.writeVerb current))

/-- A child that was written stays behind a pass. -/
theorem Step.past {x : Contest} {u t : Store} {p q : Position} (h : x.Step u p t q) {c : Child}
    (hp : p.Past c) : q.Past c := by
  cases h with
  | intent => exact hp.elim
  | read turn => exact hp
  | lost turn current => exact hp
  | wrote turn current =>
    cases turn with
    | workload => exact nomatch hp.2
    | endpoint first => trivial

variable {x}

/-- If a child that was read is still there, its write is served or meets a
conflict. It does meet one only if the child is not what was read. -/
theorem plane_write {u : Store} (hu : u.Good) (hserves : ∀ c, u.treatment c = .serves)
    {turn : Turn} {current : Option turn.child.Object}
    (hpresent : current ≠ none → u.stored? turn.child.kind x.id ≠ none) :
    let call := Child.write (x.owned turn.child) current
    let record : CallRecord := ⟨Child.callVerb current, turn.child.kind, x.id⟩
    (∃ a, Store.plane call u =
      (.answers (.ok a), (u.keep x.id (Child.written (x.owned turn.child) current)).2.record
        record)) ∨
    u.stored? turn.child.kind x.id ≠ current ∧
      Store.plane call u =
        (.answers (.error (.of (.conflict turn.child.kind x.id))), u.record record) := by
  have hid := x.identity?_owned turn.child
  cases current with
  | none =>
    have hplane := Store.plane_create hu hid
    rw [hserves] at hplane
    cases hstored : u.stored? turn.child.kind x.id with
    | none =>
      rw [hstored] at hplane
      exact .inl ⟨_, hplane⟩
    | some now =>
      rw [hstored] at hplane
      exact .inr ⟨fun h => (nomatch h), hplane⟩
  | some old =>
    have hid : Kind.identity? (Child.carryOver (x.owned turn.child) old) = .ok x.id :=
      (Child.identity?_written (x.owned turn.child) (some old)).trans hid
    have hplane := Store.plane_replace hu hid
    rw [hserves] at hplane
    obtain ⟨now, hnow⟩ := Option.ne_none_iff_exists'.1 (hpresent (fun h => nomatch h))
    rw [hnow, Child.versionOf_carryOver] at hplane
    by_cases hv : Store.versionOf now = Store.versionOf old
    · simp only [hv, if_true] at hplane
      exact .inl ⟨_, hplane⟩
    · simp only [hv, if_false] at hplane
      rw [hnow]
      exact .inr ⟨fun he => hv (congrArg _ (Option.some.inj he)), hplane⟩

/-! ## The invariant -/

/-- A child as it is written over what was stored at first, up to its version. -/
def Written (x : Contest) (c : Child) (o? : Option c.Object) : Prop :=
  ∃ o, o? = some o ∧ Child.unversioned o =
    Child.unversioned (Child.written (x.owned c) (x.first.stored? c.kind x.id))

/-- A child is as it was at first, or it was written. -/
def Faithful (x : Contest) (c : Child) (o? : Option c.Object) : Prop :=
  o? = x.first.stored? c.kind x.id ∨ x.Written c o?

/-- To write over a faithful child is to write the same. -/
theorem Faithful.written {c : Child} {current : Option c.Object} (h : x.Faithful c current)
    (v : String) :
    x.Written c (some (Store.withVersion (Child.written (x.owned c) current) v)) := by
  refine ⟨_, rfl, ?_⟩
  rw [Child.unversioned_withVersion]
  rcases h with rfl | ⟨o, rfl, ho⟩
  · rfl
  · exact Child.unversioned_written_over ho

variable {ι : Type}

/-- The state of a contest: where each pass is, and what this says about the
children. -/
structure Contested (x : Contest) (u : Store) (position : ι → Position) : Prop where
  good : u.Good
  serves : ∀ c, u.treatment c = .serves
  intent : u.stored? .intent x.id = some x.intent
  /-- What is stored is faithful, and so is what was read. -/
  stored : ∀ c : Child, x.Faithful c (u.stored? c.kind x.id)
  read : ∀ i turn current, position i = .writing turn current → x.Faithful turn.child current
  /-- A child that was there is still there. -/
  present : ∀ i turn current, position i = .writing turn current →
    current ≠ none → u.stored? turn.child.kind x.id ≠ none
  /-- What was read is stored still, or somebody has written the child since. -/
  fresh : ∀ i turn current, position i = .writing turn current →
    u.stored? turn.child.kind x.id = current ∨ ∃ j, (position j).Past turn.child
  /-- A child that one pass has lost was written by another. -/
  lost : ∀ i c verb, position i = .lost c verb → ∃ j, (position j).Past c
  /-- A child that a pass has written is there. -/
  written : ∀ j (c : Child), (position j).Past c → x.Written c (u.stored? c.kind x.id)

variable {u t : Store} {position : ι → Position} {q : Position} {i : ι}

theorem contested_first (x : Contest) : x.Contested x.first fun _ : ι => .start where
  good := x.good
  serves := x.serves
  intent := x.stored
  stored := fun _ => .inl rfl
  read := fun _ _ _ h => nomatch h
  present := fun _ _ _ h => nomatch h
  fresh := fun _ _ _ h => nomatch h
  lost := fun _ _ _ h => nomatch h
  written := fun _ _ h => h.elim

theorem Contested.plane_get (h : x.Contested u position) (k : Kind) :
    Store.plane (.get k x.id) u =
      (.answers (.ok (u.stored? k x.id)), u.record ⟨.get, k, x.id⟩) := by
  rw [Store.plane_get h.good, h.serves]

/-- What the served write of a child does to the store `u`. -/
structure Overwrites (x : Contest) (turn : Turn) (u t : Store) : Prop where
  good : t.Good
  serves : ∀ c, t.treatment c = u.treatment c
  /-- The child is as any pass would write it. -/
  written : ∀ c, c = turn.child → x.Written c (t.stored? c.kind x.id)
  others : ∀ k, k ≠ turn.child.kind → t.stored? k x.id = u.stored? k x.id

theorem Contested.overwrites (h : x.Contested u position) {turn : Turn}
    {current : Option turn.child.Object} (hi : position i = .writing turn current)
    (r : CallRecord) :
    x.Overwrites turn u
      ((u.keep x.id (Child.written (x.owned turn.child) current)).2.record r) := by
  have hid : Kind.identity? (Child.written (x.owned turn.child) current) = .ok x.id :=
    (Child.identity?_written _ current).trans (x.identity?_owned turn.child)
  constructor
  case good =>
    apply Store.Good.record
    exact (Store.Change.kept x.id _ hid rfl rfl).good h.good
  case serves => exact fun _ => rfl
  case written =>
    rintro c rfl
    rw [Store.stored?_record, Store.stored?_keep_self]
    exact (h.read i turn current hi).written u.nextVersion
  case others =>
    intro k hk
    rw [Store.stored?_record]
    apply Store.stored?_keep_ne
    exact fun he => hk (congrArg Key.kind he)

/-! ## Crowds that contend -/

/-- The passes of a crowd are at their positions in a contest. -/
structure Contends (x : Contest) (c : Crowd ι Verdict) (position : ι → Position) : Prop where
  members : ∀ i, c.members i = { rest := (x.stage (position i)).rest x.policies x.id }
  contested : x.Contested c.store position

variable {c : Crowd ι Verdict}

/-- A pass that has ended has won or lost. -/
theorem Contends.ended (h : x.Contends c position) (hend : (c.ending? i).isSome) :
    (∃ workload endpoint, position i = .won workload endpoint) ∨
      ∃ child verb, position i = .lost child verb := by
  have hmember := h.members i
  cases hi : position i with
  | won workload endpoint => exact .inl ⟨_, _, rfl⟩
  | lost child verb => exact .inr ⟨_, _, rfl⟩
  | start | reading | writing =>
    rw [hi] at hmember
    rw [Crowd.ending?, hmember] at hend
    cases hend

/-- Whoever loses a child loses it to a pass that has written it. So in the
end there is a pass that has written both. -/
theorem Contends.exists_won (h : x.Contends c position) (hend : ∀ i, (c.ending? i).isSome)
    [Nonempty ι] : ∃ i workload endpoint, position i = .won workload endpoint := by
  have hendpoint : ∀ i, (position i).Past .endpoint →
      ∃ i workload endpoint, position i = .won workload endpoint := by
    intro i hpast
    rcases h.ended (hend i) with ⟨w, e, hi⟩ | ⟨child, verb, hi⟩
    · exact ⟨i, w, e, hi⟩
    · rw [hi] at hpast
      exact nomatch hpast.1
  have hworkload : ∀ i, (position i).Past .workload →
      ∃ i workload endpoint, position i = .won workload endpoint := by
    intro i hpast
    rcases h.ended (hend i) with ⟨w, e, hi⟩ | ⟨child, verb, hi⟩
    · exact ⟨i, w, e, hi⟩
    · rw [hi] at hpast
      obtain ⟨j, hj⟩ := h.contested.lost i child verb hi
      exact hendpoint j (hpast.2 ▸ hj)
  obtain ⟨i⟩ := ‹Nonempty ι›
  rcases h.ended (hend i) with ⟨w, e, hi⟩ | ⟨child, verb, hi⟩
  · exact ⟨i, w, e, hi⟩
  · obtain ⟨j, hj⟩ := h.contested.lost i child verb hi
    cases child with
    | workload => exact hworkload j hj
    | endpoint => exact hendpoint j hj

theorem Contends.ending?_eq (h : x.Contends c position) {v : Verdict}
    (hi : x.stage (position i) = .ended v) : c.ending? i = some v := by
  rw [Crowd.ending?_eq_some, h.members i, hi]
  rfl

/-! ## Steps keep the invariant -/

variable [DecidableEq ι]

/-- A position after a step is that of the pass that made it, or an old one. -/
theorem update_cases {j : ι} {p : Position} (h : Function.update position i q j = p) :
    j = i ∧ q = p ∨ position j = p := by
  by_cases hj : j = i
  · subst hj
    rw [Function.update_self] at h
    exact .inl ⟨rfl, h⟩
  · rw [Function.update_of_ne hj] at h
    exact .inr h

theorem Step.past_update (hstep : x.Step u (position i) t q) {j : ι} {c : Child}
    (h : (position j).Past c) : (Function.update position i q j).Past c := by
  by_cases hj : j = i
  · subst hj
    rw [Function.update_self]
    exact hstep.past h
  · rw [Function.update_of_ne hj]
    exact h

/-- A step that leaves the objects as they are: what is to be shown is about
the new position alone. -/
theorem Contested.recorded (h : x.Contested u position) (r : CallRecord)
    (hstep : x.Step u (position i) (u.record r) q)
    (hread : ∀ turn current, q = .writing turn current →
      u.stored? turn.child.kind x.id = current)
    (hlost : ∀ c verb, q = .lost c verb → ∃ j, (position j).Past c)
    (hpast : ∀ c, q.Past c → (position i).Past c) :
    x.Contested (u.record r) (Function.update position i q) := by
  constructor
  case good => exact h.good.record r
  case serves => exact h.serves
  case intent => exact h.intent
  case stored => exact h.stored
  case read =>
    intro j turn current hj
    rcases update_cases hj with ⟨-, hq⟩ | hj
    · exact hread turn current hq ▸ h.stored turn.child
    · exact h.read j turn current hj
  case present =>
    intro j turn current hj
    rcases update_cases hj with ⟨-, hq⟩ | hj
    · rw [Store.stored?_record, hread turn current hq]
      exact fun hne => hne
    · exact h.present j turn current hj
  case fresh =>
    intro j turn current hj
    rcases update_cases hj with ⟨-, hq⟩ | hj
    · exact .inl (hread turn current hq)
    · rcases h.fresh j turn current hj with hsame | ⟨k, hk⟩
      · exact .inl hsame
      · exact .inr ⟨k, hstep.past_update hk⟩
  case lost =>
    intro j c verb hj
    rcases update_cases hj with ⟨-, hq⟩ | hj
    · obtain ⟨k, hk⟩ := hlost c verb hq
      exact ⟨k, hstep.past_update hk⟩
    · obtain ⟨k, hk⟩ := h.lost j c verb hj
      exact ⟨k, hstep.past_update hk⟩
  case written =>
    intro j c hj
    rcases update_cases (show Function.update position i q j = _ from rfl) with ⟨-, hq⟩ | hsame
    · rw [← hq] at hj
      exact h.written i c (hpast c hj)
    · rw [← hsame] at hj
      exact h.written j c hj

theorem afterWrite_ne_writing {turn turn' : Turn} {action : ChildAction}
    {current : Option turn'.child.Object} :
    Position.afterWrite turn action ≠ .writing turn' current := by
  cases turn <;> exact nofun

theorem afterWrite_ne_lost {turn : Turn} {action : ChildAction} {c : Child} {verb : WriteVerb} :
    Position.afterWrite turn action ≠ .lost c verb := by
  cases turn <;> exact nofun

/-- A step that writes a child: its pass has gone on, and all that was lost
before is lost still. -/
theorem Contested.wrote (h : x.Contested u position) {turn : Turn}
    {current : Option turn.child.Object} (hi : position i = .writing turn current)
    (hstep : x.Step u (position i) t (Position.afterWrite turn (Child.action current)))
    (ht : x.Overwrites turn u t) :
    x.Contested t
      (Function.update position i (Position.afterWrite turn (Child.action current))) := by
  have hpast : ∀ c, c = turn.child → ∃ j, (Function.update position i
      (Position.afterWrite turn (Child.action current)) j).Past c := by
    rintro c rfl
    refine ⟨i, ?_⟩
    rw [Function.update_self]
    exact Position.past_afterWrite turn _
  constructor
  case good => exact ht.good
  case serves => exact fun c => (ht.serves c).trans (h.serves c)
  case intent => exact (ht.others _ turn.child.kind_ne_intent.symm).trans h.intent
  case stored =>
    intro c
    by_cases hc : c = turn.child
    · exact .inr (ht.written c hc)
    · exact (ht.others _ (Child.kind_ne hc)).symm ▸ h.stored c
  case read =>
    intro j turn' current' hj
    rcases update_cases hj with ⟨-, hq⟩ | hj
    · exact absurd hq afterWrite_ne_writing
    · exact h.read j turn' current' hj
  case present =>
    intro j turn' current' hj hne
    rcases update_cases hj with ⟨-, hq⟩ | hj
    · exact absurd hq afterWrite_ne_writing
    · by_cases hc : turn'.child = turn.child
      · obtain ⟨o, ho, _⟩ := ht.written _ hc
        exact fun hnone => nomatch ho.symm.trans hnone
      · rw [ht.others _ (Child.kind_ne hc)]
        exact h.present j turn' current' hj hne
  case fresh =>
    intro j turn' current' hj
    rcases update_cases hj with ⟨-, hq⟩ | hj
    · exact absurd hq afterWrite_ne_writing
    · by_cases hc : turn'.child = turn.child
      · exact .inr (hpast _ hc)
      · rcases h.fresh j turn' current' hj with hsame | ⟨k, hk⟩
        · exact .inl ((ht.others _ (Child.kind_ne hc)).trans hsame)
        · exact .inr ⟨k, hstep.past_update hk⟩
  case lost =>
    intro j c verb hj
    rcases update_cases hj with ⟨-, hq⟩ | hj
    · exact absurd hq afterWrite_ne_lost
    · obtain ⟨k, hk⟩ := h.lost j c verb hj
      exact ⟨k, hstep.past_update hk⟩
  case written =>
    intro j c hj
    by_cases hc : c = turn.child
    · exact ht.written c hc
    · rw [ht.others _ (Child.kind_ne hc)]
      rcases update_cases (show Function.update position i _ j = _ from rfl) with ⟨-, hq⟩ | hsame
      · rw [← hq] at hj
        have hpast := (Position.past_of_afterWrite hj current).resolve_left hc
        exact h.written i c (hi ▸ hpast)
      · rw [← hsame] at hj
        exact h.written j c hj

/-! ## Moves of a crowd -/

theorem Contends.heard (h : x.Contends c position) {call : Call}
    (hmove : c.move (.go i) = (c.does (some i) (.call call)).hears i
      { rest := (x.stage q).rest x.policies x.id })
    (hnext : x.Contested (Store.plane call c.store).2 (Function.update position i q)) :
    x.Contends (c.move (.go i)) (Function.update position i q) := by
  rw [hmove]
  refine ⟨fun j => ?_, hnext⟩
  by_cases hj : j = i
  · subst hj
    rw [Crowd.members_hears_self, Function.update_self]
  · rw [Crowd.members_hears_ne _ _ hj, Function.update_of_ne hj]
    exact h.members j

/-- A pass that has ended does not move. -/
theorem Contends.idle (h : x.Contends c position) {v : Verdict}
    (hi : x.stage (position i) = .ended v) : x.Contends (c.move (.go i)) position := by
  rw [Crowd.move_ended (h.ending?_eq hi)]
  exact h

theorem Contends.read_intent (h : x.Contends c position) (hi : position i = .start) :
    x.Contends (c.move (.go i)) (Function.update position i (.reading .workload)) := by
  have hmember := h.members i
  obtain ⟨next, hrest, hafter⟩ := Stage.start_rest x.policies x.id
  rw [hi, stage, hrest] at hmember
  have hplane := h.contested.plane_get .intent
  have hmove := Crowd.move_answered hmember (congrArg Prod.fst hplane)
  rw [hafter, h.contested.intent, Stage.afterIntent] at hmove
  simp only [x.runtime] at hmove
  apply h.heard (q := .reading .workload) hmove
  have hstep : x.Step c.store (position i) (c.store.record ⟨.get, .intent, x.id⟩)
      (.reading .workload) := by
    rw [hi]
    exact .intent
  rw [hplane]
  apply h.contested.recorded _ hstep
  · intro turn current hq
    cases hq
  · intro c verb hq
    cases hq
  · rintro c ⟨-, hchild⟩
    cases hchild

theorem Contends.read_child (h : x.Contends c position) {turn : Turn}
    (hi : position i = .reading turn) :
    x.Contends (c.move (.go i)) (Function.update position i
      (.writing turn (c.store.stored? turn.child.kind x.id))) := by
  have hmember := h.members i
  obtain ⟨next, hrest, hafter⟩ := Stage.reading_rest x.policies x.id turn x.intent x.policy
  rw [hi, stage, hrest] at hmember
  have hplane := h.contested.plane_get turn.child.kind
  have hmove := Crowd.move_answered hmember (congrArg Prod.fst hplane)
  rw [hafter, Stage.afterRead, x.reference] at hmove
  apply h.heard (q := .writing turn _) hmove
  have hstep : x.Step c.store (position i) (c.store.record ⟨.get, turn.child.kind, x.id⟩)
      (.writing turn (c.store.stored? turn.child.kind x.id)) := by
    rw [hi]
    exact .read turn
  rw [hplane]
  apply h.contested.recorded _ hstep
  · intro turn' current hq
    cases hq
    rfl
  · intro c verb hq
    cases hq
  · intro c hc
    rw [hi]
    exact hc

theorem stage_afterWrite (x : Contest) (turn : Turn) (action : ChildAction) :
    x.stage (Position.afterWrite turn action) =
      Stage.afterWrite x.intent x.policy turn action := by
  cases turn <;> rfl

theorem Contends.write_child (h : x.Contends c position) {turn : Turn}
    {current : Option turn.child.Object} (hi : position i = .writing turn current) :
    ∃ q, x.Contends (c.move (.go i)) (Function.update position i q) ∧
      q.left < (position i).left := by
  have hmember := h.members i
  rw [hi] at hmember
  rcases plane_write h.contested.good h.contested.serves (h.contested.present i turn current hi)
    with ⟨a, hplane⟩ | ⟨hne, hplane⟩
  · refine ⟨Position.afterWrite turn (Child.action current), ?_,
      hi ▸ Position.left_afterWrite turn _ current⟩
    have hmove := Crowd.move_answered hmember (congrArg Prod.fst hplane)
    have hstep := Step.wrote (x := x) (u := c.store) turn current
    rw [Pass.unnoted, Stage.unnoted_next x.policies x.policy, ← x.stage_afterWrite] at hmove
    apply h.heard hmove
    rw [← hi] at hstep
    rw [hplane]
    exact h.contested.wrote hi hstep (h.contested.overwrites hi _)
  · refine ⟨.lost turn.child (Child.writeVerb current), ?_, by rw [hi]; cases turn <;> simp [Position.left]⟩
    have hmove := Crowd.move_failed hmember (congrArg Prod.fst hplane)
    have hstep := Step.lost (x := x) turn current hne
    apply h.heard (q := .lost turn.child (Child.writeVerb current)) hmove
    rw [← hi] at hstep
    rw [hplane]
    apply h.contested.recorded _ hstep
    · intro turn' current' hq
      cases hq
    · intro c verb hq
      cases hq
      exact (h.contested.fresh i turn current hi).resolve_left hne
    · intro c hc
      rw [hi]
      exact hc

/-- A move keeps a contest going, and brings its pass nearer to the end. -/
theorem Contends.go (h : x.Contends c position) (i : ι) :
    ∃ q, x.Contends (c.move (.go i)) (Function.update position i q) ∧
      q.left ≤ (position i).left - 1 := by
  cases hi : position i with
  | start => exact ⟨_, h.read_intent hi, by decide⟩
  | reading turn =>
    refine ⟨_, h.read_child hi, ?_⟩
    cases turn <;> simp [Position.left]
  | writing turn current =>
    obtain ⟨q, hq, hleft⟩ := h.write_child hi
    rw [hi] at hleft
    exact ⟨q, hq, by omega⟩
  | won workload endpoint =>
    refine ⟨position i, ?_, by rw [hi]; simp [Position.left]⟩
    rw [Function.update_eq_self]
    exact h.idle (i := i) (v := .ok (.converged workload endpoint)) (by rw [hi]; rfl)
  | lost child verb =>
    refine ⟨position i, ?_, by rw [hi]; simp [Position.left]⟩
    rw [Function.update_eq_self]
    exact h.idle (i := i) (v := .error ⟨.write child.kind verb x.id,
      [.plane (.conflict child.kind x.id)]⟩) (by rw [hi]; rfl)

theorem contends_run (x : Contest) (order : List ι) :
    ∃ position, x.Contends ((Crowd.start x.first fun _ : ι =>
      Pass.reconcile x.policies x.id).run (order.map .go)) position ∧
      ∀ i, (position i).left ≤ 5 - order.count i := by
  have hstart : x.Contends (Crowd.start x.first fun _ : ι => Pass.reconcile x.policies x.id)
      fun _ => .start := ⟨fun _ => rfl, contested_first x⟩
  exact Crowd.run_order Contends.go hstart order

/-! ## The end of a contest -/

/-- The children that one pass alone leaves are written ones. -/
theorem written_alone (x : Contest) (child : Child) :
    x.Written child (((Pass.reconcile x.policies x.id).run (.alone []) x.first).state.stored?
      child.kind x.id) := by
  have hplan := Planned.ready x.stored x.runtime x.reference
  rw [hplan.run_eq x.good [],
    follow_served [] x.id _ (fun c _ => x.serves c.record) fun _ _ => rfl]
  cases child with
  | workload => exact ⟨_, stored?_workload_afterAll, Child.unversioned_withVersion _ _⟩
  | endpoint => exact ⟨_, stored?_endpoint_afterAll, Child.unversioned_withVersion _ _⟩

end Contest

section

variable {ι : Type} [DecidableEq ι] {s : Store} {policies : PolicyTable}
  {policy : RuntimePolicy} {id : Identity} {intent : Intent} {uid : String}

/-- The contest for an intent with a uid and a known runtime. -/
def Contest.ofStore (hs : s.Reachable) (hintent : s.stored? .intent id = some intent)
    (huid : intent.metadata.uid = some uid)
    (hruntime : policies.resolve intent.spec.runtimeSelector = .ok policy)
    (hserves : ∀ c, s.treatment c = .serves) : Contest :=
  ⟨s, policies, id, intent, policy, .toIntent id.name uid, hs.good, hintent, hruntime,
    Intent.reference_eq (hs.good.stamped hintent).identity huid, hserves⟩

/-- Passes over one intent with a uid and a known runtime make their calls in
any order, from any state on, every call being served. When all have ended,
one has converged, each other one has met a conflict, and the children are
those that one pass alone would have left, up to their versions. -/
theorem some_contending_pass_converges [Nonempty ι] (hs : s.Reachable)
    (hintent : s.stored? .intent id = some intent) (huid : intent.metadata.uid = some uid)
    (hruntime : policies.resolve intent.spec.runtimeSelector = .ok policy)
    (hserves : ∀ c, s.treatment c = .serves) (order : List ι) :
    let crowd := (Crowd.start s fun _ : ι => Pass.reconcile policies id).run (order.map .go)
    let alone := (Pass.reconcile policies id).run (.alone []) s
    (∀ i, (crowd.ending? i).isSome) →
      (∃ i workload endpoint, crowd.ending? i = some (.ok (.converged workload endpoint))) ∧
      (∀ i, (∃ workload endpoint, crowd.ending? i = some (.ok (.converged workload endpoint))) ∨
        ∃ (c : Child) (verb : WriteVerb), crowd.ending? i = some (.error
          ⟨.write c.kind verb id, [.plane (.conflict c.kind id)]⟩)) ∧
      ∀ c : Child, ∃ left expected : c.Object,
        crowd.store.stored? c.kind id = some left ∧
          alone.state.stored? c.kind id = some expected ∧
          Child.unversioned left = Child.unversioned expected := by
  intro crowd alone hend
  let x := Contest.ofStore hs hintent huid hruntime hserves
  obtain ⟨position, h, _⟩ := x.contends_run order
  have hwon : ∀ {i w e}, position i = .won w e →
      crowd.ending? i = some (.ok (.converged w e)) :=
    fun hi => h.ending?_eq (by rw [hi]; rfl)
  obtain ⟨i, w, e, hi⟩ := h.exists_won hend
  refine ⟨⟨i, w, e, hwon hi⟩, fun j => ?_, fun c => ?_⟩
  · rcases h.ended (hend j) with ⟨w, e, hj⟩ | ⟨child, verb, hj⟩
    · exact .inl ⟨w, e, hwon hj⟩
    · exact .inr ⟨child, verb, h.ending?_eq (by rw [hj]; rfl)⟩
  · have hpast : (position i).Past c := by rw [hi]; trivial
    obtain ⟨left, hleft, heq⟩ := h.contested.written i c hpast
    obtain ⟨expected, hexpected, heq'⟩ := x.written_alone c
    exact ⟨left, expected, hleft, hexpected, heq.trans heq'.symm⟩

/-- Two passes at a busy store, one of which reads the workload too early. -/
theorem one_of_two_contending_passes_converges :
    let crowd := (Crowd.start busyStore fun _ : Bool => Pass.reconcile .standard llamaId).run
      ([true, false, true, false, true, false, true, true].map .go)
    let alone := (Pass.reconcile .standard llamaId).run (.alone []) busyStore
    (∃ i workload endpoint, crowd.ending? i = some (.ok (.converged workload endpoint))) ∧
      (∀ i, (∃ workload endpoint, crowd.ending? i = some (.ok (.converged workload endpoint))) ∨
        ∃ (c : Child) (verb : WriteVerb), crowd.ending? i = some (.error
          ⟨.write c.kind verb llamaId, [.plane (.conflict c.kind llamaId)]⟩)) ∧
      ∀ c : Child, ∃ left expected : c.Object,
        crowd.store.stored? c.kind llamaId = some left ∧
          alone.state.stored? c.kind llamaId = some expected ∧
          Child.unversioned left = Child.unversioned expected :=
  some_contending_pass_converges busyStore_reachable busyStore_intent rfl rfl busyStore_serves _
    fun i => by cases i <;> rfl

/-- A contending pass ends: five calls are enough, however many are made by
the others in between. -/
theorem a_contending_pass_ends (hs : s.Reachable)
    (hintent : s.stored? .intent id = some intent) (huid : intent.metadata.uid = some uid)
    (hruntime : policies.resolve intent.spec.runtimeSelector = .ok policy)
    (hserves : ∀ c, s.treatment c = .serves) (order : List ι) {i : ι} (hi : 5 ≤ order.count i) :
    (((Crowd.start s fun _ : ι => Pass.reconcile policies id).run (order.map .go)).ending?
      i).isSome := by
  let x := Contest.ofStore hs hintent huid hruntime hserves
  obtain ⟨position, h, hleft⟩ := x.contends_run order
  have hzero : (position i).left = 0 := by
    have hle := hleft i
    omega
  rcases Position.left_eq_zero hzero with ⟨w, e, hp⟩ | ⟨child, verb, hp⟩
  · have hend := h.ending?_eq (i := i) (v := .ok (.converged w e)) (by rw [hp]; rfl)
    exact hend ▸ rfl
  · have hend := h.ending?_eq (i := i) (v := .error ⟨.write child.kind verb id,
      [.plane (.conflict child.kind id)]⟩) (by rw [hp]; rfl)
    exact hend ▸ rfl

end

end ServingOperator
