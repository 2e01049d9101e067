-- Where the writes of a pass come from. A pass writes a child only after it
-- has read an intent, and what it writes is built from that intent and from
-- its last read of the child. What a pass builds on is an invariant of its
-- stages: each call of its own keeps it, and so does all that others do.
import ServingOperator.Proofs.LostUpdate

namespace ServingOperator

variable {ι : Type}

/-! ## What a pass builds on -/

/-- Pass `i` has read this intent. -/
def HasRead (i : ι) (id : Identity) (intent : Intent) (history : List (Deed ι)) : Prop :=
  ∃ read ∈ history, read.who = some i ∧ read.answers (.get .intent id) (some intent)

theorem HasRead.cons {i : ι} {id : Identity} {intent : Intent} {history : List (Deed ι)}
    (h : HasRead i id intent history) (d : Deed ι) : HasRead i id intent (d :: history) := by
  obtain ⟨read, hread, hown⟩ := h
  exact ⟨read, .tail d hread, hown⟩

/-- Pass `i` goes by an intent that it has read, and by the policy of the
runtime that this intent names. -/
structure Basis (policies : PolicyTable) (i : ι) (id : Identity) (history : List (Deed ι))
    (intent : Intent) (policy : RuntimePolicy) : Prop where
  identity : Kind.identity? (k := .intent) intent = .ok id
  hasRead : HasRead i id intent history
  resolved : policies.resolve intent.spec.runtimeSelector = .ok policy

section

variable {policies : PolicyTable} {i : ι} {id : Identity} {history : List (Deed ι)}
  {st : Stage} {intent : Intent} {policy : RuntimePolicy}

theorem Basis.cons (h : Basis policies i id history intent policy) (d : Deed ι) :
    Basis policies i id (d :: history) intent policy :=
  { h with hasRead := h.hasRead.cons d }

namespace Stage

/-- What a pass at a stage builds on, given what was done so far. -/
def Grounded (policies : PolicyTable) (i : ι) (id : Identity) (history : List (Deed ι)) :
    Stage → Prop
  | start => True
  | reading _ intent policy => Basis policies i id history intent policy
  | writing turn intent policy owner current =>
    Basis policies i id history intent policy ∧ intent.reference = .ok owner ∧
      ∃ between read older, LastRead i id turn.child current history between read older
  | ended _ => True

/-- What others do takes away nothing that a pass builds on. -/
theorem Grounded.cons {d : Deed ι} (h : st.Grounded policies i id history)
    (hd : d.who ≠ some i) : st.Grounded policies i id (d :: history) := by
  cases st with
  | start | ended => trivial
  | reading => exact Basis.cons h d
  | writing =>
    obtain ⟨hbasis, howner, between, read, older, hread⟩ := h
    exact ⟨hbasis.cons d, howner, _, _, _, hread.cons hd⟩

/-- The answer to a call of its own gives a pass what it builds on next. -/
theorem Asks.grounded {context : ReconcileError} {call : Call} {after : call.Answer → Stage}
    (h : Asks policies id st context call after) (hst : st.Grounded policies i id history)
    {s : Store} (hs : s.Good) {a : call.Answer} (ha : (Store.plane call s).1 = .answers (.ok a)) :
    (after a).Grounded policies i id (⟨some i, s, .call call⟩ :: history) := by
  cases h with
  | start =>
    have hstored := hs.found ha
    cases a with
    | none => trivial
    | some intent =>
      unfold afterIntent
      cases hruntime : policies.resolve (IntentSpec.runtimeSelector (Intent.spec intent)) with
      | error r =>
        simp only [hruntime]
        trivial
      | ok policy =>
        simp only [hruntime]
        exact ⟨(hs.stamped hstored).identity, ⟨_, .head _, rfl, rfl, ha⟩, hruntime⟩
  | reading turn intent policy =>
    unfold afterRead
    cases howner : intent.reference with
    | error r => trivial
    | ok owner =>
      have hread : LastRead i id turn.child a (⟨some i, s, .call (.get turn.child.kind id)⟩ ::
          history) [] ⟨some i, s, .call (.get turn.child.kind id)⟩ history :=
        ⟨rfl, rfl, ⟨rfl, ha⟩, fun _ h => nomatch h⟩
      exact ⟨Basis.cons hst _, howner, _, _, _, hread⟩
  | writing turn intent policy owner current =>
    cases turn with
    | workload => exact hst.1.cons _
    | endpoint first => trivial

/-- At a stage that is not the last, a pass asks for something. -/
theorem ended_or_asks (policies : PolicyTable) (id : Identity) (st : Stage) :
    (∃ v, st = ended v) ∨ ∃ (context : ReconcileError) (call : Call)
      (after : call.Answer → Stage), Asks policies id st context call after := by
  cases st with
  | start => exact .inr ⟨_, _, _, .start⟩
  | reading turn intent policy => exact .inr ⟨_, _, _, .reading turn intent policy⟩
  | writing turn intent policy owner current =>
    exact .inr ⟨_, _, _, .writing turn intent policy owner current⟩
  | ended v => exact .inl ⟨v, rfl⟩

/-- A pass that is about to make a call is at a stage that asks for it. -/
theorem exists_asks {call : Call} {next : Reply call.Answer → Attempt Outcome}
    (h : .ask call next = st.rest policies id) :
    ∃ (context : ReconcileError) (after : call.Answer → Stage)
      (answered : call.Answer → Attempt Outcome),
      Asks policies id st context call after ∧
        .ask call next = Attempt.request id context call answered ∧
        ∀ a, (answered a).unnoted = (after a).rest policies id := by
  rcases ended_or_asks policies id st with ⟨v, rfl⟩ | ⟨context, call', after, hasks⟩
  · cases h
  · obtain ⟨answered, hrest, hanswered⟩ := hasks.rest_eq
    rw [hrest] at h
    cases h
    exact ⟨context, after, answered, hasks, rfl, hanswered⟩

end Stage

end

/-! ## The invariant of a crowd -/

/-- Each deed of a pass is a call that the pass asked for at a stage where it
knew what it builds on. -/
def AllAsked (policies : ι → PolicyTable) (id : ι → Identity) : List (Deed ι) → Prop
  | [] => True
  | d :: earlier =>
    (∀ i, d.who = some i → ∃ (st : Stage) (context : ReconcileError) (call : Call)
      (after : call.Answer → Stage), Stage.Asks (policies i) (id i) st context call after ∧
        d.op = .call call ∧ st.Grounded (policies i) i (id i) earlier) ∧
    AllAsked policies id earlier

/-- What was asked for can be seen at any deed. -/
theorem AllAsked.cut {policies : ι → PolicyTable} {id : ι → Identity}
    {later earlier : List (Deed ι)} {d : Deed ι}
    (h : AllAsked policies id (later ++ d :: earlier)) : AllAsked policies id (d :: earlier) := by
  induction later with
  | nil => exact h
  | cons d' rest ih => exact ih h.2

namespace Crowd

/-- The history leads to the store, each pass that is not held up knows what
it builds on, and so it did whenever it made a call. -/
structure Grounded (policies : ι → PolicyTable) (id : ι → Identity) (s : Store)
    (c : Crowd ι Verdict) : Prop where
  leads : Leads s c.history c.store
  stages : ∀ i, ∃ st : Stage, (c.members i).rest = st.rest (policies i) (id i) ∧
    ((c.members i).hangs = false → st.Grounded (policies i) i (id i) c.history)
  asked : AllAsked policies id c.history

variable {policies : ι → PolicyTable} {id : ι → Identity} {s : Store} {c c' : Crowd ι Verdict}

theorem grounded_start (policies : ι → PolicyTable) (id : ι → Identity) (s : Store) :
    Grounded policies id s (start s fun i => Pass.reconcile (policies i) (id i)) where
  leads := rfl
  stages := fun _ => ⟨.start, rfl, fun _ => trivial⟩
  asked := trivial

/-- A pass that has heard the answer to its call knows what it builds on. -/
theorem grounded_reaction {policies : PolicyTable} {i : ι} {id : Identity} {s : Store}
    (hs : s.Good) {history : List (Deed ι)} {st : Stage}
    (hst : st.Grounded policies i id history) {call : Call}
    {next : Reply call.Answer → Attempt Outcome} (hrest : .ask call next = st.rest policies id) :
    ∃ st' : Stage, (reaction call next (Store.plane call s).1).rest = st'.rest policies id ∧
      ((reaction call next (Store.plane call s).1).hangs = false →
        st'.Grounded policies i id (⟨some i, s, .call call⟩ :: history)) := by
  obtain ⟨context, after, answered, hasks, hnext, hanswered⟩ := Stage.exists_asks hrest
  cases hnext
  rcases hplane : (Store.plane call s).1 with _ | ⟨r | a⟩
  · exact ⟨st, hrest, fun h => nomatch h⟩
  · exact ⟨.ended (.error (r.wrap context)), rfl, fun _ => trivial⟩
  · exact ⟨after a, hanswered a, fun _ => hasks.grounded hst hs hplane⟩

variable [DecidableEq ι]

theorem Grounded.moved (hs : s.Good) (h : Grounded policies id s c) (hmoved : Moved c c') :
    Grounded policies id s c' := by
  cases hmoved with
  | idle => exact h
  | others op =>
    constructor
    case leads => exact ⟨rfl, h.leads⟩
    case stages =>
      intro j
      obtain ⟨st, hst, hgrounded⟩ := h.stages j
      exact ⟨st, hst, fun hhangs => (hgrounded hhangs).cons nofun⟩
    case asked => exact ⟨nofun, h.asked⟩
  | @cancelled i call next hi =>
    refine ⟨h.leads, fun j => ?_, h.asked⟩
    by_cases hj : j = i
    · subst hj
      obtain ⟨st, hst, _⟩ := h.stages j
      rw [hi] at hst
      rw [members_hears_self]
      refine ⟨.ended (.error (.of (.cancelled (id j)))), ?_, fun _ => trivial⟩
      rw [Stage.cancelled_rest hst]
      rfl
    · rw [members_hears_ne _ _ hj]
      exact h.stages j
  | @called i call next hi =>
    obtain ⟨st, hst, hgrounded⟩ := h.stages i
    rw [hi] at hst hgrounded
    constructor
    case leads => exact ⟨rfl, h.leads⟩
    case stages =>
      intro j
      by_cases hj : j = i
      · subst hj
        rw [members_hears_self]
        exact grounded_reaction (h.leads.later.good hs) (hgrounded rfl) hst
      · rw [members_hears_ne _ _ hj]
        obtain ⟨st', hst', hgrounded'⟩ := h.stages j
        exact ⟨st', hst', fun hhangs => (hgrounded' hhangs).cons fun he =>
          hj (Option.some.inj he).symm⟩
    case asked =>
      refine ⟨fun j hown => ?_, h.asked⟩
      cases hown
      obtain ⟨context, after, _, hasks, _⟩ := Stage.exists_asks hst
      exact ⟨st, context, call, after, hasks, rfl, hgrounded rfl⟩

theorem grounded_run (hs : s.Good) (policies : ι → PolicyTable) (id : ι → Identity)
    (moves : List (Move ι)) :
    Grounded policies id s ((start s fun i => Pass.reconcile (policies i) (id i)).run moves) :=
  run_induction (fun _ _ h hmoved => h.moved hs hmoved) _ (grounded_start policies id s) moves

end Crowd

/-! ## Where a child comes from -/

/-- A deed of pass `i` has written a child: the call was answered, what it
wrote is built from an intent that the pass has read, and it was written over
what the pass has read last. -/
structure BuiltWrite (policies : PolicyTable) (i : ι) (id : Identity) (earlier : List (Deed ι))
    (d : Deed ι) (c : Child) (intent : Intent) (policy : RuntimePolicy) (owner : OwnerReference)
    (current : Option c.Object) : Prop where
  basis : Basis policies i id earlier intent policy
  reference : intent.reference = .ok owner
  read : ∃ between read older, LastRead i id c current earlier between read older
  answered : ∃ a, d.answers (Child.write (c.owned intent policy owner) current) a

section

variable {policies : PolicyTable} {i : ι} {id : Identity} {earlier : List (Deed ι)} {d : Deed ι}
  {c : Child} {intent : Intent} {policy : RuntimePolicy} {owner : OwnerReference}
  {current : Option c.Object}

/-- What a pass has written is stored as it was built. -/
theorem BuiltWrite.stored? (h : BuiltWrite policies i id earlier d c intent policy owner current)
    (hgood : d.before.Good) :
    (d.before.perform d.op).stored? c.kind id = some (Store.withVersion
      (Child.written (c.owned intent policy owner) current) d.before.nextVersion) := by
  obtain ⟨a, hop, ha⟩ := h.answered
  have howned := Child.identity?_owned h.basis.identity policy owner c
  rw [hop]
  cases current with
  | none => exact (hgood.created howned ha).2.stored
  | some old =>
    have howned := (Child.identity?_written _ (some old)).trans howned
    exact (hgood.replaced howned ha).2.stored

/-- What a pass replaces is what it has read. -/
theorem BuiltWrite.overwrites {s : Store} (hs : s.Good) (hleads : Crowd.Leads s earlier d.before)
    {old : c.Object} (h : BuiltWrite policies i id earlier d c intent policy owner (some old)) :
    d.before.stored? c.kind id = some old := by
  obtain ⟨between, read, older, hread⟩ := h.read
  obtain ⟨a, hop, ha⟩ := h.answered
  have hid : Kind.identity? (Child.carryOver (c.owned intent policy owner) old) = .ok id :=
    (Child.identity?_written _ (some old)).trans
      (Child.identity?_owned h.basis.identity policy owner c)
  obtain ⟨now, hnow, hv⟩ := ((hleads.later.good hs).replaced hid ha).1
  rw [Child.versionOf_carryOver] at hv
  obtain ⟨hbefore, hlater⟩ := hread.later hleads
  have hfound := (hbefore.good hs).found hread.found.2
  -- the version is still the one that was read, so the object is
  have hsame := hlater.eq_of_versionOf_eq (hbefore.good hs) hfound hnow hv
  exact hsame ▸ hnow

end

namespace Crowd

variable {policies : ι → PolicyTable} {id : ι → Identity} {s : Store} {crowd : Crowd ι Verdict}
  {later earlier : List (Deed ι)} {d : Deed ι} {i : ι}

/-- What happened before a deed leads to the store that it found. -/
theorem Grounded.leads_before (h : Grounded policies id s crowd)
    (hcut : crowd.history = later ++ d :: earlier) : Leads s earlier d.before := by
  have hleads := h.leads
  rw [hcut] at hleads
  exact hleads.cut.1

/-- A call of a pass that is answered and is not a read has written a child. -/
theorem Grounded.builtWrite (h : Grounded policies id s crowd)
    (hcut : crowd.history = later ++ d :: earlier) (hown : d.who = some i) {call : Call}
    {a : call.Answer} (hd : d.answers call a) (hverb : call.verb ≠ .get) :
    ∃ c intent policy owner current, call.kind = c.kind ∧ call.identity? = .ok (id i) ∧
      BuiltWrite (policies i) i (id i) earlier d c intent policy owner current := by
  have hasked := h.asked
  rw [hcut] at hasked
  obtain ⟨st, context, call', after, hasks, hop, hst⟩ := hasked.cut.1 i hown
  cases hd.1.symm.trans hop
  cases hasks with
  | start | reading => exact absurd rfl hverb
  | writing turn intent policy owner current =>
    obtain ⟨hbasis, howner, hread⟩ := hst
    have hwritten : BuiltWrite (policies i) i (id i) earlier d turn.child intent policy owner
        current := ⟨hbasis, howner, hread, a, hd⟩
    have hasks : Stage.Asks (policies i) (id i) _ _ _ _ :=
      .writing turn intent policy owner current
    refine ⟨_, intent, policy, owner, current, ?_, hasks.identity?_call hbasis.identity, hwritten⟩
    cases current <;> rfl

/-- What a call of a pass leaves of a child is what was there, or the pass
has written it. -/
theorem Grounded.stored?_of_pass (h : Grounded policies id s crowd) (hgood : d.before.Good)
    (hcut : crowd.history = later ++ d :: earlier) (hown : d.who = some i) (c : Child)
    (j : Identity) :
    (d.before.perform d.op).stored? c.kind j = d.before.stored? c.kind j ∨
      id i = j ∧ ∃ intent policy owner current,
        BuiltWrite (policies i) i (id i) earlier d c intent policy owner current := by
  have hasked := h.asked
  rw [hcut] at hasked
  obtain ⟨_, _, call, _, _, hop, _⟩ := hasked.cut.1 i hown
  rw [hop]
  rcases Store.stored?_plane hgood call c.kind j with hsame | ⟨o, a, hwrites, hj, ha, _⟩
  · exact .inl hsame
  · right
    obtain ⟨c', intent, policy, owner, current, hkind, hid, hwrite⟩ :=
      h.builtWrite hcut hown ⟨hop, ha⟩ hwrites.verb_ne_get
    have hc : c' = c := by
      have hkinds : c'.kind = c.kind := hkind.symm.trans hwrites.kind_eq
      cases c' <;> cases c <;> first | rfl | cases hkinds
    have hi : id i = j := by
      rw [hwrites.identity?_eq, hj] at hid
      exact (Except.ok.inj hid).symm
    subst hc
    exact ⟨hi, intent, policy, owner, current, hwrite⟩

end Crowd

end ServingOperator
