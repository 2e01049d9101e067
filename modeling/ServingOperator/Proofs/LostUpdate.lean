-- The law of lost updates: however passes and other clients take turns, a
-- pass never overwrites what it has not read. A write that comes too late
-- fails, and the pass with it. The versions carry the proof, as none of them
-- is ever given twice.
import ServingOperator.Proofs.PassPlan

namespace ServingOperator

variable {ι : Type}

/-! ## Deeds -/

/-- The answer to a call of a deed. -/
def Deed.answers (d : Deed ι) (call : Call) (a : call.Answer) : Prop :=
  d.op = .call call ∧ (Store.plane call d.before).1 = .answers (.ok a)

/-- The deed stored an object under an identity. -/
inductive Deed.Stores (d : Deed ι) (k : Kind) (i : Identity) : Prop
  | insert (o : k.Object) (hi : Kind.identity? o = .ok i) (h : d.op = .insert k o)
  | create (o stored : k.Object) (hi : Kind.identity? o = .ok i)
      (h : d.answers (.create k o) stored)
  | replace (o stored : k.Object) (hi : Kind.identity? o = .ok i)
      (h : d.answers (.replace k o) stored)

/-- Of the deeds in a history, a read of a child by pass `i` was its last, and
found `current`. -/
structure LastRead (i : ι) (id : Identity) (c : Child) (current : Option c.Object)
    (history between : List (Deed ι)) (read : Deed ι) (older : List (Deed ι)) : Prop where
  cut : history = between ++ read :: older
  own : read.who = some i
  found : read.answers (.get c.kind id) current
  last : ∀ d ∈ between, d.who ≠ some i

theorem LastRead.cons {i : ι} {id : Identity} {c : Child} {current : Option c.Object}
    {history between older : List (Deed ι)} {read d : Deed ι}
    (h : LastRead i id c current history between read older) (hd : d.who ≠ some i) :
    LastRead i id c current (d :: history) (d :: between) read older :=
  ⟨by rw [h.cut]; rfl, h.own, h.found, List.forall_mem_cons.2 ⟨hd, h.last⟩⟩

/-- What a deed stored has the next version. -/
theorem Deed.Stores.stored? {d : Deed ι} {k : Kind} {i : Identity} (h : d.Stores k i)
    (hd : d.before.Good) : ∃ o : k.Object,
      (d.before.perform d.op).stored? k i = some (Store.withVersion o d.before.nextVersion) := by
  cases h with
  | insert o hi h =>
    rw [h, Store.perform, Store.insert, hi]
    exact ⟨o, Store.stored?_keep_self _ _ _⟩
  | create o stored hi h =>
    rw [h.1]
    exact ⟨o, (hd.created hi h.2).2.stored⟩
  | replace o stored hi h =>
    rw [h.1]
    exact ⟨o, (hd.replaced hi h.2).2.stored⟩

/-! ## What a pass knows -/

/-- What a pass at a stage goes by: the intent that it has read is the one
that it is about, and the child was as it is going to write over it. -/
def Stage.Informed (i : ι) (id : Identity) (history : List (Deed ι)) : Stage → Prop
  | .start => True
  | .reading _ intent _ => Kind.identity? (k := .intent) intent = .ok id
  | .writing turn intent _ _ current =>
    Kind.identity? (k := .intent) intent = .ok id ∧
      ∃ between read older, LastRead i id turn.child current history between read older
  | .ended _ => True

theorem Stage.Informed.cons {i : ι} {id : Identity} {history : List (Deed ι)} {st : Stage}
    {d : Deed ι} (h : st.Informed i id history) (hd : d.who ≠ some i) :
    st.Informed i id (d :: history) := by
  cases st with
  | start | ended => trivial
  | reading => exact h
  | writing =>
    obtain ⟨hid, between, read, older, hread⟩ := h
    exact ⟨hid, _, _, _, hread.cons hd⟩

/-- A call of pass `i` to the store `s` writes a child over what the pass has
read last. If it fails, the pass ends as `ending` with that failure. -/
structure OwnWrite (i : ι) (id : Identity) (s : Store) (history : List (Deed ι)) (call : Call)
    (ending : Option Verdict) (c : Child) (o : c.Object) (current : Option c.Object)
    (between : List (Deed ι)) (read : Deed ι) (older : List (Deed ι)) : Prop where
  call_eq : call = Child.write o current
  identity : Kind.identity? o = .ok id
  read : LastRead i id c current history between read older
  failed : ∀ r, (Store.plane call s).1 = .answers (.error r) →
    ending = some (.error (r.wrap (.write c.kind (Child.writeVerb current) id)))

/-- A pass that goes on from a stage after a call: it is at a stage again, it
knows what it goes by there, and if the call was a write, it was an own one. -/
structure GoesOn (policies : PolicyTable) (i : ι) (id : Identity) (s : Store)
    (history : List (Deed ι)) (call : Call) (m : Member Verdict) : Prop where
  stage : ∃ st : Stage, m.rest = st.rest policies id ∧
    (m.hangs = false → st.Informed i id (⟨some i, s, .call call⟩ :: history))
  write : call.verb ≠ .get → ∀ ending, (∀ v, m.rest = .done v → ending = some v) →
    ∃ c o current between read older,
      OwnWrite i id s history call ending c o current between read older

/-- A request that is not a write: it is enough to know the stage after it was
answered. -/
theorem goesOn_of_read {policies : PolicyTable} {i : ι} {id : Identity} {s : Store}
    {history : List (Deed ι)} {context : ReconcileError} {call : Call}
    {next : call.Answer → Attempt Outcome} {st : Stage}
    (hrest : st.rest policies id = Attempt.request id context call next) (hget : call.verb = .get)
    (hnext : ∀ a, (Store.plane call s).1 = .answers (.ok a) → ∃ st' : Stage,
      (next a).unnoted = st'.rest policies id ∧
        st'.Informed i id (⟨some i, s, .call call⟩ :: history))
    {next' : Reply call.Answer → Attempt Outcome}
    (hnext' : .ask call next' = Attempt.request id context call next) :
    GoesOn policies i id s history call (Crowd.reaction call next' (Store.plane call s).1) := by
  cases hnext'
  refine ⟨?_, fun h => absurd hget h⟩
  rcases hplane : (Store.plane call s).1 with _ | ⟨r | a⟩
  · exact ⟨st, hrest.symm, fun h => nomatch h⟩
  · exact ⟨.ended (.error (r.wrap context)), rfl, fun _ => trivial⟩
  · obtain ⟨st', hst', hinformed⟩ := hnext a hplane
    exact ⟨st', hst', fun _ => hinformed⟩

theorem informed_afterIntent {policies : PolicyTable} {i : ι} {id : Identity}
    {history : List (Deed ι)} {intent? : Option Intent}
    (h : ∀ intent, intent? = some intent → Kind.identity? (k := .intent) intent = .ok id) :
    (Stage.afterIntent policies id intent?).Informed i id history := by
  unfold Stage.afterIntent
  cases intent? with
  | none => trivial
  | some intent =>
    cases hruntime : policies.resolve intent.spec.runtimeSelector with
    | error r =>
      simp only [hruntime]
      trivial
    | ok policy =>
      simp only [hruntime]
      exact h intent rfl

theorem informed_afterRead {i : ι} {id : Identity} {history : List (Deed ι)} {turn : Turn}
    {intent : Intent} {policy : RuntimePolicy} {current : Option turn.child.Object} {d : Deed ι}
    (hid : Kind.identity? (k := .intent) intent = .ok id) (hown : d.who = some i)
    (hfound : d.answers (.get turn.child.kind id) current) :
    (Stage.afterRead id turn intent policy current).Informed i id (d :: history) := by
  unfold Stage.afterRead
  cases intent.reference with
  | error r => trivial
  | ok owner => exact ⟨hid, [], d, history, rfl, hown, hfound, fun _ h => nomatch h⟩

/-- At each stage a pass goes on as it should. -/
theorem goesOn {policies : PolicyTable} {i : ι} {id : Identity} {s : Store} (hs : s.Good)
    {history : List (Deed ι)} {st : Stage} (hinformed : st.Informed i id history) {call : Call}
    {next : Reply call.Answer → Attempt Outcome} (hst : .ask call next = st.rest policies id) :
    GoesOn policies i id s history call (Crowd.reaction call next (Store.plane call s).1) := by
  cases st with
  | ended v => cases hst
  | start =>
    obtain ⟨next', hrest, hafter⟩ := Stage.start_rest policies id
    rw [hrest] at hst
    cases hst
    refine goesOn_of_read hrest rfl (fun intent? hfound => ⟨_, hafter intent?, ?_⟩) rfl
    refine informed_afterIntent fun intent hintent => ?_
    exact (hs.stamped ((hs.found hfound).trans hintent)).identity
  | reading turn intent policy =>
    obtain ⟨next', hrest, hafter⟩ := Stage.reading_rest policies id turn intent policy
    rw [hrest] at hst
    cases hst
    refine goesOn_of_read hrest rfl (fun current hfound => ⟨_, hafter current, ?_⟩) rfl
    exact informed_afterRead hinformed rfl ⟨rfl, hfound⟩
  | writing turn intent policy owner current =>
    obtain ⟨hid, between, read, older, hread⟩ := hinformed
    cases hst
    constructor
    case stage =>
      rcases (Store.plane _ s).1 with _ | ⟨r | a⟩
      · exact ⟨.writing turn intent policy owner current, rfl, fun h => nomatch h⟩
      · exact ⟨.ended _, rfl, fun _ => trivial⟩
      · refine ⟨Stage.afterWrite intent policy turn (Child.action current),
          Stage.unnoted_next policies policy _, fun _ => ?_⟩
        cases turn with
        | workload => exact hid
        | endpoint first => trivial
    case write =>
      intro _ ending hending
      refine ⟨turn.child, turn.child.owned intent policy owner, current, between, read, older,
        rfl, Child.identity?_owned hid policy owner turn.child, hread, fun r hr => ?_⟩
      apply hending
      rw [hr]
      rfl

theorem OwnWrite.mono {i : ι} {id : Identity} {s : Store} {history : List (Deed ι)} {call : Call}
    {ending ending' : Option Verdict} {c : Child} {o : c.Object} {current : Option c.Object}
    {between older : List (Deed ι)} {read : Deed ι}
    (h : OwnWrite i id s history call ending c o current between read older)
    (hending : ∀ v, ending = some v → ending' = some v) :
    OwnWrite i id s history call ending' c o current between read older :=
  ⟨h.call_eq, h.identity, h.read, fun r hr => hending _ (h.failed r hr)⟩

/-! ## The invariant of a crowd -/

namespace Crowd

/-- The history leads to the store, each pass is at a stage and knows what it
goes by there, and all writes of passes so far were own ones. -/
structure Sound (policies : ι → PolicyTable) (id : ι → Identity) (s : Store)
    (c : Crowd ι Verdict) : Prop where
  leads : Leads s c.history c.store
  stages : ∀ i, ∃ st : Stage, (c.members i).rest = st.rest (policies i) (id i) ∧
    ((c.members i).hangs = false → st.Informed i (id i) c.history)
  writes : ∀ later d earlier, c.history = later ++ d :: earlier →
    ∀ i call, d.who = some i → d.op = .call call → call.verb ≠ .get →
      ∃ ch o current between read older,
        OwnWrite i (id i) d.before earlier call (c.ending? i) ch o current between read older

variable {policies : ι → PolicyTable} {id : ι → Identity} {s : Store} {c c' : Crowd ι Verdict}

theorem sound_start (policies : ι → PolicyTable) (id : ι → Identity) (s : Store) :
    Sound policies id s (start s fun i => Pass.reconcile (policies i) (id i)) where
  leads := rfl
  stages := fun _ => ⟨.start, rfl, fun _ => trivial⟩
  writes := fun later d earlier h => by cases later <;> cases h

variable [DecidableEq ι]

/-- What was known of writes before a move is known after it. -/
theorem Sound.writes_moved (h : Sound policies id s c) (hmoved : Moved c c')
    (later : List (Deed ι)) (d : Deed ι) (earlier : List (Deed ι))
    (hcut : c.history = later ++ d :: earlier) (i : ι) (call : Call) (hown : d.who = some i)
    (hop : d.op = .call call) (hwrite : call.verb ≠ .get) :
    ∃ ch o current between read older,
      OwnWrite i (id i) d.before earlier call (c'.ending? i) ch o current between read older := by
  obtain ⟨ch, o, current, between, read, older, hw⟩ :=
    h.writes later d earlier hcut i call hown hop hwrite
  exact ⟨ch, o, current, between, read, older, hw.mono fun v hv => ending?_moved hmoved hv⟩

theorem Sound.moved (hs : s.Good) (h : Sound policies id s c) (hmoved : Moved c c') :
    Sound policies id s c' := by
  have hwrites := h.writes_moved hmoved
  cases hmoved with
  | idle => exact h
  | others op =>
    constructor
    case leads => exact ⟨rfl, h.leads⟩
    case stages =>
      intro j
      obtain ⟨st, hst, hinformed⟩ := h.stages j
      exact ⟨st, hst, fun hhangs => (hinformed hhangs).cons nofun⟩
    case writes =>
      intro later d earlier hcut i call hown hop hwrite
      cases later with
      | nil =>
        cases hcut
        cases hown
      | cons d' later =>
        exact hwrites later d earlier (List.cons.inj hcut).2 i call hown hop hwrite
  | @cancelled i call next hi =>
    constructor
    case leads => exact h.leads
    case stages =>
      intro j
      by_cases hj : j = i
      · subst hj
        obtain ⟨st, hst, _⟩ := h.stages j
        rw [hi] at hst
        rw [members_hears_self]
        refine ⟨.ended (.error (.of (.cancelled (id j)))), ?_, fun _ => trivial⟩
        rw [Stage.cancelled_rest hst]
        rfl
      · rw [members_hears_ne _ _ hj]
        exact h.stages j
    case writes => exact hwrites
  | @called i call next hi =>
    obtain ⟨st, hst, hinformed⟩ := h.stages i
    rw [hi] at hst hinformed
    have hgood := h.leads.later.good hs
    obtain ⟨hstage, hwrite⟩ := goesOn hgood (hinformed rfl) hst
    constructor
    case leads => exact ⟨rfl, h.leads⟩
    case stages =>
      intro j
      by_cases hj : j = i
      · subst hj
        rw [members_hears_self]
        exact hstage
      · rw [members_hears_ne _ _ hj]
        obtain ⟨st', hst', hinformed'⟩ := h.stages j
        exact ⟨st', hst', fun hhangs => (hinformed' hhangs).cons fun he =>
          hj (Option.some.inj he).symm⟩
    case writes =>
      intro later d earlier hcut j call' hown hop hverb
      cases later with
      | nil =>
        cases hcut
        cases hown
        cases hop
        refine hwrite hverb _ fun v hv => ?_
        rw [ending?_eq_some, members_hears_self]
        exact hv
      | cons d' later =>
        exact hwrites later d earlier (List.cons.inj hcut).2 j call' hown hop hverb

theorem sound_run (hs : s.Good) (policies : ι → PolicyTable) (id : ι → Identity)
    (moves : List (Move ι)) :
    Sound policies id s ((start s fun i => Pass.reconcile (policies i) (id i)).run moves) :=
  run_induction (fun _ _ h hmoved => h.moved hs hmoved) _ (sound_start policies id s) moves

end Crowd

/-! ## Writes and what was read before -/

section

variable {i : ι} {id : Identity} {c : Child} {current : Option c.Object}
  {earlier between older : List (Deed ι)} {read d : Deed ι} {s : Store}

/-- Between a read and a write of a pass there are only deeds of others. -/
theorem LastRead.later (h : LastRead i id c current earlier between read older)
    (hleads : Crowd.Leads s earlier d.before) : s.Later read.before ∧ read.before.Later d.before := by
  rw [h.cut] at hleads
  obtain ⟨holder, hbetween⟩ := hleads.cut
  have hread : read.before.Later (read.before.perform read.op) := .perform _ .refl
  exact ⟨holder.later, hread.trans hbetween.later⟩

/-- What a deed after the read has stored is newer than all that was there. -/
theorem LastRead.newer (h : LastRead i id c current earlier between read older)
    (hleads : Crowd.Leads s earlier d.before) (hs : s.Good) {e : Deed ι} (he : e ∈ between)
    (hstores : e.Stores c.kind id) {now : c.Object}
    (hnow : d.before.stored? c.kind id = some now) : read.before.NewerThan (k := c.kind) now := by
  obtain ⟨b₁, b₂, rfl⟩ := List.append_of_mem he
  rw [h.cut, List.append_assoc, List.cons_append] at hleads
  obtain ⟨hbefore, hafter⟩ := hleads.cut
  obtain ⟨holder, hb₂⟩ := hbefore.cut
  have hread : read.before.Later (read.before.perform read.op) := .perform _ .refl
  have hcounter : read.before.counter ≤ e.before.counter := (hread.trans hb₂.later).counter_le
  obtain ⟨o, ho⟩ := hstores.stored? (hbefore.later.good hs)
  rcases hafter.later.stored? c.kind id with hsame | hnewer
  · rw [hsame, ho] at hnow
    cases hnow
    exact ⟨e.before.counter + 1, Store.versionOf_withVersion _ _, Nat.lt_succ_of_le hcounter⟩
  · obtain ⟨n, hn, hlt⟩ := hnewer now hnow
    have hperform := (Store.Later.perform e.op .refl : e.before.Later _).counter_le
    exact ⟨n, hn, by omega⟩

end

/-- The law of a write `d` of pass `i`, a call that writes the child `c` after
the pass has read `current` and others have done what is in `between`. -/
structure WriteLaw (crowd : Crowd ι Verdict) (i : ι) (id : Identity) (c : Child)
    (current : Option c.Object) (between : List (Deed ι)) (d : Deed ι) (call : Call) : Prop where
  kind : call.kind = c.kind
  identity : call.identity? = .ok id
  /-- What was read decides between a create and a replace. -/
  verb : call.verb = Child.callVerb current
  /-- A replace that succeeds overwrites the object that was read. -/
  overwrites : call.verb = .replace → (∃ a, d.answers call a) →
    ∃ old, current = some old ∧ d.before.stored? c.kind id = some old
  /-- A create that succeeds finds nothing. -/
  creates : call.verb = .create → (∃ a, d.answers call a) → d.before.find? ⟨c.kind, id⟩ = none
  /-- If others have stored the child and it is there, there is a conflict. -/
  conflict : d.before.treatment ⟨call.verb, c.kind, id⟩ = .serves →
    (∃ e ∈ between, e.Stores c.kind id) → d.before.stored? c.kind id ≠ none →
      crowd.ending? i = some (.error
        ⟨.write c.kind (Child.writeVerb current) id, [.plane (.conflict c.kind id)]⟩)
  /-- If the child that was read is no more, the write is rejected. -/
  vanished : d.before.treatment ⟨call.verb, c.kind, id⟩ = .serves →
    current ≠ none → d.before.stored? c.kind id = none →
      crowd.ending? i = some (.error
        ⟨.write c.kind (Child.writeVerb current) id,
          [.plane (.rejected c.kind id 404 "NotFound")]⟩)
  /-- If the child is what was read, the write succeeds. -/
  unchanged : d.before.treatment ⟨call.verb, c.kind, id⟩ = .serves →
    d.before.stored? c.kind id = current → ∃ a, d.answers call a

section

variable {crowd : Crowd ι Verdict} {i : ι} {id : Identity} {c : Child} {o : c.Object}
  {earlier between older : List (Deed ι)} {read d : Deed ι} {s : Store}

theorem OwnWrite.law_of_create {call : Call}
    (h : OwnWrite i id d.before earlier call (crowd.ending? i) c o none between read older)
    (hop : d.op = .call call) (hgood : d.before.Good) :
    WriteLaw crowd i id c none between d call := by
  obtain ⟨rfl, hid, _, hfailed⟩ := h
  have hplane := Store.plane_create hgood hid
  constructor
  case kind => rfl
  case identity => exact hid
  case verb => rfl
  case overwrites => exact nofun
  case creates =>
    rintro - ⟨a, ha⟩
    exact hgood.find?_eq_none.2 (hgood.created hid ha.2).1
  case conflict =>
    intro htreat _ hstored
    obtain ⟨now, hnow⟩ := Option.ne_none_iff_exists'.1 hstored
    rw [show d.before.treatment ⟨.create, c.kind, id⟩ = .serves from htreat, hnow] at hplane
    exact hfailed _ (congrArg Prod.fst hplane)
  case vanished => exact fun _ h => absurd rfl h
  case unchanged =>
    intro htreat hstored
    rw [show d.before.treatment ⟨.create, c.kind, id⟩ = .serves from htreat, hstored] at hplane
    exact ⟨_, hop, congrArg Prod.fst hplane⟩

theorem OwnWrite.law_of_replace {old : c.Object} {call : Call}
    (h : OwnWrite i id d.before earlier call (crowd.ending? i) c o (some old) between read older)
    (hop : d.op = .call call) (hleads : Crowd.Leads s earlier d.before) (hs : s.Good) :
    WriteLaw crowd i id c (some old) between d call := by
  obtain ⟨rfl, hid, hread, hfailed⟩ := h
  have hid : Kind.identity? (Child.carryOver o old) = .ok id :=
    (Child.identity?_written o (some old)).trans hid
  have hversion := Child.versionOf_carryOver o old
  have hgood := hleads.later.good hs
  obtain ⟨hbefore, hlater⟩ := hread.later hleads
  have hfound := (hbefore.good hs).found hread.found.2
  have hplane := Store.plane_replace hgood hid
  constructor
  case kind => rfl
  case identity => exact hid
  case verb => rfl
  case overwrites =>
    rintro - ⟨a, ha⟩
    obtain ⟨now, hnow, hv⟩ := (hgood.replaced hid ha.2).1
    rw [hversion] at hv
    -- the version is still the one that was read, so the object is
    have hsame := hlater.eq_of_versionOf_eq (hbefore.good hs) hfound hnow hv
    exact ⟨old, rfl, hsame ▸ hnow⟩
  case creates => exact nofun
  case conflict =>
    intro htreat ⟨e, he, hstores⟩ hstored
    obtain ⟨now, hnow⟩ := Option.ne_none_iff_exists'.1 hstored
    have hnewer := hread.newer hleads hs he hstores hnow
    have hne := hnewer.versionOf_ne ((hbefore.good hs).stamped hfound)
    rw [← hversion] at hne
    rw [show d.before.treatment ⟨.replace, c.kind, id⟩ = .serves from htreat, hnow] at hplane
    simp only [hne, if_false] at hplane
    exact hfailed _ (congrArg Prod.fst hplane)
  case vanished =>
    intro htreat _ hstored
    rw [show d.before.treatment ⟨.replace, c.kind, id⟩ = .serves from htreat, hstored] at hplane
    exact hfailed _ (congrArg Prod.fst hplane)
  case unchanged =>
    intro htreat hstored
    rw [show d.before.treatment ⟨.replace, c.kind, id⟩ = .serves from htreat, hstored] at hplane
    simp only [hversion, if_true] at hplane
    exact ⟨_, hop, congrArg Prod.fst hplane⟩

end

/-- However passes make their calls and other clients do what they like, from
any state on: each write of a pass goes by the last read of that pass, and
the law of writes holds for it. -/
theorem no_pass_overwrites_what_it_has_not_read [DecidableEq ι] {s : Store} (hs : s.Reachable)
    (policies : ι → PolicyTable) (id : ι → Identity) (moves : List (Move ι))
    (later : List (Deed ι)) (d : Deed ι) (earlier : List (Deed ι)) (i : ι) (call : Call) :
    let crowd := (Crowd.start s fun i => Pass.reconcile (policies i) (id i)).run moves
    crowd.history = later ++ d :: earlier → d.who = some i → d.op = .call call →
      call.verb ≠ .get →
        ∃ (c : Child) (current : Option c.Object) (between : List (Deed ι)) (read : Deed ι)
          (older : List (Deed ι)),
          LastRead i (id i) c current earlier between read older ∧
            WriteLaw crowd i (id i) c current between d call := by
  intro crowd hcut hown hop hwrite
  have hsound := Crowd.sound_run hs.good policies id moves
  obtain ⟨c, o, current, between, read, older, hw⟩ :=
    hsound.writes later d earlier hcut i call hown hop hwrite
  have hleads := hsound.leads
  rw [hcut] at hleads
  refine ⟨c, current, between, read, older, hw.read, ?_⟩
  cases current with
  | none => exact hw.law_of_create hop (hleads.cut.1.later.good hs.good)
  | some old => exact hw.law_of_replace hop hleads.cut.1 hs.good

/-- Two passes at a busy store: one of them has read that there is no
workload, then somebody stores one, and then the pass writes. -/
def rivals : Crowd Bool Verdict :=
  (Crowd.start busyStore fun _ => Pass.reconcile .standard llamaId).run
    [.go true, .go false, .go true,
      .others (.insert .workload { metadata := { name := some "llama", ns := some "models" } }),
      .go true]

theorem no_rival_overwrites_what_it_has_not_read :
    ∃ d call, rivals.history.head? = some d ∧ d.op = .call call ∧
      ∃ c current between read older,
        LastRead true llamaId c current rivals.history.tail between read older ∧
          WriteLaw rivals true llamaId c current between d call :=
  ⟨_, _, rfl, rfl, no_pass_overwrites_what_it_has_not_read busyStore_reachable
    (fun _ => .standard) (fun _ => llamaId) _ [] _ _ _ _ rfl rfl rfl (by decide)⟩

end ServingOperator
