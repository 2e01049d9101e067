-- The law of ownership: however passes take turns with each other and with
-- those who store and take away intents, every child that is stored belongs
-- to one intent, the one of its own name and namespace. The reference may be
-- to an intent that is gone by now, but some pass has read it there.
import ServingOperator.Cluster.Watch
import ServingOperator.Proofs.Provenance

namespace ServingOperator

variable {ι : Type}

/-! ## Others that write no children -/

/-- An operation that stores no child. -/
def Store.Operation.SparesChildren : Store.Operation → Prop
  | .insert k _ => k = .intent
  | .call c => c.verb = .get ∨ c.kind = .intent
  | .remove .. | .failOn .. | .clearFailures | .hangOn .. => True

/-- A move that is not another client's writing of a child. -/
def Move.SparesChildren : Move ι → Prop
  | .others op => op.SparesChildren
  | .go _ | .cancel _ => True

/-- Such an operation leaves a child as it is, or takes it away. -/
theorem Store.Operation.SparesChildren.stored? {op : Store.Operation} (h : op.SparesChildren)
    {s : Store} (hs : s.Good) (c : Child) (i : Identity) :
    (s.perform op).stored? c.kind i = s.stored? c.kind i ∨
      (s.perform op).stored? c.kind i = none := by
  have hintent := c.kind_ne_intent
  cases op with
  | insert k o =>
    left
    cases h
    simp only [Store.perform, Store.insert]
    rcases Kind.identity? o with r | j
    · rfl
    · exact s.stored?_keep_ne o fun he => hintent (congrArg Key.kind he)
  | remove k j =>
    by_cases hkey : (⟨c.kind, i⟩ : Key) = ⟨k, j⟩
    · exact .inr (Store.stored?_of_find?_none (by
        rw [hkey, Store.perform, Store.remove, Store.find?_drop_self]))
    · exact .inl (Store.stored?_congr (s.find?_drop_ne hkey))
  | call call =>
    left
    rcases Store.stored?_plane hs call c.kind i with hsame | ⟨o, _, hwrites, _⟩
    · exact hsame
    · rcases h with hget | hkind
      · exact absurd hget hwrites.verb_ne_get
      · exact absurd (hwrites.kind_eq.symm.trans hkind) hintent
  | failOn | clearFailures | hangOn => exact .inl rfl

/-! ## What holds of every child -/

section

variable {policies : ι → PolicyTable} {id : ι → Identity} {crowd : Crowd ι Verdict}
  {later earlier : List (Deed ι)} {d : Deed ι}

/-- All children that are stored are of this sort, given what was done so far. -/
def AllChildren (P : (c : Child) → Identity → List (Deed ι) → c.Object → Prop)
    (history : List (Deed ι)) (s : Store) : Prop :=
  ∀ (c : Child) (i : Identity) (o : c.Object), s.stored? c.kind i = some o → P c i history o

variable {P : (c : Child) → Identity → List (Deed ι) → c.Object → Prop}
  (hcons : ∀ {c i history o}, P c i history o → ∀ d, P c i (d :: history) o)
  (hwritten : ∀ {earlier d i c intent policy owner current},
    BuiltWrite (policies i) i (id i) earlier d c intent policy owner current →
      Crowd.Leads .empty earlier d.before →
        P c (id i) (d :: earlier) (Store.withVersion
          (Child.written (c.owned intent policy owner) current) d.before.nextVersion))
include hcons hwritten

/-- Each deed of a run keeps all children of a sort, if a pass writes no others and nobody
else writes any. -/
theorem AllChildren.deed (hcrowd : Crowd.Grounded policies id .empty crowd)
    (hcut : crowd.history = later ++ d :: earlier)
    (hspares : d.who = none → d.op.SparesChildren) (h : AllChildren P earlier d.before) :
    AllChildren P (d :: earlier) (d.before.perform d.op) := by
  have hleads := hcrowd.leads_before hcut
  have hgood : d.before.Good := hleads.later.good Store.good_empty
  intro c i o ho
  have hkept : (d.before.perform d.op).stored? c.kind i = d.before.stored? c.kind i →
      P c i (d :: earlier) o := by
    intro hsame
    rw [hsame] at ho
    exact hcons (h c i o ho) d
  cases hwho : d.who with
  | none =>
    rcases (hspares hwho).stored? hgood c i with hsame | hgone
    · exact hkept hsame
    · rw [hgone] at ho
      cases ho
  | some j =>
    rcases hcrowd.stored?_of_pass hgood hcut hwho c i with
      hsame | ⟨rfl, intent, policy, owner, current, hwrite⟩
    · exact hkept hsame
    · rw [hwrite.stored? hgood] at ho
      cases ho
      exact hwritten hwrite hleads

/-- What is stored after a run in which others write no children. -/
theorem allChildren_run [DecidableEq ι] (moves : List (Move ι))
    (hmoves : ∀ m ∈ moves, m.SparesChildren) :
    let crowd := (Crowd.start .empty fun i => Pass.reconcile (policies i) (id i)).run moves
    AllChildren P crowd.history crowd.store := by
  intro crowd
  have hcrowd := Crowd.grounded_run Store.good_empty policies id moves
  refine hcrowd.leads.induction (P := AllChildren P) ?_ fun later d earlier hcut h => ?_
  · intro c i o ho
    cases ho
  · refine h.deed hcons hwritten hcrowd hcut fun hwho => ?_
    have hd : d ∈ crowd.history := by
      rw [hcut]
      exact List.mem_append_right later (.head _)
    rcases Crowd.mem_history_run hd hwho with hstart | hmove
    · cases hstart
    · exact hmoves _ hmove

end

/-! ## Children and their intents -/

/-- The object at `i` belongs to the intent at `i` that has this uid, and to
no other. -/
structure OwnedAt {k : Kind} (i : Identity) (uid : String) (o : k.Object) : Prop where
  name : (Kind.metadata o).name = some i.name
  ns : (Kind.metadata o).ns = some i.ns
  owners : (Kind.metadata o).ownerReferences = some
    [{ apiVersion := "kaimera.ai/v1"
       kind := "ModelDeployment"
       name := i.name
       uid := uid
       controller := some true
       blockOwnerDeletion := some true }]

/-- Some pass has read an intent with this uid, and it was stored at `i` then. -/
def UidWasRead (id : ι → Identity) (history : List (Deed ι)) (i : Identity) (uid : String) :
    Prop :=
  ∃ j, id j = i ∧ ∃ read ∈ history, read.who = some j ∧
    ∃ intent : Intent, read.answers (.get .intent i) (some intent) ∧
      read.before.stored? .intent i = some intent ∧ intent.metadata.uid = some uid

/-- A change of a child that is owned leads back to its intent alone. -/
theorem OwnedAt.concerned {c : Child} {i : Identity} {uid : String} {o : c.Object}
    (h : OwnedAt i uid o) : Cluster.concerned i o = [i] := by
  have howners : Cluster.intentOwners (Kind.metadata o) = [i.name] := by
    rw [Cluster.intentOwners, h.owners]
    rfl
  cases c <;> exact congrArg (List.map fun name => (⟨i.ns, name⟩ : Identity)) howners

theorem UidWasRead.cons {id : ι → Identity} {history : List (Deed ι)} {i : Identity}
    {uid : String} (h : UidWasRead id history i uid) (d : Deed ι) :
    UidWasRead id (d :: history) i uid := by
  obtain ⟨j, hj, read, hread, hown⟩ := h
  exact ⟨j, hj, read, .tail d hread, hown⟩

/-- Whatever was stored, a child that is written has the one owner it was
built with. -/
theorem ownerReferences_written {c : Child} (o : c.Object) (owner : OwnerReference)
    (current : Option c.Object) (v : String) :
    (Kind.metadata (Store.withVersion
      (Child.written (Kind.ownedBy o owner) current) v)).ownerReferences = some [owner] := by
  cases current with
  | none => simp [Store.withVersion, Child.written, Kind.ownedBy]
  | some old => simp [Store.withVersion, Child.written, Child.metadata_carryOver, Kind.ownedBy]

/-- What is written for an intent belongs to it. -/
theorem ownedAt_written {c : Child} {intent : Intent} {i : Identity} {uid : String}
    (hid : Kind.identity? (k := .intent) intent = .ok i) (policy : RuntimePolicy)
    (current : Option c.Object) (v : String) :
    OwnedAt i uid (Store.withVersion
      (Child.written (c.owned intent policy (.toIntent i.name uid)) current) v) := by
  have hidentity : Kind.identity? (Store.withVersion
      (Child.written (c.owned intent policy (.toIntent i.name uid)) current) v) = .ok i := by
    rw [Store.identity?_withVersion, Child.identity?_written, Child.identity?_owned hid]
  obtain ⟨hname, hns⟩ := Kind.identity?_eq_ok.1 hidentity
  exact ⟨hname, hns, ownerReferences_written _ (.toIntent i.name uid) current v⟩

/-! ## The invariant of a run -/

/-- Each child that is stored belongs to an intent that was read. -/
def AllOwned (id : ι → Identity) (history : List (Deed ι)) (s : Store) : Prop :=
  AllChildren (fun _ i history o => ∃ uid, OwnedAt i uid o ∧ UidWasRead id history i uid) history s

/-- A child that a pass has written belongs to the intent that the pass has
read. -/
theorem BuiltWrite.owned {policies : PolicyTable} {id : ι → Identity} {earlier : List (Deed ι)}
    {d : Deed ι} {i : ι} {c : Child} {intent : Intent} {policy : RuntimePolicy}
    {owner : OwnerReference} {current : Option c.Object}
    (h : BuiltWrite policies i (id i) earlier d c intent policy owner current)
    (hleads : Crowd.Leads .empty earlier d.before) :
    ∃ uid, OwnedAt (id i) uid (Store.withVersion
        (Child.written (c.owned intent policy owner) current) d.before.nextVersion) ∧
      UidWasRead id (d :: earlier) (id i) uid := by
  obtain ⟨uid, huid, rfl⟩ := Intent.reference_eq_ok h.basis.identity h.reference
  refine ⟨uid, ownedAt_written h.basis.identity policy current _, ?_⟩
  obtain ⟨read, hread, hown, hanswer⟩ := h.basis.hasRead
  obtain ⟨later, older, rfl⟩ := List.append_of_mem hread
  have hgood : read.before.Good := hleads.cut.1.later.good Store.good_empty
  exact ⟨i, rfl, read, .tail d hread, hown, intent, hanswer, hgood.found hanswer.2, huid⟩

/-- What is stored after a run in which others write no children. -/
theorem allOwned_run [DecidableEq ι] (policies : ι → PolicyTable) (id : ι → Identity)
    (moves : List (Move ι)) (hmoves : ∀ m ∈ moves, m.SparesChildren) :
    let crowd := (Crowd.start .empty fun i => Pass.reconcile (policies i) (id i)).run moves
    AllOwned id crowd.history crowd.store := by
  refine allChildren_run ?_ BuiltWrite.owned moves hmoves
  rintro c i history o ⟨uid, howned, hread⟩ d
  exact ⟨uid, howned, hread.cons d⟩

/-! ## A pass alone -/

/-- After a pass that converges while nothing else runs, both children belong
to the intent that is stored. -/
theorem owned_of_converged {s : Store} (hs : s.Good) (policies : PolicyTable) (i : Identity)
    (t : Token) {first second : ChildAction}
    (h : ((Pass.reconcile policies i).run (.alone t) s).ending =
      some (.ok (.converged first second))) :
    let after := ((Pass.reconcile policies i).run (.alone t) s).state
    ∃ (intent : Intent) (uid : String), after.stored? .intent i = some intent ∧
      intent.metadata.uid = some uid ∧
      ∀ c : Child, ∃ o : c.Object, after.stored? c.kind i = some o ∧ OwnedAt i uid o := by
  intro after
  obtain ⟨p, hplan⟩ := exists_planned policies i s
  have hrun := hplan.run_eq hs t
  rw [hrun] at h
  obtain ⟨hverdict, hstate⟩ := follow_ok h
  have hafter : after = afterAll p.calls s := (congrArg Run.state hrun).trans hstate
  cases hplan with
  | gone | unknown | unowned => cases hverdict
  | @ready intent policy owner hintent hruntime howner =>
    have hid : Kind.identity? (k := .intent) intent = .ok i := (hs.stamped hintent).identity
    obtain ⟨uid, huid, rfl⟩ := Intent.reference_eq_ok hid howner
    rw [hafter]
    refine ⟨intent, uid, ?_, huid, fun c => ?_⟩
    · exact (Store.stored?_congr (find?_afterAll (by simp) (by simp))).trans hintent
    · cases c with
      | workload =>
        exact ⟨_, stored?_workload_afterAll, ownedAt_written (c := .workload) hid policy _ _⟩
      | endpoint =>
        exact ⟨_, stored?_endpoint_afterAll, ownedAt_written (c := .endpoint) hid policy _ _⟩

/-- However passes make their calls, fail and are cancelled, and whatever
intents others store and take away meanwhile: a child that is stored has the
name and the namespace that it is stored under and exactly one owner, the
intent of that name, with a uid that an intent there had when a pass read it.
It leads back to that intent alone. After a pass that has converged while
nothing else ran, the uid is the one of the intent that is stored. -/
theorem a_child_belongs_to_the_intent_of_its_name [DecidableEq ι] (policies : ι → PolicyTable)
    (id : ι → Identity) (moves : List (Move ι)) (hmoves : ∀ m ∈ moves, m.SparesChildren) :
    let crowd := (Crowd.start .empty fun i => Pass.reconcile (policies i) (id i)).run moves
    (∀ (c : Child) (i : Identity) (v : Json), crowd.store.find? ⟨c.kind, i⟩ = some v →
      ∃ (o : c.Object) (uid : String), v = Kind.encode o ∧ OwnedAt i uid o ∧
        UidWasRead id crowd.history i uid ∧ Cluster.concerned i o = [i]) ∧
    ∀ (table : PolicyTable) (i : Identity) (t : Token) (first second : ChildAction),
      let r := (Pass.reconcile table i).run (.alone t) crowd.store
      r.ending = some (.ok (.converged first second)) →
        ∃ (intent : Intent) (uid : String), r.state.stored? .intent i = some intent ∧
          intent.metadata.uid = some uid ∧
          ∀ c : Child, ∃ o : c.Object, r.state.stored? c.kind i = some o ∧ OwnedAt i uid o := by
  intro crowd
  have hleads : Crowd.Leads .empty crowd.history crowd.store := Crowd.leads_run _ _ moves
  have hgood : crowd.store.Good := hleads.later.good Store.good_empty
  refine ⟨fun c i v hv => ?_, fun table i t first second => owned_of_converged hgood table i t⟩
  obtain ⟨o, rfl, _⟩ := hgood c.kind i v hv
  obtain ⟨uid, howned, hread⟩ :=
    allOwned_run policies id moves hmoves c i o (Store.stored?_of_find? hv)
  exact ⟨o, uid, rfl, howned, hread, howned.concerned⟩

/-- One pass has read an intent. Then somebody takes the intent away and
stores another one there, and the pass writes the workload. -/
def recreation : List (Move Unit) :=
  [.others (.insert .intent llama), .go (), .others (.remove .intent llamaId),
    .others (.insert .intent
      { llama with metadata := { llama.metadata with uid := some "8c1d" } }),
    .go (), .go ()]

theorem the_child_of_a_recreated_intent_has_one_owner :
    let crowd := (Crowd.start .empty fun _ : Unit => Pass.reconcile .standard llamaId).run
      recreation
    ∃ v, crowd.store.find? ⟨.workload, llamaId⟩ = some v ∧
      ∃ (o : Workload) (uid : String), v = Kind.encode (k := .workload) o ∧
        OwnedAt (k := .workload) llamaId uid o ∧
        UidWasRead (fun _ => llamaId) crowd.history llamaId uid ∧
        Cluster.concerned (k := .workload) llamaId o = [llamaId] :=
  ⟨_, rfl, (a_child_belongs_to_the_intent_of_its_name (fun _ => .standard) (fun _ => llamaId)
    recreation (by simp [recreation, Move.SparesChildren, Store.Operation.SparesChildren])).1
      .workload llamaId _ rfl⟩

end ServingOperator
