-- The law of traffic. A workload and an endpoint find their pods by labels, and the
-- labels say nothing but the name of the intent. So traffic reaches the pods of the
-- own intent and of no other, whatever the intents ask for, and what is stored keeps
-- its selector for good.
import ServingOperator.Proofs.Ownership

namespace ServingOperator

/-! ## Selectors and labels -/

/-- The labels by which an endpoint finds the pods that it sends traffic to. -/
def Endpoint.selector? (e : Endpoint) : Option TextMap := e.spec.bind (·.selector)

/-- The ports of the pods that an endpoint sends traffic to. -/
def Endpoint.targetPorts (e : Endpoint) : List (Option TargetPort) :=
  ((e.spec.bind (·.ports)).getD []).map (·.targetPort)

/-- The labels by which a workload finds its pods. -/
def Workload.selector? (w : Workload) : Option TextMap := w.spec.bind (·.selector.matchLabels)

/-- The labels that a workload gives to its pods. -/
def Workload.podLabels? (w : Workload) : Option TextMap :=
  (w.spec.bind (·.template.metadata)).bind (·.labels)

/-- Every key and value of the selector is one of the labels. What has no selector selects
nothing. -/
def Selects (selector? labels? : Option TextMap) : Prop :=
  ∃ selector ∈ selector?, ∃ labels ∈ labels?, selector.Within labels

/-- The labels that stand for a name. -/
def nameLabels (name : String) : TextMap := .singleton "app" name

theorem selects_nameLabels_iff {name other : String} :
    Selects (some (nameLabels name)) (some (nameLabels other)) ↔ name = other := by
  have hentries : ∀ name, (nameLabels name).entries = [("app", name)] := fun _ => rfl
  simp [Selects, TextMap.Within, hentries]

/-! ## Children as they are built -/

namespace Desired

theorem selector?_endpoint (x : Intent) :
    (endpoint x).selector? = some (nameLabels x.metadata.anyName) := rfl

theorem targetPorts_endpoint (x : Intent) : (endpoint x).targetPorts = [some (.number 8000)] := rfl

section

variable {policies : PolicyTable} {x : Intent} {w : Workload} (h : workload policies x = .ok w)
include h

theorem exists_workloadUnder : ∃ policy, w = workloadUnder x policy := by
  unfold workload at h
  cases hpolicy : policies.resolve x.spec.runtimeSelector with
  | error r =>
    rw [hpolicy] at h
    cases h
  | ok policy =>
    rw [hpolicy] at h
    exact ⟨policy, (Except.ok.inj h).symm⟩

theorem selector?_workload : w.selector? = some (nameLabels x.metadata.anyName) := by
  obtain ⟨policy, rfl⟩ := exists_workloadUnder h
  rfl

theorem podLabels?_workload : w.podLabels? = some (nameLabels x.metadata.anyName) := by
  obtain ⟨policy, rfl⟩ := exists_workloadUnder h
  rfl

end

end Desired

/-! ## Children as they are stored -/

/-- The child finds its pods, and traffic gets to them, by the name it is stored under. -/
def GoesByName (i : Identity) : {c : Child} → c.Object → Prop
  | .workload, o =>
    Workload.selector? o = some (nameLabels i.name) ∧
      Workload.podLabels? o = some (nameLabels i.name)
  | .endpoint, o =>
    Endpoint.selector? o = some (nameLabels i.name) ∧
      Endpoint.targetPorts o = [some (.number 8000)]

/-- Whatever was stored, what is written for an intent goes by its name. -/
theorem goesByName_written {c : Child} {x : Intent} {i : Identity}
    (hid : Kind.identity? (k := .intent) x = .ok i) (policy : RuntimePolicy)
    (owner : OwnerReference) (current : Option c.Object) (v : String) :
    GoesByName i (Store.withVersion (Child.written (c.owned x policy owner) current) v) := by
  -- what is carried over is the version, and the addresses of an endpoint
  cases c with
  | workload =>
    have hlabels : Desired.selectorLabels x = nameLabels i.name :=
      congrArg nameLabels (Intent.anyName_of_identity hid)
    cases current <;> exact ⟨congrArg some hlabels, congrArg some hlabels⟩
  | endpoint =>
    have hlabels : Desired.selectorLabels x = nameLabels i.name :=
      congrArg nameLabels (Intent.anyName_of_identity hid)
    rcases current with _ | ⟨_, _ | _, _⟩ <;> exact ⟨congrArg some hlabels, rfl⟩

/-- After a run in which others write no children, every child goes by the name it is stored
under. -/
theorem allChildren_goByName {ι : Type} [DecidableEq ι] (policies : ι → PolicyTable)
    (id : ι → Identity) (moves : List (Move ι)) (hmoves : ∀ m ∈ moves, m.SparesChildren) :
    let crowd := (Crowd.start .empty fun i => Pass.reconcile (policies i) (id i)).run moves
    AllChildren (fun _ i _ o => GoesByName i o) crowd.history crowd.store :=
  allChildren_run (fun h _ => h)
    (fun hwrite _ => goesByName_written hwrite.basis.identity _ _ _ _) moves hmoves

/-! ## The law -/

/-- Where the traffic of two intents goes, under whatever tables of policies. -/
structure TrafficKeptApart (a b : Intent) : Prop where
  /-- The endpoint of one selects the pods of the other just if they go by one name. -/
  endpoint_selects : ∀ (table : PolicyTable) (w : Workload), Desired.workload table b = .ok w →
    (Selects (Desired.endpoint a).selector? w.podLabels? ↔
      a.metadata.anyName = b.metadata.anyName)
  workload_selects : ∀ (table table' : PolicyTable) (v w : Workload),
    Desired.workload table a = .ok v → Desired.workload table' b = .ok w →
      (Selects v.selector? w.podLabels? ↔ a.metadata.anyName = b.metadata.anyName)
  /-- Nothing but the name has a part in the selectors. -/
  same_selectors : a.metadata.anyName = b.metadata.anyName →
    (Desired.endpoint a).selector? = (Desired.endpoint b).selector? ∧
      ∀ (table table' : PolicyTable) (v w : Workload), Desired.workload table a = .ok v →
        Desired.workload table' b = .ok w → v.selector? = w.selector?
  /-- Nothing at all has a part in the port. -/
  same_ports : (Desired.endpoint a).targetPorts = (Desired.endpoint b).targetPorts

theorem trafficKeptApart (a b : Intent) : TrafficKeptApart a b where
  endpoint_selects table w hw := by
    rw [Desired.selector?_endpoint, Desired.podLabels?_workload hw, selects_nameLabels_iff]
  workload_selects table table' v w hv hw := by
    rw [Desired.selector?_workload hv, Desired.podLabels?_workload hw, selects_nameLabels_iff]
  same_selectors hname := by
    refine ⟨?_, fun table table' v w hv hw => ?_⟩
    · rw [Desired.selector?_endpoint, Desired.selector?_endpoint, hname]
    · rw [Desired.selector?_workload hv, Desired.selector?_workload hw, hname]
  same_ports := rfl

/-- Where traffic goes between the objects that are stored. -/
structure Store.KeepsTrafficApart (s : Store) : Prop where
  endpoint_selects : ∀ (i j : Identity) (e : Endpoint) (w : Workload),
    s.stored? .endpoint i = some e → s.stored? .workload j = some w →
      (Selects e.selector? w.podLabels? ↔ i.name = j.name)
  workload_selects : ∀ (i j : Identity) (v w : Workload),
    s.stored? .workload i = some v → s.stored? .workload j = some w →
      (Selects v.selector? w.podLabels? ↔ i.name = j.name)
  port : ∀ (i : Identity) (e : Endpoint), s.stored? .endpoint i = some e →
    e.targetPorts = [some (.number 8000)]

theorem AllChildren.keepsTrafficApart {ι : Type} {history : List (Deed ι)} {s : Store}
    (h : AllChildren (fun _ i _ o => GoesByName i o) history s) : s.KeepsTrafficApart where
  endpoint_selects i j e w he hw := by
    have hendpoint := h .endpoint i e he
    have hworkload := h .workload j w hw
    rw [hendpoint.1, hworkload.2, selects_nameLabels_iff]
  workload_selects i j v w hv hw := by
    have hone := h .workload i v hv
    have hother := h .workload j w hw
    rw [hone.1, hother.2, selects_nameLabels_iff]
  port i e he := (h .endpoint i e he).2

/-- Traffic reaches the pods of the own intent and no others: as the children are built, for
any two intents that are stored under different names, and as the children are stored,
however passes make their calls and whatever intents others store and take away meanwhile.
A workload that is written again keeps the selector that it has. -/
theorem traffic_reaches_the_own_pods {ι : Type} [DecidableEq ι] (policies : ι → PolicyTable)
    (id : ι → Identity) :
    (∀ a b : Intent, TrafficKeptApart a b) ∧
    (∀ s : Store, s.Reachable → ∀ (i j : Identity) (a b : Intent),
      s.stored? .intent i = some a → s.stored? .intent j = some b → i.name ≠ j.name →
        ∀ (table : PolicyTable) (w : Workload), Desired.workload table b = .ok w →
          ¬ Selects (Desired.endpoint a).selector? w.podLabels?) ∧
    ∀ moves more : List (Move ι), (∀ m ∈ moves, m.SparesChildren) →
      (∀ m ∈ more, m.SparesChildren) →
      let crowd := (Crowd.start .empty fun i => Pass.reconcile (policies i) (id i)).run moves
      crowd.store.KeepsTrafficApart ∧
        ∀ (i : Identity) (w w' : Workload), crowd.store.stored? .workload i = some w →
          (crowd.run more).store.stored? .workload i = some w' → w'.selector? = w.selector? := by
  refine ⟨trafficKeptApart, ?_, ?_⟩
  · intro s hs i j a b ha hb hne table w hw hselects
    have hname := ((trafficKeptApart a b).endpoint_selects table w hw).1 hselects
    rw [Intent.anyName_of_identity (hs.good.stamped ha).identity,
      Intent.anyName_of_identity (hs.good.stamped hb).identity] at hname
    exact hne hname
  · intro moves more hmoves hmore crowd
    have hchildren := allChildren_goByName policies id moves hmoves
    refine ⟨hchildren.keepsTrafficApart, fun i w w' hw hw' => ?_⟩
    have hlater := allChildren_goByName policies id (moves ++ more)
      (List.forall_mem_append.2 ⟨hmoves, hmore⟩)
    rw [Crowd.run, List.foldl_append] at hlater
    have hselector := (hlater .workload i w' hw').1
    rw [hselector, (hchildren .workload i w hw).1]

/-- What is kept in a good store can be read. -/
theorem Store.Good.exists_stored? {s : Store} (hs : s.Good) {k : Kind} {i : Identity}
    (h : (s.find? ⟨k, i⟩).isSome) : ∃ o : k.Object, s.stored? k i = some o := by
  obtain ⟨v, hv⟩ := Option.isSome_iff_exists.1 h
  obtain ⟨o, rfl, _⟩ := hs k i v hv
  exact ⟨o, stored?_of_find? hv⟩

/-- Where the intent beside `llama` is. -/
def mistralId : Identity := ⟨"models", "mistral"⟩

/-- Two intents are stored, and a pass over each makes its calls. -/
def neighbours : List (Move Bool) :=
  [.others (.insert .intent llama), .others (.insert .intent mistral)] ++
    (List.replicate 5 [.go true, .go false]).flatten

/-- The endpoint of one intent and the workload of the other are both there, and have
nothing to do with each other. -/
theorem neighbours_get_no_traffic_of_each_other :
    let crowd := (Crowd.start .empty fun i : Bool =>
      Pass.reconcile .standard (if i then llamaId else mistralId)).run neighbours
    ∃ (e : Endpoint) (w : Workload), crowd.store.stored? .endpoint llamaId = some e ∧
      crowd.store.stored? .workload mistralId = some w ∧ ¬ Selects e.selector? w.podLabels? := by
  intro crowd
  have hgood : crowd.store.Good := (Crowd.leads_run _ _ _).later.good Store.good_empty
  obtain ⟨e, he⟩ := hgood.exists_stored? (k := .endpoint) (i := llamaId) (by decide)
  obtain ⟨w, hw⟩ := hgood.exists_stored? (k := .workload) (i := mistralId) (by decide)
  have hspares : ∀ m ∈ neighbours, m.SparesChildren := by
    simp [neighbours, Move.SparesChildren, Store.Operation.SparesChildren]
  have happart : crowd.store.KeepsTrafficApart :=
    ((traffic_reaches_the_own_pods (fun _ => .standard) _).2.2 neighbours [] hspares
      (List.forall_mem_nil _)).1
  refine ⟨e, w, he, hw, fun hselects => ?_⟩
  have hname := (happart.endpoint_selects llamaId mistralId e w he hw).1 hselects
  exact absurd hname (by decide)

end ServingOperator
