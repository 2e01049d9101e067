-- Where the controller looks. The option for the namespace, or else its
-- variable, decides for all kinds alike, and without either the controller
-- looks at the whole cluster. An empty text is a namespace like any other. Its
-- name in the paths is empty, and no object lives there, so that a controller
-- that is given one does nothing at all.
import ServingOperator.Proofs.OptionWords
import ServingOperator.Proofs.VersionForms

namespace ServingOperator

open CommandLine

/-! ## The option -/

/-- The namespace that the options and the environment name. -/
def namedNamespace? (options : List GivenOption) (env : Environment) : Option String :=
  ((options.find? (·.setting = .ns)).map (·.text)).or (env "WATCH_NAMESPACE")

/-- A run looks where its options and its environment say. -/
theorem ns_eq_named {options : List GivenOption} {g : Given} {env : Environment}
    {c : Configuration} (hsettles : Settles options g) (hc : Configured g env c) :
    c.ns = namedNamespace? options env := by
  have hgiven : g .ns = (options.find? (·.setting = .ns)).map (·.text) := by
    rw [hsettles.eq_read .ns]
    cases options.find? (·.setting = .ns) <;> rfl
  have hfallback : Setting.fallback g env .ns = .ok ((g .ns).or (env "WATCH_NAMESPACE")) := by
    simp only [Setting.fallback, Setting.envName?, Option.bind_some]
    cases g .ns <;> cases env "WATCH_NAMESPACE" <;> rfl
  have hns := hc.ns
  rw [hfallback, hgiven] at hns
  exact (Except.ok.inj hns).symm

namespace Cluster

/-! ## Scopes -/

namespace Scope

/-- The scope is the whole cluster, for all kinds. -/
structure IsCluster (scope : Scope) : Prop where
  paths : scope.paths =
    ["/api/v1/services", "/apis/apps/v1/deployments", "/apis/kaimera.ai/v1/modeldeployments"]
  holds : ∀ ns, scope.holds ns = true

/-- The scope is one namespace, for all kinds. -/
structure IsNamespace (scope : Scope) (ns : String) : Prop where
  paths : scope.paths =
    ["/api/v1/namespaces/" ++ ns ++ "/services",
      "/apis/apps/v1/namespaces/" ++ ns ++ "/deployments",
      "/apis/kaimera.ai/v1/namespaces/" ++ ns ++ "/modeldeployments"]
  holds : ∀ ns', scope.holds ns' = true ↔ ns' = ns

theorem isCluster_none : IsCluster none := ⟨rfl, fun _ => rfl⟩

theorem isNamespace_some (ns : String) : IsNamespace (some ns) ns := by
  have hpath : ∀ k, Rest.collectionPath k (some ns) =
      Rest.groupPath k ++ "/namespaces/" ++ ns ++ ("/" ++ Rest.plural k) := by
    intro k
    simp only [Rest.collectionPath, String.append_assoc]
  constructor
  · simp only [paths, List.map_cons, List.map_nil, hpath]
    rfl
  · simp [holds, eq_comm]

end Scope

/-! ## A controller that hears nothing -/

theorem identityIn_withVersion (v : Json) (version : String) :
    identityIn (withVersion v version) = identityIn v := by
  cases v with
  | obj fields =>
    simp only [identityIn, withVersion, Json.field?_withField, Option.getD_some]
    rw [Json.field?_withField_ne _ _ (by decide), Json.field?_withField_ne _ _ (by decide)]
    cases (Json.obj fields).field? "metadata" <;> rfl
  | _ => rfl

/-- The object lives where the scope does not look. -/
def Scope.Misses (scope : Scope) (v : Json) : Prop := scope.holds (identityIn v).ns = false

namespace Server

variable {scope : Scope} {s : Server}

/-- All that the server keeps lives where the scope does not look. -/
def Unseen (scope : Scope) (s : Server) : Prop := ∀ e ∈ s.objects, scope.Misses e.2

theorem Unseen.drop (h : s.Unseen scope) (key : Key) : (s.drop key).Unseen scope :=
  fun e he => h e (List.mem_filter.1 he).1

theorem Unseen.keep (h : s.Unseen scope) (key : Key) {v : Json} (hv : scope.Misses v) :
    scope.Misses (s.keep key v).1 ∧ (s.keep key v).2.Unseen scope := by
  have hkept : scope.Misses (withVersion v (toString (s.counter + 1))) := by
    rw [Scope.Misses, identityIn_withVersion]
    exact hv
  exact ⟨hkept, List.forall_mem_cons.2 ⟨hkept, h.drop key⟩⟩

/-- A change that is not seen is told as one that is not seen. -/
theorem Unseen.change (h : s.Unseen scope) {x : Change} (hx : scope.Misses x.object) :
    scope.Misses (s.change x).1.object ∧ (s.change x).2.Unseen scope := by
  simp only [Server.change]
  split
  · refine ⟨?_, h.drop _⟩
    cases hfind : s.find? ⟨x.kind, identityIn x.object⟩ with
    | none => exact hx
    | some v =>
      obtain ⟨before, after, hobjects, _⟩ := List.lookup_eq_some_iff.1 hfind
      refine h (⟨x.kind, identityIn x.object⟩, v) ?_
      rw [hobjects]
      simp
  · exact h.keep _ hx

theorem Unseen.changeAll (h : s.Unseen scope) (changes : List Change)
    (hchanges : ∀ x ∈ changes, scope.Misses x.object) :
    (∀ x ∈ (s.changeAll changes).1, scope.Misses x.object) ∧
      (s.changeAll changes).2.Unseen scope := by
  induction changes generalizing s with
  | nil => exact ⟨fun _ hx => (nomatch hx), h⟩
  | cons x rest ih =>
    obtain ⟨hx, hrest⟩ := List.forall_mem_cons.1 hchanges
    obtain ⟨htold, hunseen⟩ := h.change hx
    obtain ⟨hmore, hunseen⟩ := ih hunseen hrest
    exact ⟨List.forall_mem_cons.2 ⟨htold, hmore⟩, hunseen⟩

/-- Changes by others are no requests. -/
theorem exchanges_changeAll (s : Server) (changes : List Change) :
    (s.changeAll changes).2.exchanges = s.exchanges := by
  induction changes generalizing s with
  | nil => rfl
  | cons x rest ih =>
    have hx : (s.change x).2.exchanges = s.exchanges := by
      unfold Server.change
      cases x.removed <;> rfl
    exact (ih _).trans hx

end Server

namespace Controller

variable {setup : Setup} {exchanges : List Exchange} {c : Controller}

/-- A controller that has heard of nothing and asked for nothing. -/
structure Idle (setup : Setup) (exchanges : List Exchange) (c : Controller) : Prop where
  setup_eq : c.setup = setup
  known_eq : c.known = []
  queue_eq : c.queue = []
  log_eq : c.log = [.starting]
  exchanges_eq : c.server.exchanges = exchanges
  unseen : c.server.Unseen setup.scope

theorem hear_of_misses {v : Json} (h : c.setup.scope.Misses v) (k : Kind) (removed : Bool) :
    c.hear k v removed = (c, []) := by
  have hmisses : c.setup.scope.holds (identityIn v).ns = false := h
  simp [hear, hmisses]

theorem hearAll_of_misses {a : Agenda} {changes : List Change}
    (h : ∀ x ∈ changes, c.setup.scope.Misses x.object) : c.hearAll a changes = (c, a) := by
  induction changes with
  | nil => rfl
  | cons x rest ih =>
    obtain ⟨hx, hrest⟩ := List.forall_mem_cons.1 h
    rw [hearAll, hear_of_misses hx]
    exact ih hrest

theorem settle_of_queue (h : c.queue = []) (rounds : Nat) : c.settle rounds = c := by
  cases rounds with
  | zero => rfl
  | succ n => simp [settle, Queue.dueAt, h]

/-- A second in which no change is seen leaves a controller idle. -/
theorem Idle.second (h : Idle setup exchanges c) {changes : List Change}
    (hchanges : ∀ x ∈ changes, setup.scope.Misses x.object) (t : Nat) :
    Idle setup exchanges (c.second changes t) := by
  have hserver : ({ c.server with now := t } : Server).Unseen setup.scope := h.unseen
  obtain ⟨htold, hunseen⟩ := hserver.changeAll (changes.filter (·.time = t))
    fun x hx => hchanges x (List.mem_filter.1 hx).1
  have hexchanges := ({ c.server with now := t } : Server).exchanges_changeAll
    (changes.filter (·.time = t))
  simp only [Controller.second]
  generalize ({ c.server with now := t } : Server).changeAll _ = told at *
  obtain ⟨heard, server⟩ := told
  have hidle : Idle setup exchanges { c with server } :=
    ⟨h.setup_eq, h.known_eq, h.queue_eq, h.log_eq, hexchanges.trans h.exchanges_eq, hunseen⟩
  have hdue : attendDue { c with server } = { c with server } := by
    simp [attendDue, Queue.dueAt, h.queue_eq]
  have hheard : ∀ a, hearAll { c with server } a heard = ({ c with server }, a) := fun a =>
    hearAll_of_misses fun x hx => by rw [h.setup_eq]; exact htold x hx
  simp only [hdue, hheard, List.foldl_nil]
  rw [settle_of_queue hidle.queue_eq]
  exact hidle

theorem Idle.seconds {changes : List Change}
    (hchanges : ∀ x ∈ changes, setup.scope.Misses x.object) (last t : Nat) {c : Controller}
    (h : Idle setup exchanges c) : Idle setup exchanges (c.seconds changes last t) := by
  induction t, c using seconds.induct changes last with
  | case1 t c c' hnext =>
    have hnext : (Controller.second changes c t).nextAfter? changes t = none := hnext
    rw [Controller.seconds]
    simp only [hnext]
    exact h.second hchanges t
  | case2 t c c' u hnext hu ih =>
    have hnext : (Controller.second changes c t).nextAfter? changes t = some u := hnext
    rw [Controller.seconds]
    simp only [hnext, hu, and_self, if_true]
    exact ih (h.second hchanges t)
  | case3 t c c' u hnext hu =>
    have hnext : (Controller.second changes c t).nextAfter? changes t = some u := hnext
    rw [Controller.seconds]
    simp only [hnext, hu, if_false]
    exact h.second hchanges t

/-- A fold of which no step changes anything. -/
theorem foldl_fixed {α β : Type} {f : β → α → β} {b : β} {l : List α}
    (h : ∀ a ∈ l, f b a = b) : l.foldl f b = b := by
  induction l with
  | nil => rfl
  | cons a rest ih =>
    obtain ⟨ha, hrest⟩ := List.forall_mem_cons.1 h
    rw [List.foldl_cons, ha]
    exact ih hrest

theorem idle_start {server : Server} (h : server.Unseen setup.scope) :
    Idle setup server.exchanges (start setup server) := by
  unfold Controller.start
  rw [foldl_fixed]
  · exact ⟨rfl, rfl, rfl, rfl, rfl, h⟩
  · intro e he
    have hmisses := h e (List.mem_reverse.1 he)
    simp only [hear_of_misses (c := { setup, server, log := [.starting] }) hmisses,
      List.foldl_nil]

/-- A controller that can see none of the objects does nothing but start and
shut down. -/
theorem run_of_unseen {server : Server} (h : server.Unseen setup.scope) {changes : List Change}
    (hchanges : ∀ x ∈ changes, setup.scope.Misses x.object) (last : Nat) :
    (run setup server changes last).log = [.starting, .shutdown] ∧
      (run setup server changes last).server.exchanges = server.exchanges := by
  obtain ⟨_, hunseen⟩ := h.changeAll (changes.filter (·.time = 0))
    fun x hx => hchanges x (List.mem_filter.1 hx).1
  have hlater : ∀ x ∈ changes.filter (0 < ·.time), setup.scope.Misses x.object :=
    fun x hx => hchanges x (List.mem_filter.1 hx).1
  have hidle := (idle_start hunseen).seconds hlater last 0
  rw [Server.exchanges_changeAll] at hidle
  exact ⟨congrArg (· ++ [Notice.shutdown]) hidle.log_eq, hidle.exchanges_eq⟩

end Controller

/-- A controller looks where it is told to. Without a namespace this is the
whole cluster. With one it is this namespace, and a controller does nothing in
a cluster where no object ever is in it. -/
def Setup.LooksAt (setup : Setup) : Option String → Prop
  | none => setup.scope.IsCluster
  | some ns => setup.scope.IsNamespace ns ∧
    ∀ (server : Server) (changes : List Change) (last : Nat),
      (∀ e ∈ server.objects, (identityIn e.2).ns ≠ ns) →
      (∀ x ∈ changes, (identityIn x.object).ns ≠ ns) →
        (Controller.run setup server changes last).log = [.starting, .shutdown] ∧
          (Controller.run setup server changes last).server.exchanges = server.exchanges

theorem Setup.looksAt (setup : Setup) : setup.LooksAt setup.scope := by
  obtain ⟨scope, policies, delays⟩ := setup
  cases scope with
  | none => exact Scope.isCluster_none
  | some ns =>
    have hscope := Scope.isNamespace_some ns
    refine ⟨hscope, fun server changes last hserver hchanges => ?_⟩
    have hmisses : ∀ v, (identityIn v).ns ≠ ns → Scope.Misses (some ns) v := by
      intro v hv
      exact Bool.eq_false_iff.2 (mt (hscope.holds _).1 hv)
    exact Controller.run_of_unseen (fun e he => hmisses _ (hserver e he))
      (fun x hx => hmisses _ (hchanges x hx)) last

end Cluster

/-! ## From the command line to the watches -/

/-- A command line that asks for a run is a list of options, each given once.
The run looks at the namespace that its options name, or else its environment,
and it does so for all kinds. If neither names one, it looks at the whole
cluster. A namespace that is named by the empty text is named all the same. -/
theorem the_namespace_option_decides_for_all_watches {words : List String} {env : Environment}
    {c : Configuration} (h : CommandLine.read words env = .ok (.run c)) :
    ∃ (options : List GivenOption) (last : List String),
      words = "run" :: options.flatMap (·.words) ++ last ∧ (last = [] ∨ last = ["--"]) ∧
        (options.map (·.setting)).Nodup ∧ c.setup.LooksAt (namedNamespace? options env) := by
  obtain ⟨options, last, g, hwords, hlast, hsettles, hc⟩ := read_eq_run h
  refine ⟨options, last, hwords, hlast, hsettles.once, ?_⟩
  rw [← ns_eq_named hsettles hc]
  exact c.setup.looksAt

/-- An operator that is given the empty text for its namespace. -/
theorem the_empty_namespace_is_a_namespace :
    ∃ c, CommandLine.read ["run", "--namespace="] (fun _ => none) = .ok (.run c) ∧
      ∃ (options : List GivenOption) (last : List String),
        ["run", "--namespace="] = "run" :: options.flatMap (·.words) ++ last ∧
          (last = [] ∨ last = ["--"]) ∧ (options.map (·.setting)).Nodup ∧
          c.setup.LooksAt (namedNamespace? options fun _ => none) :=
  ⟨_, rfl, the_namespace_option_decides_for_all_watches rfl⟩

/-- It does not look at the whole cluster. The name of its namespace is
missing from the paths. -/
theorem the_empty_namespace_is_not_the_cluster :
    ∃ c, CommandLine.read ["run", "--namespace="] (fun _ => none) = .ok (.run c) ∧
      c.setup.scope.paths =
        ["/api/v1/namespaces//services", "/apis/apps/v1/namespaces//deployments",
          "/apis/kaimera.ai/v1/namespaces//modeldeployments"] ∧
      ¬ c.setup.scope.IsCluster := by
  refine ⟨_, rfl, rfl, fun h => ?_⟩
  have hholds := h.holds "models"
  revert hholds
  decide

end ServingOperator
