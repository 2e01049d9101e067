-- The laws of a store and an API server in lockstep. From the same contents
-- a pass at the store and a pass over HTTP make the same calls, and these are
-- answered alike, whatever others do to both sides in the meantime. So what
-- holds of passes at a store holds of passes at any API server.
import ServingOperator.Proofs.ClusterServer
import ServingOperator.Proofs.PassPlan

namespace ServingOperator

/-! ## Sides -/

/-- What others do to a store or to a server directly. -/
inductive Edit where
  | insert {k : Kind} (o : k.Object)
  | remove (k : Kind) (i : Identity)

/-- A control plane and what others do to it. -/
structure Side (σ : Type) where
  plane : Plane σ
  edit : Edit → σ → σ

def Store.side : Side Store where
  plane := Store.plane
  edit
    | .insert o, s => s.perform (.insert _ o)
    | .remove k i, s => s.perform (.remove k i)

/-- An object without a name or a namespace cannot be stored. -/
def Rest.ApiServer.side {σ : Type} (server : Rest.ApiServer σ) : Side σ where
  plane := Rest.plane server.send
  edit
    | .insert o, u =>
      match Kind.identity? o with
      | .ok i => server.insert i o u
      | .error _ => u
    | .remove k i, u => server.remove k i u

namespace Side

variable {σ : Type}

def editAll (side : Side σ) (edits : List Edit) (s : σ) : σ :=
  edits.foldl (fun s e => side.edit e s) s

/-- A pass at a side, where others make the edits `between n` before call
`n` is made. -/
def surroundings (side : Side σ) (token : Token) (between : Nat → List Edit) :
    Surroundings σ where
  plane := side.plane
  token := token
  meddle n := side.editAll (between n)

end Side

/-- A part of the history of a side. -/
inductive Episode where
  | edit (e : Edit)
  | pass (policies : PolicyTable) (id : Identity) (token : Token) (between : Nat → List Edit)

/-- How the passes in a history end, and the state after it. -/
def Side.history {σ : Type} (side : Side σ) : List Episode → σ → List (Option Verdict) × σ
  | [], s => ([], s)
  | .edit e :: rest, s => side.history rest (side.edit e s)
  | .pass policies id token between :: rest, s =>
    let r := (Pass.reconcile policies id).run (side.surroundings token between) s
    let (endings, s) := side.history rest r.state
    (r.ending :: endings, s)

/-- A pass in a history counts by what it comes to. -/
theorem Side.history_pass {σ : Type} (side : Side σ) (policies : PolicyTable) (id : Identity)
    (token : Token) (between : Nat → List Edit) (rest : List Episode) (s : σ) :
    side.history (.pass policies id token between :: rest) s =
      let o := (Stage.start.rest policies id).outcome (side.surroundings token between) 1 s
      (o.1 :: (side.history rest o.2).1, (side.history rest o.2).2) := rfl

/-- A pass is over names that are safe in URLs and make no target too long. -/
def Episode.Addressed : Episode → Prop
  | edit _ => True
  | pass _ id _ _ => Rest.Safe id ∧ Rest.Fits id

/-- Two endings of a pass that are the same, up to the text of a rejection
and to what the client met beneath a failure of the control plane. -/
inductive AlikeEnding : Option Verdict → Option Verdict → Prop
  | same (v : Verdict) : AlikeEnding (some v) (some v)
  | failed {e e' : PlaneError} (context : ReconcileError) (beneath : List Context)
      (h : Rest.AlikeError e e') :
    AlikeEnding (some (.error ((Report.of e).wrap context)))
      (some (.error ((Report.mk e' beneath).wrap context)))

namespace Rest

variable {σ : Type} {server : ApiServer σ} {s : Store} {u : σ}

/-! ## Edits -/

theorem Agree.edit (h : Agree server s u) (e : Edit) :
    Agree server (Store.side.edit e s) (server.side.edit e u) := by
  cases e with
  | @insert k o =>
    cases hi : Kind.identity? o with
    | error r => simpa only [Store.side, ApiServer.side, Store.perform, Store.insert, hi]
    | ok i =>
      simp only [Store.side, ApiServer.side, Store.perform, Store.insert, hi, Except.map]
      obtain ⟨hstores, hsound⟩ := server.inserts o h.sound hi
      rw [← h.contents] at hstores
      exact ⟨(Store.Change.kept i o hi rfl rfl).good h.good, h.failures, h.hanging, hsound,
        (s.stores_keep i o).unique hstores⟩
  | remove k i =>
    obtain ⟨hremoves, hsound⟩ := server.removes k i h.sound
    rw [← h.contents] at hremoves
    exact ⟨(Store.Change.dropped k i rfl rfl).good h.good, h.failures, h.hanging, hsound,
      (s.removes_remove k i).unique hremoves⟩

theorem Agree.editAll (h : Agree server s u) (edits : List Edit) :
    Agree server (Store.side.editAll edits s) (server.side.editAll edits u) := by
  induction edits generalizing s u with
  | nil => exact h
  | cons e rest ih => exact ih (h.edit e)

end Rest

/-! ## Passes -/

namespace Stage

variable {policies : PolicyTable} {id : Identity} {st : Stage} {context : ReconcileError}
  {call : Call} {after : call.Answer → Stage}

/-- The intent that a pass has read is the intent `id`. -/
def Over (id : Identity) : Stage → Prop
  | start | ended _ => True
  | reading _ intent _ | writing _ intent _ _ _ => Kind.identity? (k := .intent) intent = .ok id

/-- All calls of a pass over `id` are about `id`. -/
theorem Over.identity?_call (hover : st.Over id) (h : Asks policies id st context call after) :
    call.identity? = .ok id := by
  cases h with
  | start | reading => rfl
  | writing turn intent policy owner current =>
    have hid := Child.identity?_owned hover policy owner turn.child
    cases current with
    | none => exact hid
    | some current => exact (Child.identity?_written _ (some current)).trans hid

theorem Over.next {s : Store} (hover : st.Over id) (hs : s.Good)
    (h : Asks policies id st context call after) {a : call.Answer}
    (ha : (Store.plane call s).1 = .answers (.ok a)) : (after a).Over id := by
  cases h with
  | start =>
    cases a with
    | none => trivial
    | some intent =>
      have hid := (hs.stamped (hs.found ha)).identity
      simp only [afterIntent]
      split
      · trivial
      · exact hid
  | reading turn intent policy =>
    unfold afterRead
    split
    · trivial
    · exact hover
  | writing turn intent policy owner current =>
    cases turn with
    | workload => exact hover
    | endpoint first => trivial

/-- If the names of the intent make no target too long, no call of a pass does. -/
theorem Asks.fits (h : Asks policies id st context call after) (hfits : Rest.Fits id) :
    Text.byteLength (Rest.targetText call id).toList ≤ Rest.maxTargetBytes := by
  cases h with
  | start => exact hfits.get .intent
  | reading turn => exact hfits.get turn.child.kind
  | writing turn intent policy owner current =>
    cases current with
    | none => exact hfits.create turn.child _
    | some current => exact hfits.replace turn.child _

end Stage

namespace Rest

section

variable {σ : Type} {server : ApiServer σ} {id : Identity}

/-- From any stage on, a pass at a store and a pass at a server that agree
come to the same. -/
theorem agree_outcome (policies : PolicyTable) (hsafe : Safe id) (hfits : Fits id) (token : Token)
    (between : Nat → List Edit) (st : Stage) : ∀ (n : Nat) {s : Store} {u : σ},
    Agree server s u → st.Over id →
      let left := (st.rest policies id).outcome (Store.side.surroundings token between) n s
      let right := (st.rest policies id).outcome (server.side.surroundings token between) n u
      AlikeEnding left.1 right.1 ∧ Agree server left.2 right.2 := by
  induction st using Stage.induction_asks policies id with
  | ended v => exact fun n s u h _ => ⟨.same v, h⟩
  | asks hasks ih =>
    intro n s u h hover
    obtain ⟨r, r', s', u', hplane, hplane', halike, hagree⟩ :=
      (h.editAll (between n)).call hsafe (hover.identity?_call hasks) (hasks.fits hfits)
    have hleft : (Store.side.surroundings token between).plane _
        ((Store.side.surroundings token between).meddle n s) = (.answers r, s') := hplane
    have hright : (server.side.surroundings token between).plane _
        ((server.side.surroundings token between).meddle n u) = (.answers r', u') := hplane'
    simp only [hasks.outcome_eq, hleft, hright]
    by_cases hfired : token.fired n = true
    · simp only [Side.surroundings, hfired, if_true]
      exact ⟨.same _, h⟩
    · simp only [Side.surroundings, hfired]
      cases halike with
      | ok a =>
        have hs := (h.editAll (between n)).good
        exact ih a (n + 1) hagree (hover.next hs hasks (congrArg Prod.fst hplane))
      | error beneath herror => exact ⟨.failed _ beneath herror, hagree⟩

end

/-- The endings of passes are alike one by one, and what agreed at first
agrees at the end. -/
theorem Agree.history {σ : Type} {server : ApiServer σ} {episodes : List Episode}
    (haddressed : ∀ e ∈ episodes, e.Addressed) : ∀ {s : Store} {u : σ}, Agree server s u →
      List.Forall₂ AlikeEnding (Store.side.history episodes s).1
        (server.side.history episodes u).1 ∧
      Agree server (Store.side.history episodes s).2 (server.side.history episodes u).2 := by
  induction episodes with
  | nil => exact fun h => ⟨.nil, h⟩
  | cons e rest ih =>
    intro s u h
    obtain ⟨he, hrest⟩ := List.forall_mem_cons.1 haddressed
    cases e with
    | edit e => exact ih hrest (h.edit e)
    | pass policies id token between =>
      obtain ⟨hsafe, hfits⟩ := he
      obtain ⟨halike, hagree⟩ := 
        agree_outcome policies hsafe hfits token between .start 1 h trivial
      obtain ⟨hendings, hlast⟩ := ih hrest hagree
      simp only [Side.history_pass]
      exact ⟨.cons halike hendings, hlast⟩

end Rest

/-! ## Histories -/

/-- A store where no call fails or hangs and an API server that hold the same
do the same: in any history of passes and edits the passes end alike, one by
one, and the store and the server hold the same afterwards. -/
theorem a_store_and_an_api_server_stay_in_lockstep {σ : Type} (server : Rest.ApiServer σ)
    {s : Store} {u : σ} (hs : s.Reachable) (hfailures : s.failures = [])
    (hhanging : s.hanging = []) (hu : server.sound u) (hsame : s.contents = server.contents u)
    {episodes : List Episode} (haddressed : ∀ e ∈ episodes, e.Addressed) :
    List.Forall₂ AlikeEnding (Store.side.history episodes s).1
        (server.side.history episodes u).1 ∧
      (Store.side.history episodes s).2.contents =
        server.contents (server.side.history episodes u).2 := by
  have hagree : Rest.Agree server s u := ⟨hs.good, hfailures, hhanging, hu, hsame⟩
  obtain ⟨hendings, hlast⟩ := hagree.history haddressed
  exact ⟨hendings, hlast.contents⟩

/-- An intent comes, is served, loses its endpoint while it is served again,
and goes. -/
def llamaLife : List Episode :=
  [.edit (.insert (k := .intent) llama),
    .pass .standard llamaId [] fun _ => [],
    .pass .standard llamaId [] fun n => if n = 5 then [.remove .endpoint llamaId] else [],
    .edit (.remove .intent llamaId),
    .pass .standard llamaId [] fun _ => []]

theorem llama_addressed : ∀ e ∈ llamaLife, e.Addressed := by
  have hsafe : Rest.Safe llamaId :=
    ⟨.of_all (by decide) (by decide), .of_all (by decide) (by decide)⟩
  have hfits : Rest.Fits llamaId :=
    ⟨by decide +kernel, fun c => by cases c <;> decide +kernel⟩
  simp only [llamaLife, List.forall_mem_cons, List.not_mem_nil, false_implies, implies_true,
    Episode.Addressed, hsafe, hfits, and_self]

/-- A cluster that starts empty goes along with an empty store. -/
theorem a_store_and_a_cluster_see_the_life_of_llama :
    List.Forall₂ AlikeEnding (Store.side.history llamaLife Store.empty).1
        (Cluster.Server.apiServer.side.history llamaLife {}).1 ∧
      (Store.side.history llamaLife Store.empty).2.contents =
        (Cluster.Server.apiServer.side.history llamaLife {}).2.contents :=
  a_store_and_an_api_server_stay_in_lockstep Cluster.Server.apiServer .refl rfl rfl
    Cluster.Server.sound_empty rfl llama_addressed

/-! ## Long names -/

/-- Over HTTP there is no way to ask for an intent whose name is too long. -/
theorem outcome_of_long_name {σ : Type} (server : Rest.ApiServer σ) (policies : PolicyTable)
    {id : Identity} (h : Rest.maxTargetBytes < id.name.toList.length) (u : σ) :
    (Stage.start.rest policies id).outcome (server.side.surroundings [] fun _ => []) 1 u =
      (some (.error ((Rest.classify .intent id .noRequest).wrap (.intentLookup id))), u) := by
  have hplane : Rest.plane server.send (.get .intent id) u =
      (.answers (.error (Rest.classify .intent id .noRequest)), u) := by
    simp only [Rest.plane, Call.identity?, Rest.request?_of_long_name h]
    rfl
  rw [Stage.Asks.start.outcome_eq]
  simp only [Side.surroundings, Side.editAll, List.foldl_nil, Rest.ApiServer.side, hplane]
  rfl

/-- A name that is safe in URLs and too long for any. -/
def longId : Identity := ⟨"models", String.ofList (List.replicate 65600 'a')⟩

theorem length_longId : longId.name.toList.length = 65600 := by
  rw [longId, String.toList_ofList, List.length_replicate]

theorem safe_longId : Rest.Safe longId where
  ns := .of_all (by decide) (by decide)
  name := by
    constructor
    case nonempty =>
      intro h
      have hlength := length_longId
      rw [h] at hlength
      cases hlength
    case unreserved =>
      intro c hc
      rw [longId, String.toList_ofList] at hc
      rw [List.eq_of_mem_replicate hc]
      decide

/-- An empty cluster does not tell a pass that the intent is gone if its name
is too long, and an empty store does. -/
theorem a_long_name_parts_a_store_and_a_cluster :
    let visit : List Episode := [.pass .standard longId [] fun _ => []]
    Rest.Safe longId ∧ Store.empty.Reachable ∧ Cluster.Server.apiServer.sound {} ∧
      Store.empty.contents = Cluster.Server.apiServer.contents {} ∧
      (Store.side.history visit Store.empty).1 = [some (.ok .intentGone)] ∧
      (Cluster.Server.apiServer.side.history visit {}).1 =
        [some (.error ((Rest.classify .intent longId .noRequest).wrap (.intentLookup longId)))] ∧
      ¬ List.Forall₂ AlikeEnding (Store.side.history visit Store.empty).1
        (Cluster.Server.apiServer.side.history visit {}).1 := by
  have hlong : Rest.maxTargetBytes < longId.name.toList.length := by
    rw [length_longId]
    decide
  have hstore : (Store.side.history [.pass .standard longId [] fun _ => []] Store.empty).1 =
      [some (.ok .intentGone)] := rfl
  have hserver : (Cluster.Server.apiServer.side.history
      [.pass .standard longId [] fun _ => []] {}).1 = [some (.error
        ((Rest.classify .intent longId .noRequest).wrap (.intentLookup longId)))] := by
    rw [Side.history_pass, outcome_of_long_name _ _ hlong]
    rfl
  refine ⟨safe_longId, .refl, Cluster.Server.sound_empty, rfl, hstore, hserver, ?_⟩
  rw [hstore, hserver]
  intro h
  cases h with
  | cons h _ => cases h

end ServingOperator
