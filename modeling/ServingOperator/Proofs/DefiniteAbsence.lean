-- The law of absence. Whatever comes back over HTTP, a pass takes an object
-- to be absent only if it is told so. It creates what it was told is
-- absent, it replaces what it was shown, and anything else that comes back
-- when it reads ends it.
import ServingOperator.Proofs.CallOrder
import ServingOperator.Proofs.RequestTargets
import ServingOperator.Proofs.VersionForms
import ServingOperator.Rest.Client

namespace ServingOperator.Rest

/-! ## Exchanges -/

/-- A request that was sent, and what became of it. -/
structure Exchange where
  request : Request
  outcome : Transmission

/-- The transport, with all that is sent over it kept in order. -/
def Transport.logged {σ : Type} (send : Transport σ) : Transport (σ × List Exchange) :=
  fun req s => ((send req s.1).1, (send req s.1).2, s.2 ++ [⟨req, (send req s.1).1⟩])

namespace Exchange

/-- It is the request for the object of a kind that `id` names. -/
def Gets (x : Exchange) (k : Kind) (id : Identity) : Prop :=
  request? (.get k id) id = some x.request

/-- An API error with the reason that there is no such object came back. -/
def SaysAbsent (x : Exchange) : Prop :=
  ∃ res st, x.outcome = .response res ∧ textOf res = .error (.api st) ∧
    st.reason = ApiStatus.notFound

/-- A success came back, with a body that decodes as this object. -/
def Shows (x : Exchange) {k : Kind} (o : k.Object) : Prop :=
  ∃ res, x.outcome = .response res ∧ objectOf k res = .ok o

/-- What a get of an object is taken for. -/
def Found (x : Exchange) {k : Kind} : Option k.Object → Prop
  | none => x.SaysAbsent
  | some o => x.Shows o

/-- It is the request for a call. -/
def Makes (x : Exchange) (call : Call) : Prop :=
  ∃ i, call.identity? = .ok i ∧ request? call i = some x.request

/-- The version that the object in the body names. -/
def version? (x : Exchange) : Option Json :=
  x.request.body.bind (·.at? ["metadata", "resourceVersion"])

/-- A write is warranted by what was sent before it: right before a create
the child was said to be absent, and right before a replace it was shown
with the version that the new body names. -/
structure Warranted (id : Identity) (before : List Exchange) (x : Exchange) : Prop where
  create : x.request.method = .post → ∃ (c : Child) (o : c.Object) (g : Exchange),
    x.Makes (.create c.kind o) ∧ before.getLast? = some g ∧ g.Gets c.kind id ∧ g.SaysAbsent
  replace : x.request.method = .put → ∃ (c : Child) (o shown : c.Object) (g : Exchange),
    x.Makes (.replace c.kind o) ∧ before.getLast? = some g ∧ g.Gets c.kind id ∧
      g.Shows shown ∧ x.version? = (Store.versionOf shown).map Json.str

end Exchange

/-- All writes that were sent are warranted, and nothing is read twice. -/
structure Clean (id : Identity) (sent : List Exchange) : Prop where
  warranted : ∀ before x after, sent = before ++ x :: after → x.Warranted id before
  once : ∀ k before x after, sent = before ++ x :: after → x.Gets k id →
    ∀ y ∈ before, ¬ y.Gets k id

/-- What a pass over `id` sent, and how it ended, if it has. -/
structure Definite (id : Identity) (sent : List Exchange) (ending : Option Verdict) : Prop
    extends Clean id sent where
  /-- If neither the object nor its absence comes back, the pass fails, and
  nothing more is sent. -/
  otherwise : ∀ (k : Kind) before x after, sent = before ++ x :: after → x.Gets k id →
    x.outcome ≠ .hangs → ¬ x.SaysAbsent → (∀ o : k.Object, ¬ x.Shows o) →
    after = [] ∧ ∃ r, ending = some (.error r) ∧ r.top = (⟨.get, k, id⟩ : CallRecord).context
  /-- The intent is gone only if it was said to be absent. -/
  gone : ending = some (.ok .intentGone) → ∃ x, sent = [x] ∧ x.Gets .intent id ∧ x.SaysAbsent

/-! ## What an answer says -/

theorem textOf_of_objectOf {k : Kind} {res : Response} {st : ApiStatus}
    (h : objectOf k res = .error (.api st)) : textOf res = .error (.api st) := by
  unfold objectOf at h
  cases htext : textOf res with
  | error e =>
    rw [htext] at h
    cases h
    rfl
  | ok text =>
    rw [htext] at h
    simp only [bind, Except.bind] at h
    split at h <;> cases h

/-- A get that is answered was told of the object or of its absence. -/
theorem found_of_served {k : Kind} {id : Identity} {x : Exchange} {current : Option k.Object}
    (h : served (.get k id) id x.outcome = .answers (.ok current)) : x.Found current := by
  cases houtcome : x.outcome with
  | hangs | failed =>
    rw [houtcome] at h
    cases h
  | response res =>
    rw [houtcome] at h
    simp only [served, answer] at h
    cases hobject : objectOf k res with
    | ok o =>
      rw [hobject] at h
      cases h
      exact ⟨res, houtcome, hobject⟩
    | error e =>
      rw [hobject] at h
      cases e with
      | api st =>
        simp only [absentAsNone] at h
        split at h
        case isTrue hreason =>
          cases h
          exact ⟨res, st, houtcome, textOf_of_objectOf hobject, hreason⟩
        case isFalse => cases h
      | transport | undecodable | noRequest | noText => cases h

theorem hangs_of_served {call : Call} {i : Identity} {t : Transmission}
    (h : served call i t = .hangs) : t = .hangs := by
  cases t with
  | hangs => rfl
  | failed | response => cases h

/-! ## Calls -/

theorem not_gets_of_write {call : Call} {i id : Identity} {x : Exchange}
    (h : request? call i = some x.request) (hwrite : call.verb ≠ .get) (k : Kind) :
    ¬ x.Gets k id := by
  intro hx
  have hget := (request?_eq_some.1 hx).2.1
  rw [(request?_eq_some.1 h).2.1] at hget
  cases call with
  | get => exact hwrite rfl
  | create | replace => cases hget

section

variable {σ : Type} (send : Transport σ) {call : Call} {i : Identity} (s : σ)
  (sent : List Exchange)

/-- A call of an object that does not say who it is fails, and nothing is sent. -/
theorem plane_unnamed {r : Report PlaneError} (hr : call.identity? = .error r) :
    Rest.plane send.logged call (s, sent) = (.answers (.error r), (s, sent)) := by
  simp only [Rest.plane, hr]

theorem plane_unsent (hid : call.identity? = .ok i) (hrequest : request? call i = none) :
    Rest.plane send.logged call (s, sent) =
      (.answers (.error (classify call.kind i .noRequest)), (s, sent)) := by
  simp only [Rest.plane, hid, hrequest]

theorem plane_sent (hid : call.identity? = .ok i) {req : Request}
    (hrequest : request? call i = some req) :
    Rest.plane send.logged call (s, sent) =
      (served call i (send req s).1,
        ((send req s).2, sent ++ [⟨req, (send req s).1⟩])) := by
  simp only [Rest.plane, hid, hrequest, Transport.logged]

end

/-- What becomes of a call, and what of it is kept. -/
theorem plane_logged {σ : Type} (send : Transport σ) (call : Call) (s : σ) (sent : List Exchange) :
    (∃ r, Rest.plane send.logged call (s, sent) = (.answers (.error r), (s, sent))) ∨
      ∃ x i s', request? call i = some x.request ∧ call.identity? = .ok i ∧
        Rest.plane send.logged call (s, sent) = (served call i x.outcome, (s', sent ++ [x])) := by
  cases hid : call.identity? with
  | error r => exact .inl ⟨r, plane_unnamed send s sent hid⟩
  | ok i =>
    cases hrequest : request? call i with
    | none => exact .inl ⟨_, plane_unsent send s sent hid hrequest⟩
    | some req =>
      exact .inr ⟨⟨req, (send req s).1⟩, i, _, hrequest, rfl, plane_sent send s sent hid hrequest⟩

/-! ## One exchange more -/

theorem split_concat {α : Type} {l before after : List α} {a x : α}
    (h : l ++ [a] = before ++ x :: after) :
    (after = [] ∧ before = l ∧ x = a) ∨ ∃ rest, after = rest ++ [a] ∧ l = before ++ x :: rest := by
  rcases List.eq_nil_or_concat after with rfl | ⟨rest, b, rfl⟩
  · obtain ⟨rfl, hx⟩ := List.append_inj' h rfl
    exact .inl ⟨rfl, rfl, (List.cons.inj hx).1.symm⟩
  · rw [List.concat_eq_append, ← List.cons_append, ← List.append_assoc] at h
    obtain ⟨rfl, hb⟩ := List.append_inj' h rfl
    obtain rfl := (List.cons.inj hb).1
    exact .inr ⟨rest, List.concat_eq_append, rfl⟩

theorem Clean.concat {id : Identity} {sent : List Exchange} {x : Exchange} (h : Clean id sent)
    (hwarranted : x.Warranted id sent) (honce : ∀ k, x.Gets k id → ∀ y ∈ sent, ¬ y.Gets k id) :
    Clean id (sent ++ [x]) := by
  constructor
  case warranted =>
    intro before y after hsplit
    rcases split_concat hsplit with ⟨_, rfl, rfl⟩ | ⟨rest, _, hsent⟩
    · exact hwarranted
    · exact h.warranted before y rest hsent
  case once =>
    intro k before y after hsplit
    rcases split_concat hsplit with ⟨_, rfl, rfl⟩ | ⟨rest, _, hsent⟩
    · exact honce k
    · exact h.once k before y rest hsent

/-! ## Stages -/

/-- The kinds that a pass has read before it is at a stage. -/
def kindsRead : Stage → List Kind
  | .start => []
  | .reading .workload _ _ => [.intent]
  | .writing .workload _ _ _ _ | .reading (.endpoint _) _ _ => [.intent, .workload]
  | .writing (.endpoint _) _ _ _ _ | .ended _ => [.intent, .workload, .endpoint]

/-- What a pass goes by at a stage is what it was told last. -/
def GoesBy (id : Identity) (sent : List Exchange) : Stage → Prop
  | .start => sent = []
  | .reading _ _ _ => True
  | .writing turn _ _ _ current =>
    ∃ g, sent.getLast? = some g ∧ g.Gets turn.child.kind id ∧ g.Found current
  | .ended v => v = .ok .intentGone → ∃ x, sent = [x] ∧ x.Gets .intent id ∧ x.SaysAbsent

/-- The state of what was sent when a pass is at a stage. -/
structure Sound (id : Identity) (st : Stage) (sent : List Exchange) : Prop extends
    Clean id sent where
  read : ∀ x ∈ sent, ∀ k, x.Gets k id → k ∈ kindsRead st
  found : ∀ x ∈ sent, ∀ k, x.Gets k id → ∃ current : Option k.Object, x.Found current
  goes_by : GoesBy id sent st

theorem sound_start (id : Identity) : Sound id .start [] where
  warranted := fun before _ _ h => by cases before <;> cases h
  once := fun _ before _ _ h => by cases before <;> cases h
  read := fun _ h => nomatch h
  found := fun _ h => nomatch h
  goes_by := rfl

section

variable {policies : PolicyTable} {id : Identity} {st : Stage} {context : ReconcileError}
  {call : Call} {after : call.Answer → Stage} {sent : List Exchange} {x : Exchange} {i : Identity}

/-- A stage whose request reads an object is the stage for reading it. -/
theorem call_of_gets (hasks : st.Asks policies id context call after)
    (hid : call.identity? = .ok i) (hrequest : request? call i = some x.request) {k : Kind}
    (hgets : x.Gets k id) : call = .get k id := by
  cases hasks with
  | start | reading =>
    cases hid
    rw [kind_of_get hgets hrequest]
  | writing turn intent policy owner current =>
    refine absurd hgets (not_gets_of_write hrequest ?_ k)
    cases current with
    | none | some => exact nofun

theorem kindsRead_subset (hasks : st.Asks policies id context call after) (a : call.Answer) :
    kindsRead st ⊆ kindsRead (after a) := by
  cases hasks with
  | start => exact List.nil_subset _
  | reading turn intent policy =>
    unfold Stage.afterRead
    cases turn <;> cases intent.reference <;> simp [kindsRead]
  | writing turn => cases turn <;> simp [kindsRead, Stage.afterWrite]

/-- A kind is read once, and then it counts as read. -/
theorem reads_once (hasks : st.Asks policies id context call after) {k : Kind}
    (hcall : call = .get k id) :
    k ∉ kindsRead st ∧ context = (⟨.get, k, id⟩ : CallRecord).context ∧
      ∀ a, k ∈ kindsRead (after a) := by
  have hcontext := hasks.context_eq
  cases hasks with
  | start =>
    cases hcall
    refine ⟨by simp [kindsRead], hcontext, fun a => ?_⟩
    cases a with
    | none => simp [Stage.afterIntent, kindsRead]
    | some intent =>
      simp only [Stage.afterIntent]
      cases policies.resolve intent.spec.runtimeSelector <;> simp [kindsRead]
  | reading turn intent policy =>
    cases hcall
    unfold Stage.afterRead
    refine ⟨by cases turn <;> simp [kindsRead], hcontext, ?_⟩
    cases turn <;> cases intent.reference <;> simp [kindsRead]
  | writing turn intent policy owner current =>
    cases current with
    | none | some => cases hcall

/-- The request of a stage is warranted, and it reads nothing that was read
before. -/
theorem Sound.clean_concat (h : Sound id st sent)
    (hasks : st.Asks policies id context call after) (hid : call.identity? = .ok i)
    (hrequest : request? call i = some x.request) : Clean id (sent ++ [x]) := by
  obtain ⟨_, hmethod, hbody⟩ := request?_eq_some.1 hrequest
  refine h.toClean.concat ?_ fun k hk y hy hgets => ?_
  · cases hasks with
    | start | reading =>
      exact ⟨fun hpost => absurd (hmethod.symm.trans hpost) nofun,
        fun hput => absurd (hmethod.symm.trans hput) nofun⟩
    | writing turn intent policy owner current =>
      obtain ⟨g, hlast, hgets, hfound⟩ := h.goes_by
      cases current with
      | none =>
        exact ⟨fun _ => ⟨turn.child, _, g, ⟨i, hid, hrequest⟩, hlast, hgets, hfound⟩,
          fun hput => absurd (hmethod.symm.trans hput) nofun⟩
      | some shown =>
        refine ⟨fun hpost => absurd (hmethod.symm.trans hpost) nofun,
          fun _ => ⟨turn.child, _, shown, g, ⟨i, hid, hrequest⟩, hlast, hgets, hfound, ?_⟩⟩
        rw [Exchange.version?, hbody, Child.write, body, Option.bind_some, Kind.at?_version,
          Child.versionOf_carryOver]
  · have hcall := call_of_gets hasks hid hrequest hk
    exact (reads_once hasks hcall).1 (h.read y hy k hgets)

/-- After an answer the next stage goes by what the answer says. -/
theorem Sound.goesBy_answered (h : Sound id st sent)
    (hasks : st.Asks policies id context call after) (hid : call.identity? = .ok i)
    (hrequest : request? call i = some x.request) {a : call.Answer}
    (hserved : served call i x.outcome = .answers (.ok a)) :
    GoesBy id (sent ++ [x]) (after a) := by
  cases hasks with
  | start =>
    cases hid
    have hfound := found_of_served hserved
    obtain rfl : sent = [] := h.goes_by
    cases a with
    | none => exact fun _ => ⟨x, rfl, hrequest, hfound⟩
    | some intent =>
      simp only [Stage.afterIntent]
      cases policies.resolve intent.spec.runtimeSelector with
      | error r =>
        intro hv
        cases hv
      | ok policy => trivial
  | reading turn intent policy =>
    cases hid
    unfold Stage.afterRead
    cases intent.reference with
    | error r =>
      intro hv
      cases hv
    | ok owner => exact ⟨x, by simp, hrequest, found_of_served hserved⟩
  | writing turn =>
    cases turn with
    | workload => trivial
    | endpoint =>
      intro hv
      cases hv

theorem Sound.answered (h : Sound id st sent) (hasks : st.Asks policies id context call after)
    (hid : call.identity? = .ok i) (hrequest : request? call i = some x.request) {a : call.Answer}
    (hserved : served call i x.outcome = .answers (.ok a)) :
    Sound id (after a) (sent ++ [x]) where
  toClean := h.clean_concat hasks hid hrequest
  read := by
    intro y hy k hgets
    rcases List.mem_append.1 hy with hy | hy
    · exact kindsRead_subset hasks a (h.read y hy k hgets)
    · obtain rfl := List.mem_singleton.1 hy
      exact (reads_once hasks (call_of_gets hasks hid hrequest hgets)).2.2 a
  found := by
    intro y hy k hgets
    rcases List.mem_append.1 hy with hy | hy
    · exact h.found y hy k hgets
    · obtain rfl := List.mem_singleton.1 hy
      obtain rfl := call_of_gets hasks hid hrequest hgets
      cases hid
      exact ⟨a, found_of_served hserved⟩
  goes_by := h.goesBy_answered hasks hid hrequest hserved

/-- A pass that stops at a stage before it sends anything more. -/
theorem Sound.definite (h : Sound id st sent) {ending : Option Verdict}
    (hgone : ending = some (.ok .intentGone) →
      ∃ x, sent = [x] ∧ x.Gets .intent id ∧ x.SaysAbsent) : Definite id sent ending where
  toClean := h.toClean
  otherwise := by
    intro k before y after hsplit hgets _ habsent hshown
    obtain ⟨current, hfound⟩ := h.found y (by simp [hsplit]) k hgets
    cases current with
    | none => exact absurd hfound habsent
    | some o => exact absurd hfound (hshown o)
  gone := hgone

/-- A pass that stops at an exchange. -/
theorem Sound.definite_concat (h : Sound id st sent)
    (hasks : st.Asks policies id context call after) (hid : call.identity? = .ok i)
    (hrequest : request? call i = some x.request) {ending : Option Verdict}
    (hgone : ending ≠ some (.ok .intentGone))
    (hstop : x.outcome ≠ .hangs → ∃ r, ending = some (.error r) ∧ r.top = context) :
    Definite id (sent ++ [x]) ending where
  toClean := h.clean_concat hasks hid hrequest
  otherwise := by
    intro k before y after' hsplit hgets hanswered habsent hshown
    rcases split_concat hsplit with ⟨rfl, rfl, rfl⟩ | ⟨rest, _, hsent⟩
    · obtain ⟨r, hending, htop⟩ := hstop hanswered
      have hcall := call_of_gets hasks hid hrequest hgets
      exact ⟨rfl, r, hending, htop.trans (reads_once hasks hcall).2.1⟩
    · obtain ⟨current, hfound⟩ := h.found y (by simp [hsent]) k hgets
      cases current with
      | none => exact absurd hfound habsent
      | some o => exact absurd hfound (hshown o)
  gone := fun hending => absurd hending hgone

end

/-- From any stage that is sound, however its requests are answered. -/
theorem definite_outcome {σ : Type} (policies : PolicyTable) (id : Identity) (t : Token)
    (send : Transport σ) (st : Stage) : ∀ (n : Nat) (s : σ) (sent : List Exchange),
    Sound id st sent →
      let r := (st.rest policies id).outcome { plane := Rest.plane send.logged, token := t } n
        (s, sent)
      Definite id r.2.2 r.1 := by
  induction st using Stage.induction_asks policies id with
  | ended v =>
    intro n s sent h
    exact h.definite fun hv => h.goes_by (Option.some.inj hv)
  | @asks st context call after hasks ih =>
    intro n s sent h r
    have hr : r = _ := hasks.outcome_eq _ n (s, sent)
    simp only at hr
    split at hr
    · rw [hr]
      exact h.definite nofun
    · rcases plane_logged send call s sent with ⟨e, hplane⟩ | ⟨x, i, s', hrequest, hid, hplane⟩
      · simp only [hplane] at hr
        rw [hr]
        exact h.definite nofun
      · rcases hserved : served call i x.outcome with _ | ⟨e | a⟩
        · simp only [hplane, hserved] at hr
          rw [hr]
          refine h.definite_concat hasks hid hrequest ?_ ?_
          · simp only
            split
            · exact nofun
            · exact nofun
          · exact fun hanswered => absurd (hangs_of_served hserved) hanswered
        · simp only [hplane, hserved] at hr
          rw [hr]
          exact h.definite_concat hasks hid hrequest nofun fun _ => ⟨_, rfl, rfl⟩
        · simp only [hplane, hserved] at hr
          rw [hr]
          exact ih a (n + 1) s' (sent ++ [x]) (h.answered hasks hid hrequest hserved)

/-- Whatever comes back to a pass over HTTP, if anything, and whenever its
token fires: it writes only what it was told of by the exchange before, it
creates a child only if that was said to be absent, and it stops when it
reads anything else. -/
theorem only_what_is_said_to_be_absent_is_created {σ : Type} (policies : PolicyTable)
    (id : Identity) (t : Token) (send : Transport σ) (s : σ) :
    let r := (Pass.reconcile policies id).run { plane := Rest.plane send.logged, token := t }
      (s, [])
    Definite id r.state.2 r.ending := by
  have h := definite_outcome policies id t send .start 1 s [] (sound_start id)
  have hrest : Stage.rest policies id .start = Pass.reconcile policies id := rfl
  simp only [hrest, Pass.outcome] at h
  simp only [Pass.run]
  exact h

end ServingOperator.Rest
